namespace CodeGraph

/-- An attribute without value stands by its name alone. -/
structure MarkupAttribute where
  name : String
  value : Option String

inductive Markup
  | text (content : String)
  | leaf (name : String) (attributes : List MarkupAttribute)
  | node (name : String) (attributes : List MarkupAttribute) (children : List Markup)

namespace Markup

def attr (name value : String) : MarkupAttribute := ⟨name, some value⟩

/-- What differs between dialects: the escaped characters and the end of a leaf. -/
structure Dialect where
  escapeChar : Char → List Char
  leafEnd : List Char

def documentEscape (c : Char) : List Char :=
  if c = '&' then ['&', 'a', 'm', 'p', ';']
  else if c = '<' then ['&', 'l', 't', ';']
  else if c = '>' then ['&', 'g', 't', ';']
  else if c = '"' then ['&', 'q', 'u', 'o', 't', ';']
  else if c = '\'' then ['&', '#', '3', '9', ';']
  else [c]

def pageEscape (c : Char) : List Char := if c = '\'' then [c] else documentEscape c

def Dialect.document : Dialect := ⟨documentEscape, ['/', '>']⟩

def Dialect.page : Dialect := ⟨pageEscape, ['>']⟩

/-- A text for the content or an attribute of a document. -/
def escape (s : String) : String := String.ofList (s.toList.flatMap documentEscape)

def attributeChars (d : Dialect) (a : MarkupAttribute) : List Char :=
  ' ' :: a.name.toList ++
    match a.value with
    | some v => '=' :: '"' :: v.toList.flatMap d.escapeChar ++ ['"']
    | none => []

def openTag (d : Dialect) (name : String) (attributes : List MarkupAttribute) : List Char :=
  '<' :: name.toList ++ attributes.flatMap (attributeChars d)

mutual

def chars (d : Dialect) : Markup → List Char
  | .text s => s.toList.flatMap d.escapeChar
  | .leaf name attributes => openTag d name attributes ++ d.leafEnd
  | .node name attributes children =>
    openTag d name attributes ++ '>' :: charsAll d children ++ '<' :: '/' :: name.toList ++ ['>']

def charsAll (d : Dialect) : List Markup → List Char
  | [] => []
  | m :: rest => chars d m ++ charsAll d rest

end

def render (d : Dialect) (m : Markup) : String := String.ofList (m.chars d)

def renderAll (d : Dialect) (ms : List Markup) : String := String.ofList (charsAll d ms)

end Markup

end CodeGraph
