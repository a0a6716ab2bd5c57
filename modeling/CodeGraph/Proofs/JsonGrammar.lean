import CodeGraph.Json.Number
import CodeGraph.Json.Text

namespace CodeGraph.Json

def IsBlank (cs : List Char) : Prop := ∀ c ∈ cs, Cursor.isBlank c = true

/-- A piece of a text between quotes: a character for itself, a letter behind a backslash with the
character it stands for, or four digits with the code they make. -/
inductive Piece
  | plain (char : Char) (h : char ≠ '"' ∧ char ≠ '\\' ∧ 0x20 ≤ char.toNat)
  | short (letter char : Char) (h : Reader.simpleEscape? letter = some char)
  | code (digits : List Char) (unit : Nat)
      (h : digits.length = 4 ∧ Reader.fourHex? digits = some unit)

def Piece.chars : Piece → List Char
  | .plain c _ => [c]
  | .short letter _ _ => ['\\', letter]
  | .code digits _ _ => '\\' :: 'u' :: digits

theorem Piece.length_chars_pos (p : Piece) : 0 < p.chars.length := by
  cases p <;> exact Nat.succ_pos _

abbrev Quoted := List Piece

namespace Quoted

def chars (q : Quoted) : List Char := q.flatMap Piece.chars

theorem chars_cons (p : Piece) (q : Quoted) : chars (p :: q) = p.chars ++ chars q := rfl

def spelling (q : Quoted) : List Char := '"' :: q.chars ++ ['"']

theorem spelling_append (q : Quoted) (rest : List Char) :
    q.spelling ++ rest = '"' :: (q.chars ++ '"' :: rest) := by
  simp [spelling]

def isHighHalf (n : Nat) : Bool := 0xd800 ≤ n && n ≤ 0xdbff

def isLowHalf (n : Nat) : Bool := 0xdc00 ≤ n && n ≤ 0xdfff

def paired (high low : Nat) : Char :=
  Char.ofNat ((high - 0xd800) * 0x400 + (low - 0xdc00) + 0x10000)

/-- The characters meant; none where a half of a surrogate pair stands alone. -/
def meant? : Quoted → Option (List Char)
  | [] => some []
  | .plain c _ :: q => (meant? q).map (c :: ·)
  | .short _ c _ :: q => (meant? q).map (c :: ·)
  | .code _ n _ :: q =>
    if isLowHalf n then none
    else if isHighHalf n then
      match q with
      | .code _ m _ :: q => if isLowHalf m then (meant? q).map (paired n m :: ·) else none
      | _ => none
    else (meant? q).map (Char.ofNat n :: ·)

def text? (q : Quoted) : Option String := q.meant?.map String.ofList

end Quoted

structure Exponent where
  mark : Char
  sign : List Char
  digits : List Char
  isMark : mark = 'e' ∨ mark = 'E'
  isSign : sign = [] ∨ sign = ['+'] ∨ sign = ['-']
  nonempty : digits ≠ []
  isDigits : ∀ c ∈ digits, Reader.isDigit c = true

def floatOf? (negative : Bool) (s : Significand) : Option JsonNumber :=
  s.toFloat?.map (Reader.signedFloat negative)

namespace Exponent

def chars (e : Exponent) : List Char := e.mark :: e.sign ++ e.digits

def below (e : Exponent) : Bool := e.sign == ['-']

theorem chars_append (e : Exponent) (rest : List Char) :
    e.chars ++ rest = e.mark :: (e.sign ++ (e.digits ++ rest)) := by
  simp [chars]

theorem head?_chars (e : Exponent) (rest : List Char) : (e.chars ++ rest).head? = some e.mark := rfl

theorem isMark_beq (e : Exponent) :
    (some e.mark == some 'e' || some e.mark == some 'E') = true := by
  rcases e.isMark with h | h <;> rw [h] <;> decide

def scaled? (e : Exponent) (negative : Bool) (s : Significand) : Option JsonNumber :=
  match exponentOf 0 0 e.digits with
  | .ok n => floatOf? negative ⟨s.value, if e.below then s.exponent - n else s.exponent + n⟩
  | .error _ => if s.value != 0 && !e.below then none else some (Reader.signedFloat negative 0.0)

end Exponent

/-- The digits of a whole number: none leads with a zero but zero itself. -/
structure IsWhole (ds : List Char) : Prop where
  nonempty : ds ≠ []
  isDigits : ∀ c ∈ ds, Reader.isDigit c = true
  noLeadingZero : ∀ cs, ds = '0' :: cs → cs = []

/-- A number as it is written. It has no fraction if `fraction` is empty. -/
structure Literal where
  negative : Bool
  whole : List Char
  fraction : List Char
  exponent : Option Exponent
  isWhole : IsWhole whole
  isFraction : ∀ c ∈ fraction, Reader.isDigit c = true

namespace Literal

def fractionChars (l : Literal) : List Char :=
  if l.fraction = [] then [] else '.' :: l.fraction

def exponentChars (l : Literal) : List Char :=
  match l.exponent with
  | none => []
  | some e => e.chars

def unsigned (l : Literal) : List Char := l.whole ++ (l.fractionChars ++ l.exponentChars)

def chars (l : Literal) : List Char := if l.negative then '-' :: l.unsigned else l.unsigned

/-- The number with the given whole digits; none if it is too large for a float. -/
def numberFrom? (l : Literal) (s : Significand × Bool) : Option JsonNumber :=
  match l.exponent with
  | some e => e.scaled? l.negative (s.1.addFraction l.fraction)
  | none =>
    if l.fraction = [] ∧ s.2 = true then some (Reader.wholeNumber l.negative s.1.value)
    else floatOf? l.negative (s.1.addFraction l.fraction)

def number? (l : Literal) : Option JsonNumber := l.numberFrom? (Significand.ofWhole 0 l.whole)

end Literal

/-- A document, with what a value forgets: the order of its members, repeated keys, escapes, and the
digits of its numbers. -/
inductive Tree
  | null
  | bool (value : Bool)
  | number (literal : Literal)
  | text (value : Quoted)
  | list (items : List Tree)
  | object (members : List (Quoted × Tree))

/-- What stands before an element: nothing before the first, else blanks and a comma. -/
def IsGap (first : Bool) (gap : List Char) : Prop :=
  if first then gap = [] else ∃ blanks, gap = blanks ++ [','] ∧ IsBlank blanks

mutual

/-- The text is a spelling of the tree, without blanks around it. -/
def Spells : Tree → List Char → Prop
  | .null, cs => cs = ['n', 'u', 'l', 'l']
  | .bool true, cs => cs = ['t', 'r', 'u', 'e']
  | .bool false, cs => cs = ['f', 'a', 'l', 's', 'e']
  | .number l, cs => cs = l.chars
  | .text q, cs => cs = q.spelling
  | .list items, cs => ∃ inner, cs = '[' :: inner ++ [']'] ∧ SpellsItems true items inner
  | .object members, cs =>
    ∃ inner, cs = '\x7b' :: inner ++ ['\x7d'] ∧ SpellsMembers true members inner

def SpellsItems : Bool → List Tree → List Char → Prop
  | _, [], cs => IsBlank cs
  | first, t :: items, cs => ∃ gap blanks used rest, cs = gap ++ (blanks ++ (used ++ rest)) ∧
      IsGap first gap ∧ IsBlank blanks ∧ Spells t used ∧ SpellsItems false items rest

def SpellsMembers : Bool → List (Quoted × Tree) → List Char → Prop
  | _, [], cs => IsBlank cs
  | first, (q, t) :: members, cs => ∃ gap blanks middle before used rest,
      cs = gap ++ (blanks ++ ((q.spelling ++ (middle ++ ':' :: (before ++ used))) ++ rest)) ∧
      IsGap first gap ∧ IsBlank blanks ∧ (IsBlank middle ∧ IsBlank before ∧ Spells t used) ∧
      SpellsMembers false members rest

end

/-- The text is a document with that tree. -/
def Writes (t : Tree) (s : String) : Prop :=
  ∃ blanks cs after, s.toList = blanks ++ (cs ++ after) ∧ IsBlank blanks ∧ Spells t cs ∧
    IsBlank after

namespace Tree

/-- The value of a tree, with its lists and objects taken by the two functions. -/
def valueWith? (list : List Tree → Option Json) (object : List (Quoted × Tree) → Option Json) :
    Tree → Option Json
  | .null => some .null
  | .bool b => some (.bool b)
  | .number l => l.number?.map .number
  | .text q => q.text?.map .text
  | .list items => list items
  | .object members => object members

/-- Adds a member to those before it; the last of several equal keys counts. -/
def addMember? (value? : Tree → Option Json) (read : List (String × Json)) (m : Quoted × Tree) :
    Option (List (String × Json)) := do
  return insertMember (← m.1.text?) (← value? m.2) read

/-- The value of a tree in which at most `depth` brackets are open at once. -/
def json? : Nat → Tree → Option Json
  | 0 => valueWith? (fun _ => none) fun _ => none
  | depth + 1 =>
    valueWith? (fun items => (items.mapM (json? depth)).map .list)
      fun members => (members.foldlM (addMember? (json? depth)) []).map .object

def Readable (depth : Nat) (t : Tree) : Prop := (t.json? depth).isSome = true

instance (depth : Nat) (t : Tree) : Decidable (t.Readable depth) :=
  inferInstanceAs (Decidable (_ = true))

end Tree

end CodeGraph.Json
