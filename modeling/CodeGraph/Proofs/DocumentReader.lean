import CodeGraph.Drawing.Markup

namespace CodeGraph.Document

def isNameChar (c : Char) : Bool := c.isAlphanum || c == '-' || c == '_' || c == '.'

def entity? : List Char → Option Char
  | ['a', 'm', 'p'] => some '&'
  | ['l', 't'] => some '<'
  | ['g', 't'] => some '>'
  | ['q', 'u', 'o', 't'] => some '"'
  | ['#', '3', '9'] => some '\''
  | _ => none

/-- A text being read, and the name of an entity that has begun in it. -/
structure Passage where
  text : List Char
  entity : Option (List Char)

namespace Passage

def empty : Passage := ⟨[], none⟩

def next? (p : Passage) (c : Char) : Option Passage :=
  match p.entity with
  | none => some (if c = '&' then ⟨p.text, some []⟩ else ⟨p.text ++ [c], none⟩)
  | some name =>
    if c = ';' then (entity? name).map fun d => ⟨p.text ++ [d], none⟩
    else some ⟨p.text, some (name ++ [c])⟩

def end? (p : Passage) : Option (List Char) := if p.entity.isNone then some p.text else none

end Passage

structure Tag where
  name : String
  attributes : List MarkupAttribute

/-- Where in the text the reader is: in character data, in a start tag from its name to the slash
before its end, or in an end tag. -/
inductive Mode
  | content (passage : Passage)
  | opened
  | name (name : List Char)
  | key (tag : Tag) (name : List Char)
  | equals (tag : Tag) (name : List Char)
  | value (tag : Tag) (name : List Char) (passage : Passage)
  | valued (tag : Tag)
  | slash (tag : Tag)
  | closing (name : List Char)

structure Frame where
  tag : Tag
  before : List Markup

structure Reader where
  above : List Frame
  done : List Markup
  mode : Mode

def textNodes (text : List Char) : List Markup :=
  if text.isEmpty then [] else [.text (String.ofList text)]

namespace Reader

def start : Reader := ⟨[], [], .content .empty⟩

/-- What may follow the name or an attribute of a start tag. -/
def afterTag? (r : Reader) (tag : Tag) (c : Char) : Option Reader :=
  if c = ' ' then some { r with mode := .key tag [] }
  else if c = '/' then some { r with mode := .slash tag }
  else if c = '>' then some ⟨⟨tag, r.done⟩ :: r.above, [], .content .empty⟩
  else none

/-- The end tag of the innermost element, which must have its name. -/
def close? (r : Reader) (name : List Char) : Option Reader :=
  match r.above with
  | [] => none
  | frame :: above =>
    if frame.tag.name = String.ofList name then
      some ⟨above, frame.before ++ [.node frame.tag.name frame.tag.attributes r.done],
        .content .empty⟩
    else none

def step? (r : Reader) (c : Char) : Option Reader :=
  match r.mode with
  | .content p =>
    if c = '<' then p.end?.map fun text => ⟨r.above, r.done ++ textNodes text, .opened⟩
    else (p.next? c).map fun q => { r with mode := .content q }
  | .opened =>
    if c = '/' then some { r with mode := .closing [] }
    else if isNameChar c then some { r with mode := .name [c] }
    else none
  | .name name =>
    if isNameChar c then some { r with mode := .name (name ++ [c]) }
    else r.afterTag? ⟨String.ofList name, []⟩ c
  | .key tag name =>
    if isNameChar c then some { r with mode := .key tag (name ++ [c]) }
    else if c = '=' ∧ name ≠ [] then some { r with mode := .equals tag name }
    else none
  | .equals tag name => if c = '"' then some { r with mode := .value tag name .empty } else none
  | .value tag name p =>
    if c = '"' then p.end?.map fun text =>
      let entry := Markup.attr (String.ofList name) (String.ofList text)
      { r with mode := .valued ⟨tag.name, tag.attributes ++ [entry]⟩ }
    else if c = '<' then none
    else (p.next? c).map fun q => { r with mode := .value tag name q }
  | .valued tag => r.afterTag? tag c
  | .slash tag =>
    if c = '>' then some ⟨r.above, r.done ++ [.leaf tag.name tag.attributes], .content .empty⟩
    else none
  | .closing name =>
    if isNameChar c then some { r with mode := .closing (name ++ [c]) }
    else if c = '>' then r.close? name
    else none

def run? (r : Reader) (cs : List Char) : Option Reader := cs.foldlM step? r

/-- What has been read, if no tag and no element is open. -/
def result? (r : Reader) : Option (List Markup) :=
  match r.above, r.mode with
  | [], .content p => p.end?.map fun text => r.done ++ textNodes text
  | _, _ => none

end Reader

/-- The elements and texts of a document; none if it is not well formed. This reader knows nothing
of how documents are written. -/
def read? (s : String) : Option (List Markup) := (Reader.start.run? s.toList).bind Reader.result?

def specials : List Char := ['&', '<', '>', '"', '\'']

theorem documentEscape_ordinary {c : Char} (h : c ∉ specials) : Markup.documentEscape c = [c] := by
  simp only [specials, List.mem_cons, List.not_mem_nil, or_false, not_or] at h
  simp [Markup.documentEscape, h]

theorem escape_next? (c : Char) (text : List Char) :
    (Markup.documentEscape c).foldlM Passage.next? ⟨text, none⟩ = some ⟨text ++ [c], none⟩ := by
  by_cases h : c ∈ specials
  · simp only [specials, List.mem_cons, List.not_mem_nil, or_false] at h
    rcases h with rfl | rfl | rfl | rfl | rfl <;> rfl
  · have hamp : c ≠ '&' := fun he => h (he ▸ List.mem_cons_self)
    simp [documentEscape_ordinary h, Passage.next?, hamp]

theorem escapeAll_next? (cs text : List Char) :
    (cs.flatMap Markup.documentEscape).foldlM Passage.next? ⟨text, none⟩ =
      some ⟨text ++ cs, none⟩ := by
  induction cs generalizing text with
  | nil => simp
  | cons c cs ih =>
    rw [List.flatMap_cons, List.foldlM_append, escape_next?]
    simpa using ih (text ++ [c])

theorem documentEscape_safe (c : Char) :
    ∀ d ∈ Markup.documentEscape c, d ∉ ['<', '>', '"', '\''] := by
  by_cases h : c ∈ specials
  · simp only [specials, List.mem_cons, List.not_mem_nil, or_false] at h
    rcases h with rfl | rfl | rfl | rfl | rfl <;> simp [Markup.documentEscape]
  · rw [documentEscape_ordinary h]
    intro d hd hmem
    rw [List.mem_singleton.1 hd] at hmem
    exact h (List.mem_cons_of_mem _ hmem)

namespace Reader

@[simp] theorem run?_nil (r : Reader) : r.run? [] = some r := rfl

@[simp] theorem run?_cons (r : Reader) (c : Char) (cs : List Char) :
    r.run? (c :: cs) = (r.step? c).bind fun q => q.run? cs := rfl

theorem run?_append (r : Reader) (cs ds : List Char) :
    r.run? (cs ++ ds) = (r.run? cs).bind fun q => q.run? ds := List.foldlM_append

/-- A mode that hands its characters to a passage reads an escaped text into it. -/
theorem run?_escape {w : Passage → Reader}
    (hw : ∀ p c, c ∉ ['<', '>', '"', '\''] → (w p).step? c = (p.next? c).map w)
    (text cs : List Char) :
    (w ⟨text, none⟩).run? (cs.flatMap Markup.documentEscape) = some (w ⟨text ++ cs, none⟩) := by
  have hrun (ds : List Char) (p : Passage) (hds : ∀ d ∈ ds, d ∉ ['<', '>', '"', '\'']) :
      (w p).run? ds = (ds.foldlM Passage.next? p).map w := by
    induction ds generalizing p with
    | nil => rfl
    | cons d ds ih =>
      rw [run?_cons, hw p d (hds d List.mem_cons_self), List.foldlM_cons]
      cases p.next? d with
      | none => rfl
      | some q => exact ih q fun e he => hds e (List.mem_cons_of_mem _ he)
  rw [hrun, escapeAll_next?, Option.map_some]
  intro d hd
  obtain ⟨c, -, hc⟩ := List.mem_flatMap.1 hd
  exact documentEscape_safe c d hc

/-- A mode that gathers the characters of a name reads a whole name. -/
theorem run?_name {w : List Char → Reader}
    (hw : ∀ n c, isNameChar c = true → (w n).step? c = some (w (n ++ [c])))
    {cs : List Char} (hcs : cs.all isNameChar = true) (n : List Char) :
    (w n).run? cs = some (w (n ++ cs)) := by
  induction cs generalizing n with
  | nil => simp
  | cons c cs ih =>
    rw [List.all_cons, Bool.and_eq_true] at hcs
    rw [run?_cons, hw n c hcs.1, Option.bind_some, ih hcs.2, List.append_assoc]
    rfl

theorem run?_text (above : List Frame) (done : List Markup) (text cs : List Char) :
    run? ⟨above, done, .content ⟨text, none⟩⟩ (cs.flatMap Markup.documentEscape) =
      some ⟨above, done, .content ⟨text ++ cs, none⟩⟩ := by
  refine run?_escape (w := fun p => ⟨above, done, .content p⟩) (fun p c hc => ?_) text cs
  have hlt : c ≠ '<' := fun he => hc (he ▸ List.mem_cons_self)
  simp only [step?, if_neg hlt]

theorem run?_value (above : List Frame) (done : List Markup) (tag : Tag) (name cs : List Char) :
    run? ⟨above, done, .value tag name .empty⟩ (cs.flatMap Markup.documentEscape) =
      some ⟨above, done, .value tag name ⟨cs, none⟩⟩ := by
  refine run?_escape (w := fun p => ⟨above, done, .value tag name p⟩) (fun p c hc => ?_) [] cs
  simp only [List.mem_cons, not_or] at hc
  simp only [step?, if_neg hc.1, if_neg hc.2.2.1]

end Reader

def isName (s : String) : Bool := !s.toList.isEmpty && s.toList.all isNameChar

def isEntry (a : MarkupAttribute) : Bool := isName a.name && a.value.isSome

@[simp] theorem isEntry_attr (name value : String) :
    isEntry (Markup.attr name value) = isName name := Bool.and_true _

mutual

def wellNamed : Markup → Bool
  | .text _ => true
  | .leaf name attributes => isName name && attributes.all isEntry
  | .node name attributes children =>
    isName name && attributes.all isEntry && wellNamedAll children

def wellNamedAll : List Markup → Bool
  | [] => true
  | m :: rest => wellNamed m && wellNamedAll rest

end

theorem wellNamedAll_iff {ms : List Markup} :
    wellNamedAll ms = true ↔ ∀ m ∈ ms, wellNamed m = true := by
  induction ms with
  | nil => simp [wellNamedAll]
  | cons m rest ih => simp [wellNamedAll, ih]

structure Content where
  done : List Markup
  text : List Char

def Content.nodes (s : Content) : List Markup := s.done ++ textNodes s.text

mutual

/-- The content behind a tree: texts are joined, and other elements stand between them. -/
def Content.add (s : Content) : Markup → Content
  | .text t => ⟨s.done, s.text ++ t.toList⟩
  | .leaf name attributes => ⟨s.nodes ++ [.leaf name attributes], []⟩
  | .node name attributes children =>
    ⟨s.nodes ++ [.node name attributes (Content.addAll ⟨[], []⟩ children).nodes], []⟩

def Content.addAll (s : Content) : List Markup → Content
  | [] => s
  | m :: rest => Content.addAll (s.add m) rest

end

/-- Trees with their texts joined, and without empty texts. -/
def joined (ms : List Markup) : List Markup := (Content.addAll ⟨[], []⟩ ms).nodes

theorem isName_iff {s : String} :
    isName s = true ↔ s.toList ≠ [] ∧ s.toList.all isNameChar = true := by
  rw [isName, Bool.and_eq_true, Bool.not_eq_true', List.isEmpty_eq_false_iff]

namespace Reader

/-- The reader in character data, behind some content. -/
def within (above : List Frame) (s : Content) : Reader :=
  ⟨above, s.done, .content ⟨s.text, none⟩⟩

/-- A start tag ends alike behind its name and behind an attribute. -/
theorem step?_name_eq (above : List Frame) (done : List Markup) (name : List Char) {c : Char}
    (hc : isNameChar c = false) :
    step? ⟨above, done, .name name⟩ c =
      step? ⟨above, done, .valued ⟨String.ofList name, []⟩⟩ c := by
  simp [step?, hc, afterTag?]

theorem run?_opened (above : List Frame) (done : List Markup) {name : String}
    (hname : isName name = true) :
    run? ⟨above, done, .opened⟩ name.toList = some ⟨above, done, .name name.toList⟩ := by
  obtain ⟨hne, hall⟩ := isName_iff.1 hname
  obtain ⟨c, cs, hcs⟩ := List.exists_cons_of_ne_nil hne
  rw [hcs, List.all_cons, Bool.and_eq_true] at hall
  have hslash : c ≠ '/' := by
    rintro rfl
    exact absurd hall.1 (by decide)
  have hfirst : step? ⟨above, done, .opened⟩ c = some ⟨above, done, .name [c]⟩ := by
    simp [step?, hslash, hall.1]
  rw [hcs, run?_cons, hfirst, Option.bind_some]
  exact run?_name (w := fun n => ⟨above, done, .name n⟩) (fun n d hd => by simp [step?, hd])
    hall.2 [c]

theorem run?_attribute (above : List Frame) (done : List Markup) (tag : Tag)
    {a : MarkupAttribute} (ha : isEntry a = true) :
    run? ⟨above, done, .valued tag⟩ (Markup.attributeChars .document a) =
      some ⟨above, done, .valued ⟨tag.name, tag.attributes ++ [a]⟩⟩ := by
  obtain ⟨name, _ | value⟩ := a
  · simp [isEntry] at ha
  · obtain ⟨hne, hall⟩ := isName_iff.1 (show isName name = true by simpa [isEntry] using ha)
    have hspace : step? ⟨above, done, .valued tag⟩ ' ' = some ⟨above, done, .key tag []⟩ := rfl
    have hkey : run? ⟨above, done, .key tag []⟩ name.toList =
        some ⟨above, done, .key tag name.toList⟩ :=
      run?_name (w := fun n => ⟨above, done, .key tag n⟩)
        (fun n c hc => by simp [step?, hc]) hall []
    have hequals : step? ⟨above, done, .key tag name.toList⟩ '=' =
        some ⟨above, done, .equals tag name.toList⟩ := by
      have heq : isNameChar '=' = false := by decide
      simp only [step?, heq, Bool.false_eq_true, if_false, true_and, if_pos hne]
    have hquote : step? ⟨above, done, .equals tag name.toList⟩ '"' =
        some ⟨above, done, .value tag name.toList .empty⟩ := rfl
    have hend : step? ⟨above, done, .value tag name.toList ⟨value.toList, none⟩⟩ '"' =
        some ⟨above, done, .valued ⟨tag.name, tag.attributes ++ [⟨name, some value⟩]⟩⟩ := by
      simp [step?, Passage.end?, Markup.attr]
    have hvalue : run? ⟨above, done, .value tag name.toList .empty⟩
        (value.toList.flatMap Markup.Dialect.document.escapeChar) = _ :=
      run?_value above done tag name.toList value.toList
    simp only [Markup.attributeChars, List.cons_append, run?_cons, run?_append, run?_nil, hspace,
      hkey, hequals, hquote, hvalue, hend, Option.bind_some]

theorem run?_attributes (above : List Frame) (done : List Markup) (tag : Tag)
    {as : List MarkupAttribute} (has : as.all isEntry = true) :
    run? ⟨above, done, .valued tag⟩ (as.flatMap (Markup.attributeChars .document)) =
      some ⟨above, done, .valued ⟨tag.name, tag.attributes ++ as⟩⟩ := by
  induction as generalizing tag with
  | nil => simp
  | cons a as ih =>
    rw [List.all_cons, Bool.and_eq_true] at has
    rw [List.flatMap_cons, run?_append, run?_attribute above done tag has.1, Option.bind_some,
      ih _ has.2, List.append_assoc]
    rfl

/-- A start tag is read up to a character that ends it. -/
theorem run?_openTag (above : List Frame) (s : Content) {name : String}
    {as : List MarkupAttribute} (hname : isName name = true) (has : as.all isEntry = true)
    {c : Char} (hc : isNameChar c = false) (cs : List Char) :
    (within above s).run? (Markup.openTag .document name as ++ c :: cs) =
      run? ⟨above, s.nodes, .valued ⟨name, as⟩⟩ (c :: cs) := by
  have hopen : (within above s).step? '<' = some ⟨above, s.nodes, .opened⟩ := rfl
  have hread := run?_opened above s.nodes hname
  have hspace : isNameChar ' ' = false := by decide
  -- behind the name comes the blank of the first attribute, or the end of the tag
  have hrest : run? ⟨above, s.nodes, .name name.toList⟩
        (as.flatMap (Markup.attributeChars .document) ++ c :: cs) =
      run? ⟨above, s.nodes, .valued ⟨name, []⟩⟩
        (as.flatMap (Markup.attributeChars .document) ++ c :: cs) := by
    cases as with
    | nil => simp [step?_name_eq above s.nodes name.toList hc]
    | cons a as =>
      simp [Markup.attributeChars, step?_name_eq above s.nodes name.toList hspace]
  rw [Markup.openTag, List.cons_append, List.cons_append, run?_cons, hopen, Option.bind_some,
    List.append_assoc, run?_append, hread, Option.bind_some, hrest, run?_append,
    run?_attributes above s.nodes ⟨name, []⟩ has]
  rfl

theorem run?_closeTag (above : List Frame) (s : Content) (frame : Frame)
    (hname : isName frame.tag.name = true) :
    (within (frame :: above) s).run? ('<' :: '/' :: frame.tag.name.toList ++ ['>']) =
      some (within above
        ⟨frame.before ++ [.node frame.tag.name frame.tag.attributes s.nodes], []⟩) := by
  obtain ⟨-, hall⟩ := isName_iff.1 hname
  have hopen : (within (frame :: above) s).step? '<' =
      some ⟨frame :: above, s.nodes, .opened⟩ := rfl
  have hslash : step? ⟨frame :: above, s.nodes, .opened⟩ '/' =
      some ⟨frame :: above, s.nodes, .closing []⟩ := rfl
  have hread : run? ⟨frame :: above, s.nodes, .closing []⟩ frame.tag.name.toList =
      some ⟨frame :: above, s.nodes, .closing frame.tag.name.toList⟩ :=
    run?_name (w := fun n => ⟨frame :: above, s.nodes, .closing n⟩)
      (fun n c hc => by simp [step?, hc]) hall []
  have hend : step? ⟨frame :: above, s.nodes, .closing frame.tag.name.toList⟩ '>' =
      some (within above
        ⟨frame.before ++ [.node frame.tag.name frame.tag.attributes s.nodes], []⟩) := by
    have hgt : isNameChar '>' = false := by decide
    simp [step?, hgt, close?, within, Passage.empty]
  simp only [List.cons_append, run?_cons, run?_append, run?_nil, hopen, hslash, hread, hend,
    Option.bind_some]

mutual

/-- Reading what is written for a tree adds the tree to the content. -/
theorem run?_chars (above : List Frame) (s : Content) (m : Markup) (hm : wellNamed m = true) :
    (within above s).run? (m.chars .document) = some (within above (s.add m)) := by
  match m with
  | .text t => exact run?_text above s.done s.text t.toList
  | .leaf name as =>
    simp only [wellNamed, Bool.and_eq_true] at hm
    exact run?_openTag above s hm.1 hm.2 (c := '/') (by decide) ['>']
  | .node name as children =>
    -- the children are read with the element on the stack, and its end tag takes it off
    simp only [wellNamed, Bool.and_eq_true] at hm
    obtain ⟨⟨hname, has⟩, hms⟩ := hm
    let frame : Frame := ⟨⟨name, as⟩, s.nodes⟩
    have hshape : Markup.chars .document (.node name as children) =
        Markup.openTag .document name as ++ '>' ::
          (Markup.charsAll .document children ++ ('<' :: '/' :: name.toList ++ ['>'])) := by
      simp [Markup.chars]
    have hpush : step? ⟨above, s.nodes, .valued ⟨name, as⟩⟩ '>' =
        some (within (frame :: above) ⟨[], []⟩) := rfl
    have hchildren := run?_charsAll (frame :: above) ⟨[], []⟩ children hms
    rw [hshape, run?_openTag above s hname has (by decide), run?_cons, hpush, Option.bind_some,
      run?_append, hchildren, Option.bind_some]
    exact run?_closeTag above (Content.addAll ⟨[], []⟩ children) frame hname

theorem run?_charsAll (above : List Frame) (s : Content) (ms : List Markup)
    (hms : wellNamedAll ms = true) :
    (within above s).run? (Markup.charsAll .document ms) = some (within above (s.addAll ms)) := by
  match ms with
  | [] => rfl
  | m :: rest =>
    simp only [wellNamedAll, Bool.and_eq_true] at hms
    rw [Markup.charsAll, run?_append, run?_chars above s m hms.1, Option.bind_some,
      run?_charsAll above (s.add m) rest hms.2]
    rfl

end

end Reader

/-- Reading what is written for trees gives them back, with their texts joined. -/
theorem read?_renderAll {ms : List Markup} (hms : wellNamedAll ms = true) :
    read? (Markup.renderAll .document ms) = some (joined ms) := by
  have h := Reader.run?_charsAll [] ⟨[], []⟩ ms hms
  rw [read?, Markup.renderAll, String.toList_ofList]
  exact (congrArg (Option.bind · Reader.result?) h).trans rfl

theorem read?_render {m : Markup} (hm : wellNamed m = true) :
    read? (m.render .document) = some (joined [m]) := by
  have h : m.render .document = Markup.renderAll .document [m] := by
    simp [Markup.render, Markup.renderAll, Markup.charsAll]
  rw [h]
  exact read?_renderAll (by simp [wellNamedAll, hm])

example : read? "<a b=\"1\">x &amp; y<c/></a>" =
    some [.node "a" [Markup.attr "b" "1"] [.text "x & y", .leaf "c" []]] := by rfl

example : read? "<a><b></a>" = none := by rfl

mutual

def tags : Markup → List Tag
  | .text _ => []
  | .leaf name attributes => [⟨name, attributes⟩]
  | .node name attributes children => ⟨name, attributes⟩ :: tagsAll children

def tagsAll : List Markup → List Tag
  | [] => []
  | m :: rest => tags m ++ tagsAll rest

end

theorem tagsAll_eq (ms : List Markup) : tagsAll ms = ms.flatMap tags := by
  induction ms with
  | nil => rfl
  | cons m rest ih => rw [tagsAll, ih, List.flatMap_cons]

theorem tagsAll_nodes (s : Content) : tagsAll s.nodes = tagsAll s.done := by
  have htext : (textNodes s.text).flatMap tags = [] := by
    unfold textNodes
    split <;> rfl
  simp [tagsAll_eq, Content.nodes, htext]

theorem tagsAll_append_singleton (s : Content) (m : Markup) :
    tagsAll (s.nodes ++ [m]) = tagsAll s.done ++ tags m := by
  rw [tagsAll_eq, List.flatMap_append, ← tagsAll_eq, tagsAll_nodes, List.flatMap_singleton]

mutual

theorem tags_add (s : Content) (m : Markup) :
    tagsAll (s.add m).done = tagsAll s.done ++ tags m := by
  match m with
  | .text t => simp [Content.add, tags]
  | .leaf name as => exact tagsAll_append_singleton s (.leaf name as)
  | .node name as children =>
    have h := tags_addAll ⟨[], []⟩ children
    rw [Content.add, tagsAll_append_singleton, tags, tags, tagsAll_nodes, h]
    rfl

theorem tags_addAll (s : Content) (ms : List Markup) :
    tagsAll (s.addAll ms).done = tagsAll s.done ++ tagsAll ms := by
  match ms with
  | [] => simp [Content.addAll, tagsAll]
  | m :: rest =>
    rw [Content.addAll, tags_addAll, tags_add, List.append_assoc]
    rfl

end

/-- Joining texts keeps all elements. -/
theorem tagsAll_joined (ms : List Markup) : tagsAll (joined ms) = tagsAll ms := by
  rw [joined, tagsAll_nodes, tags_addAll]
  rfl

mutual

def names : Markup → List String
  | .text _ => []
  | .leaf name _ => [name]
  | .node name _ children => name :: namesAll children

def namesAll : List Markup → List String
  | [] => []
  | m :: rest => names m ++ namesAll rest

end

mutual

theorem map_name_tags (m : Markup) : (tags m).map Tag.name = names m := by
  match m with
  | .text t => rfl
  | .leaf name as => rfl
  | .node name as children => rw [tags, List.map_cons, map_name_tagsAll children, names]

theorem map_name_tagsAll (ms : List Markup) : (tagsAll ms).map Tag.name = namesAll ms := by
  match ms with
  | [] => rfl
  | m :: rest =>
    rw [tagsAll, List.map_append, map_name_tags m, map_name_tagsAll rest, namesAll]

end

theorem namesAll_eq (ms : List Markup) : namesAll ms = ms.flatMap names := by
  simp only [← map_name_tagsAll, tagsAll_eq, List.map_flatMap, map_name_tags]

theorem namesAll_joined (ms : List Markup) : namesAll (joined ms) = namesAll ms := by
  rw [← map_name_tagsAll, tagsAll_joined, map_name_tagsAll]

end CodeGraph.Document
