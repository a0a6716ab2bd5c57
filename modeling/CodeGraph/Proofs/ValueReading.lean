import CodeGraph.Json.Value
import CodeGraph.Proofs.TokenReading

namespace CodeGraph.Json

/-- What may stand behind a value in a document. -/
def EndsValue (rest : List Char) : Prop :=
  ∀ c ∈ rest.head?, Cursor.isBlank c = true ∨ c = ',' ∨ c = ']' ∨ c = '\x7d'

theorem EndsValue.endsNumber {rest : List Char} (h : EndsValue rest) :
    Reader.EndsNumber rest := by
  intro c hc
  have hcases := h c hc
  simp only [Cursor.isBlank, Bool.or_eq_true, beq_iff_eq] at hcases
  rcases hcases with (((rfl | rfl) | rfl) | rfl) | rfl | rfl | rfl <;> decide

/-- Whatever follows blanks ends a value that they end. -/
theorem EndsValue.of_blank {blanks rest : List Char} (hb : IsBlank blanks) (h : EndsValue rest) :
    EndsValue (blanks ++ rest) := by
  cases blanks with
  | nil => exact h
  | cons b blanks =>
    intro c hc
    rw [← Option.some.inj hc]
    exact .inl (hb b List.mem_cons_self)

theorem endsValue_cons {c : Char} (h : c = ',' ∨ c = ']' ∨ c = '\x7d') (rest : List Char) :
    EndsValue (c :: rest) := by
  intro x hx
  rw [← Option.some.inj hx]
  exact .inr h

theorem Reader.isBlank_of_isDigit {c : Char} (h : isDigit c = true) : Cursor.isBlank c = false := by
  simp only [Cursor.isBlank, Bool.or_eq_false_iff, beq_eq_false_iff_ne]
  exact ⟨⟨⟨isDigit_ne h rfl, isDigit_ne h rfl⟩, isDigit_ne h rfl⟩, isDigit_ne h rfl⟩

theorem Literal.unsigned_head (l : Literal) :
    ∃ c cs, l.unsigned = c :: cs ∧ Reader.isDigit c = true := by
  obtain ⟨c, cs, hwhole⟩ := List.exists_cons_of_ne_nil l.isWhole.nonempty
  refine ⟨c, cs ++ (l.fractionChars ++ l.exponentChars), ?_, ?_⟩
  · rw [Literal.unsigned, hwhole, List.cons_append]
  · exact l.isWhole.isDigits c (by rw [hwhole]; exact List.mem_cons_self)

/-- The characters that a tree's spellings begin with. -/
def Tree.Begins : Tree → Char → Prop
  | .null, c => c = 'n'
  | .bool true, c => c = 't'
  | .bool false, c => c = 'f'
  | .number _, c => c = '-' ∨ Reader.isDigit c = true
  | .text _, c => c = '"'
  | .list _, c => c = '['
  | .object _, c => c = '\x7b'

theorem Spells.begins {t : Tree} {cs : List Char} (h : Spells t cs) :
    ∃ c tail, cs = c :: tail ∧ t.Begins c := by
  cases t with
  | null => exact ⟨'n', _, h, rfl⟩
  | bool b => cases b <;> exact ⟨_, _, h, rfl⟩
  | number l =>
    obtain rfl : cs = l.chars := h
    unfold Literal.chars
    cases l.negative with
    | true => exact ⟨'-', _, rfl, .inl rfl⟩
    | false =>
      obtain ⟨c, tail, hl, hc⟩ := l.unsigned_head
      exact ⟨c, tail, hl, .inr hc⟩
  | text q => exact ⟨'"', _, h, rfl⟩
  | list items =>
    obtain ⟨inner, rfl, -⟩ := h
    exact ⟨'[', _, rfl, rfl⟩
  | object members =>
    obtain ⟨inner, rfl, -⟩ := h
    exact ⟨'\x7b', _, rfl, rfl⟩

namespace Tree.Begins

variable {t : Tree} {c : Char}

theorem isBlank (h : t.Begins c) : Cursor.isBlank c = false := by
  match t, h with
  | .null, rfl | .bool true, rfl | .bool false, rfl | .text _, rfl | .list _, rfl
  | .object _, rfl | .number _, .inl rfl => rfl
  | .number _, .inr hc => exact Reader.isBlank_of_isDigit hc

theorem ne_close (h : t.Begins c) : c ≠ ']' := by
  match t, h with
  | .null, rfl | .bool true, rfl | .bool false, rfl | .text _, rfl | .list _, rfl
  | .object _, rfl | .number _, .inl rfl => decide
  | .number _, .inr hc => exact Reader.isDigit_ne hc rfl

end Tree.Begins

theorem Spells.head {t : Tree} {cs : List Char} (h : Spells t cs) :
    ∃ c tail, cs = c :: tail ∧ Cursor.isBlank c = false ∧ c ≠ ']' := by
  obtain ⟨c, tail, hcs, hc⟩ := h.begins
  exact ⟨c, tail, hcs, hc.isBlank, hc.ne_close⟩

/-- The text spells elements up to the end of a bracket, each as `spells` says. -/
def SpellsRun {α : Type} (spells : α → List Char → Prop) : Bool → List α → List Char → Prop
  | _, [], cs => IsBlank cs
  | first, a :: as, cs => ∃ gap blanks used rest, cs = gap ++ (blanks ++ (used ++ rest)) ∧
      IsGap first gap ∧ IsBlank blanks ∧ spells a used ∧ SpellsRun spells false as rest

def SpellsMember (m : Quoted × Tree) (cs : List Char) : Prop :=
  ∃ middle before used, cs = m.1.spelling ++ (middle ++ ':' :: (before ++ used)) ∧
    IsBlank middle ∧ IsBlank before ∧ Spells m.2 used

theorem spellsItems_eq (first : Bool) (items : List Tree) (cs : List Char) :
    SpellsItems first items cs = SpellsRun Spells first items cs := by
  induction items generalizing first cs with
  | nil => simp [SpellsItems, SpellsRun]
  | cons t items ih => simp only [SpellsItems, SpellsRun, ih]

theorem spellsMembers_iff (first : Bool) (members : List (Quoted × Tree)) (cs : List Char) :
    SpellsMembers first members cs ↔ SpellsRun SpellsMember first members cs := by
  induction members generalizing first cs with
  | nil => simp [SpellsMembers, SpellsRun]
  | cons m members ih =>
    obtain ⟨q, t⟩ := m
    simp only [SpellsMembers, SpellsRun, ih]
    constructor
    · rintro ⟨gap, blanks, middle, before, used, rest, hcs, hgap, hblanks, hused, hrest⟩
      exact ⟨gap, blanks, _, rest, hcs, hgap, hblanks, ⟨middle, before, used, rfl, hused⟩, hrest⟩
    · rintro ⟨gap, blanks, _, rest, hcs, hgap, hblanks, ⟨middle, before, used, rfl, hused⟩, hrest⟩
      exact ⟨gap, blanks, middle, before, used, rest, hcs, hgap, hblanks, hused, hrest⟩

theorem SpellsRun.endsValue {α : Type} {spells : α → List Char → Prop} {as : List α}
    {cs : List Char} (h : SpellsRun spells false as cs) {close : Char}
    (hclose : close = ']' ∨ close = '\x7d') (rest : List Char) :
    EndsValue (cs ++ close :: rest) := by
  cases as with
  | nil => exact EndsValue.of_blank h (endsValue_cons (.inr hclose) rest)
  | cons a as =>
    obtain ⟨gap, blanks, used, tail, rfl, ⟨before, rfl, hbefore⟩, -⟩ := h
    simp only [List.append_assoc, List.cons_append, List.nil_append]
    exact EndsValue.of_blank hbefore (endsValue_cons (.inl rfl) _)

namespace Reader

variable {α : Type}

/-- The reader reads a value of any spelling as `f` says of its tree. -/
def Follows (r : Reader α) (f : Tree → Option α) : Prop :=
  ∀ ⦃t : Tree⦄ ⦃blanks cs rest : List Char⦄, IsBlank blanks → Spells t cs → EndsValue rest →
    Gives r (blanks ++ (cs ++ rest)) ((f t).map fun a => (a, rest))

namespace Gives

theorem peekPast {blanks : List Char} (hb : IsBlank blanks) {c : Char}
    (hc : Cursor.isBlank c = false) (cs : List Char) :
    Gives Reader.peekPastBlanks (blanks ++ c :: cs) (some (some c, c :: cs)) := by
  have hdrop : (blanks ++ c :: cs).dropWhile Cursor.isBlank = c :: cs := by
    rw [List.dropWhile_append_of_pos hb, List.dropWhile_cons_of_neg (by simp [hc])]
  have h := peekPastBlanks (blanks ++ c :: cs)
  rw [hdrop] at h
  exact h

theorem nextItem_close (first : Bool) {blanks : List Char} (hb : IsBlank blanks)
    (rest : List Char) :
    Gives (Reader.nextItem first) (blanks ++ ']' :: rest) (some (false, ']' :: rest)) :=
  bind_some (peekPast hb rfl rest) (pure _ _)

theorem nextItem {first : Bool} {gap blanks : List Char} (hgap : IsGap first gap)
    (hb : IsBlank blanks) {c : Char} (hc : Cursor.isBlank c = false) (hclose : c ≠ ']')
    (cs : List Char) :
    Gives (Reader.nextItem first) (gap ++ (blanks ++ c :: cs)) (some (true, c :: cs)) := by
  cases first with
  | true =>
    obtain rfl : gap = [] := hgap
    refine bind_some (peekPast hb hc cs) ?_
    simp only [if_neg hclose, if_true]
    exact pure _ _
  | false =>
    obtain ⟨before, rfl, hbefore⟩ := hgap
    rw [List.append_assoc]
    refine bind_some (peekPast hbefore rfl _) (bind_some (advance ',' _) ?_)
    refine bind_some (peekPast hb hc cs) ?_
    simp only [if_neg hclose]
    exact pure _ _

theorem closeList {blanks : List Char} (hb : IsBlank blanks) (rest : List Char) :
    Gives Reader.closeList (blanks ++ ']' :: rest) (some ((), rest)) :=
  bind_some (peekPast hb rfl rest) (advance ']' rest)

/-- A list is not left before anything but its bracket. -/
theorem closeList_fails {blanks : List Char} (hb : IsBlank blanks) {c : Char}
    (hc : Cursor.isBlank c = false) (hclose : c ≠ ']') (cs : List Char) :
    Gives Reader.closeList (blanks ++ c :: cs) none := by
  refine bind_some (peekPast hb hc _) ?_
  simp only [if_neg hclose]
  split
  · refine bind_some (advance c cs) (bind_some (peekPastBlanks cs) ?_)
    split
    · exact failNext _ _
    · exact failNext _ _
  · exact failNext _ _

theorem nextKey_close (first : Bool) {blanks : List Char} (hb : IsBlank blanks)
    (rest : List Char) :
    Gives (Reader.nextKey first) (blanks ++ '\x7d' :: rest) (some (false, '\x7d' :: rest)) :=
  bind_some (peekPast hb rfl rest) (pure _ _)

theorem nextKey {first : Bool} {gap blanks : List Char} (hgap : IsGap first gap)
    (hb : IsBlank blanks) (cs : List Char) :
    Gives (Reader.nextKey first) (gap ++ (blanks ++ '"' :: cs)) (some (true, '"' :: cs)) := by
  cases first with
  | true =>
    obtain rfl : gap = [] := hgap
    exact bind_some (peekPast hb rfl cs) (pure _ _)
  | false =>
    obtain ⟨before, rfl, hbefore⟩ := hgap
    rw [List.append_assoc]
    refine bind_some (peekPast hbefore rfl _) (bind_some (advance ',' _) ?_)
    exact bind_some (peekPast hb rfl cs) (pure _ _)

theorem closeObject (rest : List Char) :
    Gives Reader.closeObject ('\x7d' :: rest) (some ((), rest)) :=
  bind_some (peekPast (List.forall_mem_nil _) rfl rest) (advance '\x7d' rest)

theorem colon {blanks : List Char} (hb : IsBlank blanks) (rest : List Char) :
    Gives Reader.colon (blanks ++ ':' :: rest) (some ((), rest)) :=
  bind_some (peekPast hb rfl rest) (advance ':' rest)

theorem key (q : Quoted) (rest : List Char) :
    Gives Reader.key (q.spelling ++ rest) (q.text?.map fun s => (s, rest)) := by
  rw [q.spelling_append]
  exact bind_some (advance '"' _) (textBody q rest)

end Gives

end Reader

/-- The reader is led to the next item, which is behind what it passes over. -/
theorem SpellsRun.next_item {first : Bool} {t : Tree} {items : List Tree} {cs : List Char}
    (h : SpellsRun Spells first (t :: items) cs) (rest : List Char) :
    ∃ used tail, Reader.Gives (Reader.nextItem first) (cs ++ ']' :: rest)
        (some (true, used ++ (tail ++ ']' :: rest))) ∧
      Spells t used ∧ SpellsRun Spells false items tail ∧ tail.length < cs.length := by
  obtain ⟨gap, blanks, used, tail, rfl, hgap, hblanks, hused, htail⟩ := h
  obtain ⟨c, us, rfl, hc, hclose⟩ := hused.head
  have hnext := Reader.Gives.nextItem hgap hblanks hc hclose (us ++ (tail ++ ']' :: rest))
  refine ⟨c :: us, tail, ?_, hused, htail, ?_⟩
  · simpa only [List.append_assoc, List.cons_append] using hnext
  · simp only [List.length_append, List.length_cons]
    omega

/-- The end of a list fails where items are left. -/
theorem SpellsRun.closeList_fails {first : Bool} {t : Tree} {items : List Tree} {cs : List Char}
    (h : SpellsRun Spells first (t :: items) cs) (rest : List Char) :
    Reader.Gives Reader.closeList (cs ++ rest) none := by
  obtain ⟨gap, blanks, used, tail, rfl, hgap, hblanks, hused, -⟩ := h
  obtain ⟨c, us, rfl, hc, hclose⟩ := hused.head
  simp only [List.append_assoc, List.cons_append]
  cases first with
  | true =>
    obtain rfl : gap = [] := hgap
    exact Reader.Gives.closeList_fails hblanks hc hclose _
  | false =>
    obtain ⟨before, rfl, hbefore⟩ := hgap
    simp only [List.append_assoc, List.cons_append, List.nil_append]
    exact Reader.Gives.closeList_fails hbefore rfl (by decide) _

/-- The reader is led to the next key, and behind it over the colon to the value. -/
theorem SpellsRun.next_member {first : Bool} {m : Quoted × Tree} {members : List (Quoted × Tree)}
    {cs : List Char} (h : SpellsRun SpellsMember first (m :: members) cs) (rest : List Char) :
    ∃ behind blanks used tail, Reader.Gives (Reader.nextKey first) (cs ++ '\x7d' :: rest)
        (some (true, m.1.spelling ++ behind)) ∧
      Reader.Gives Reader.colon behind (some ((), blanks ++ (used ++ (tail ++ '\x7d' :: rest)))) ∧
      IsBlank blanks ∧ Spells m.2 used ∧ SpellsRun SpellsMember false members tail ∧
      tail.length < cs.length := by
  obtain ⟨gap, before, _, tail, rfl, hgap, hbefore, ⟨middle, blanks, used, rfl, hm, hb, hused⟩,
    htail⟩ := h
  have hnext := Reader.Gives.nextKey hgap hbefore
    (m.1.chars ++ '"' :: (middle ++ ':' :: (blanks ++ (used ++ (tail ++ '\x7d' :: rest)))))
  refine ⟨_, blanks, used, tail, ?_, Reader.Gives.colon hm _, hb, hused, htail, ?_⟩
  · simpa only [Quoted.spelling, List.append_assoc, List.cons_append, List.nil_append] using hnext
  · simp only [List.length_append, List.length_cons]
    omega

namespace Reader

section lists

variable {item : Reader α} {f : Tree → Option α}

theorem mapM_cons_eq (f : Tree → Option α) (t : Tree) (items : List Tree) :
    (t :: items).mapM f = (f t).bind fun a => (items.mapM f).map (a :: ·) := by
  rw [List.mapM_cons]
  cases f t with
  | none => rfl
  | some a => cases items.mapM f <;> rfl

theorem itemStep_loops (hitem : Follows item f) (items : List Tree) (read : List α)
    {cs : List Char} (h : SpellsRun Spells read.isEmpty items cs) (rest : List Char) :
    Loops (itemStep item) read (cs ++ ']' :: rest)
      ((items.mapM f).map fun as => (as.reverse ++ read, ']' :: rest)) := by
  induction items generalizing read cs with
  | nil =>
    exact Loops.stop (Gives.bind_some (Gives.nextItem_close _ h rest) (Gives.pure _ _))
  | cons t items ih =>
    obtain ⟨used, tail, hnext, hused, htail, hlt⟩ := h.next_item rest
    have hread := hitem (List.forall_mem_nil _) hused (htail.endsValue (.inl rfl) rest)
    rw [mapM_cons_eq]
    cases hf : f t with
    | none =>
      rw [hf] at hread
      exact Loops.fail (Gives.bind_some hnext (Gives.bind_none hread))
    | some a =>
      rw [hf] at hread
      refine Loops.turn (Gives.bind_some hnext (Gives.bind_some hread (Gives.pure _ _))) ?_ ?_
      · simp only [List.length_append]
        omega
      · rw [Option.bind_some, Option.map_map]
        simpa [Function.comp_def] using ih (a :: read) htail

theorem Gives.listBody (hitem : Follows item f) {items : List Tree} {inner : List Char}
    (h : SpellsItems true items inner) (rest : List Char) :
    Gives (Reader.listBody item) ('[' :: (inner ++ ']' :: rest))
      ((items.mapM f).map fun as => (as, rest)) := by
  rw [spellsItems_eq] at h
  have hloop := (itemStep_loops hitem items [] h rest).gives.within leaveList
  refine bind_some (advance '[' _) ?_
  cases hitems : items.mapM f with
  | none =>
    rw [hitems] at hloop
    exact bind_none hloop
  | some as =>
    rw [hitems] at hloop
    refine bind_some hloop (bind_some (closeList (List.forall_mem_nil _) rest) ?_)
    rw [List.append_nil, List.reverse_reverse]
    exact pure _ _

end lists

section objects

variable {value : Reader Json} {f : Tree → Option Json}

theorem memberStep_loops (hvalue : Follows value f) (members : List (Quoted × Tree))
    (first : Bool) (read : List (String × Json)) {cs : List Char}
    (h : SpellsRun SpellsMember first members cs) (rest : List Char) :
    Loops (memberStep value) (first, read) (cs ++ '\x7d' :: rest)
      ((members.foldlM (Tree.addMember? f) read).map fun r =>
        ((first && members.isEmpty, r), '\x7d' :: rest)) := by
  induction members generalizing first read cs with
  | nil =>
    rw [List.isEmpty_nil, Bool.and_true]
    exact Loops.stop (Gives.bind_some (Gives.nextKey_close _ h rest) (Gives.pure _ _))
  | cons m members ih =>
    obtain ⟨behind, blanks, used, tail, hnext, hcolon, hb, hused, htail, hlt⟩ := h.next_member rest
    have hkey := Gives.key m.1 behind
    have hread := hvalue hb hused (htail.endsValue (.inr rfl) rest)
    rw [List.foldlM_cons, Tree.addMember?]
    cases hk : m.1.text? with
    | none =>
      rw [hk] at hkey
      exact Loops.fail (Gives.bind_some hnext (Gives.bind_none hkey))
    | some k =>
      rw [hk] at hkey
      cases hf : f m.2 with
      | none =>
        rw [hf] at hread
        exact Loops.fail (Gives.bind_some hnext (Gives.bind_some hkey
          (Gives.bind_some hcolon (Gives.bind_none hread))))
      | some v =>
        rw [hf] at hread
        have hstep : Gives (memberStep value (first, read)) (cs ++ '\x7d' :: rest)
            (some (some (false, insertMember k v read), tail ++ '\x7d' :: rest)) :=
          Gives.bind_some hnext (Gives.bind_some hkey (Gives.bind_some hcolon
            (Gives.bind_some hread (Gives.pure _ _))))
        refine Loops.turn hstep ?_ ?_
        · simp only [List.length_append]
          omega
        · simpa using ih false (insertMember k v read) htail

theorem Gives.objectBody (hvalue : Follows value f) {members : List (Quoted × Tree)}
    {inner : List Char} (h : SpellsMembers true members inner) (rest : List Char) :
    Gives (Reader.objectBody value) ('\x7b' :: (inner ++ '\x7d' :: rest))
      ((members.foldlM (Tree.addMember? f) []).map fun r => (r, rest)) := by
  rw [spellsMembers_iff] at h
  have hloop := (memberStep_loops hvalue members true [] h rest).gives.within leaveObject
  refine bind_some (advance '\x7b' _) ?_
  cases hmembers : members.foldlM (Tree.addMember? f) [] with
  | none =>
    rw [hmembers] at hloop
    exact bind_none hloop
  | some r =>
    rw [hmembers] at hloop
    exact bind_some hloop (bind_some (closeObject rest) (pure _ _))

end objects

/-- Readers for the kinds of values, of which the first character chooses one. -/
structure Branches (α : Type) where
  null : Reader α
  yes : Reader α
  no : Reader α
  negative : Reader α
  plain : Reader α
  text : Reader α
  list : Reader α
  object : Reader α

namespace Branches

def read (b : Branches α) : Reader α := do
  match ← peekPastBlanks with
  | none => failNext .endInValue
  | some c =>
    if c = 'n' then b.null
    else if c = 't' then b.yes
    else if c = 'f' then b.no
    else if c = '-' then b.negative
    else if isDigit c then b.plain
    else if c = '"' then b.text
    else if c = '[' then b.list
    else if c = '\x7b' then b.object
    else failNext .noValue

def branch (b : Branches α) : Tree → Reader α
  | .null => b.null
  | .bool true => b.yes
  | .bool false => b.no
  | .number l => if l.negative then b.negative else b.plain
  | .text _ => b.text
  | .list _ => b.list
  | .object _ => b.object

theorem branch_number (b : Branches α) (l : Literal) :
    b.branch (.number l) = if l.negative then b.negative else b.plain := rfl

/-- A value is read by the reader for its kind. -/
theorem gives (b : Branches α) {t : Tree} {blanks cs rest : List Char}
    {o : Option (α × List Char)} (hb : IsBlank blanks) (hs : Spells t cs)
    (h : Gives (b.branch t) (cs ++ rest) o) : Gives b.read (blanks ++ (cs ++ rest)) o := by
  cases t with
  | null =>
    obtain rfl := hs
    exact Gives.bind_some (Gives.peekPast hb rfl _) h
  | bool v =>
    cases v with
    | true =>
      obtain rfl := hs
      exact Gives.bind_some (Gives.peekPast hb rfl _) h
    | false =>
      obtain rfl := hs
      exact Gives.bind_some (Gives.peekPast hb rfl _) h
  | number l =>
    obtain rfl : cs = l.chars := hs
    rw [branch_number] at h
    unfold Literal.chars at h ⊢
    cases hneg : l.negative with
    | true =>
      rw [hneg] at h
      exact Gives.bind_some (Gives.peekPast hb rfl _) h
    | false =>
      rw [hneg] at h
      obtain ⟨c, tail, hl, hc⟩ := l.unsigned_head
      simp only [hl, List.cons_append, Bool.false_eq_true, if_false] at h ⊢
      refine Gives.bind_some (Gives.peekPast hb (isBlank_of_isDigit hc) _) ?_
      simp only [isDigit_ne hc (x := 'n') rfl, isDigit_ne hc (x := 't') rfl,
        isDigit_ne hc (x := 'f') rfl, isDigit_ne hc (x := '-') rfl, hc, if_false, if_true]
      exact h
  | text q =>
    obtain rfl : cs = q.spelling := hs
    exact Gives.bind_some (Gives.peekPast hb rfl _) h
  | list items =>
    obtain ⟨inner, rfl, -⟩ := hs
    exact Gives.bind_some (Gives.peekPast hb rfl _) h
  | object members =>
    obtain ⟨inner, rfl, -⟩ := hs
    exact Gives.bind_some (Gives.peekPast hb rfl _) h

end Branches

theorem valueWith_eq (list object : Reader Json) : valueWith list object = Branches.read {
    null := do advance; word ['u', 'l', 'l']; return .null
    yes := do advance; word ['r', 'u', 'e']; return .bool true
    no := do advance; word ['a', 'l', 's', 'e']; return .bool false
    negative := do advance; return .number (← number true)
    plain := return .number (← number false)
    text := do advance; return .text (← textBody)
    list := list
    object := object } := rfl

theorem skipValue_cons (ch : Char) (fuel : List Char) : skipValue (ch :: fuel) = Branches.read {
    null := do advance; word ['u', 'l', 'l']
    yes := do advance; word ['r', 'u', 'e']
    no := do advance; word ['a', 'l', 's', 'e']
    negative := do advance; skipNumber
    plain := skipNumber
    text := do advance; skipTextBody
    list := skipElements ']' .endInList .noCommaInList (skipValue fuel)
    object := skipElements '\x7d' .endInObject .noCommaInObject
      (do skipKey; skipValue fuel) } := rfl

theorem Follows.valueWith {list object : Reader Json} {onList : List Tree → Option Json}
    {onObject : List (Quoted × Tree) → Option Json}
    (hlist : ∀ items inner rest, SpellsItems true items inner →
      Gives list ('[' :: (inner ++ ']' :: rest)) ((onList items).map fun j => (j, rest)))
    (hobject : ∀ members inner rest, SpellsMembers true members inner →
      Gives object ('\x7b' :: (inner ++ '\x7d' :: rest))
        ((onObject members).map fun j => (j, rest))) :
    Follows (Reader.valueWith list object) (Tree.valueWith? onList onObject) := by
  intro t blanks cs rest hb h hrest
  rw [valueWith_eq]
  refine Branches.gives _ hb h ?_
  cases t with
  | null =>
    obtain rfl := h
    refine Gives.bind_some (Gives.advance 'n' _) ?_
    exact Gives.bind_some (Gives.word _ rest) (Gives.pure _ _)
  | bool v =>
    cases v with
    | true =>
      obtain rfl := h
      exact Gives.bind_some (Gives.advance 't' _)
        (Gives.bind_some (Gives.word _ rest) (Gives.pure _ _))
    | false =>
      obtain rfl := h
      exact Gives.bind_some (Gives.advance 'f' _)
        (Gives.bind_some (Gives.word _ rest) (Gives.pure _ _))
  | number l =>
    obtain rfl : cs = l.chars := h
    have hnumber := Gives.number l hrest.endsNumber
    rw [Branches.branch_number]
    unfold Literal.chars
    cases hneg : l.negative with
    | true =>
      rw [hneg] at hnumber
      exact Gives.bind_some (Gives.advance '-' _) (Gives.map _ hnumber)
    | false =>
      rw [hneg] at hnumber
      exact Gives.map _ hnumber
  | text q =>
    obtain rfl : cs = q.spelling := h
    rw [Quoted.spelling_append]
    exact Gives.bind_some (Gives.advance '"' _) (Gives.map _ (Gives.textBody q rest))
  | list items =>
    obtain ⟨inner, rfl, hinner⟩ := h
    rw [List.append_assoc]
    exact hlist items inner rest hinner
  | object members =>
    obtain ⟨inner, rfl, hinner⟩ := h
    rw [List.append_assoc]
    exact hobject members inner rest hinner

theorem Follows.value (depth : Nat) : Follows (Reader.value depth) (Tree.json? depth) := by
  induction depth with
  | zero =>
    exact Follows.valueWith (fun _ _ _ _ => Gives.failNext _ _) (fun _ _ _ _ => Gives.failNext _ _)
  | succ depth ih =>
    refine Follows.valueWith (fun items inner rest h => ?_) (fun members inner rest h => ?_)
    · exact Gives.map _ (Gives.listBody ih h rest)
    · exact Gives.map _ (Gives.objectBody ih h rest)

section skipping

variable {close : Char} {ended unseparated : Cause}

theorem Gives.skipSeparator_comma (close : Char) (ended unseparated : Cause) {blanks : List Char}
    (hb : IsBlank blanks) (rest : List Char) :
    Gives (Reader.skipSeparator close ended unseparated) (blanks ++ ',' :: rest)
      (some (true, rest)) :=
  bind_some (peekPast hb rfl rest) (bind_some (advance ',' rest) (pure _ _))

theorem Gives.skipSeparator_close (hclose : close = ']' ∨ close = '\x7d') {blanks : List Char}
    (hb : IsBlank blanks) (rest : List Char) :
    Gives (Reader.skipSeparator close ended unseparated) (blanks ++ close :: rest)
      (some (false, rest)) := by
  rcases hclose with rfl | rfl
  · exact bind_some (peekPast hb rfl rest) (bind_some (advance ']' rest) (pure _ _))
  · exact bind_some (peekPast hb rfl rest) (bind_some (advance '\x7d' rest) (pure _ _))

/-- The element reader moves over any element in a text of at most `size` characters. -/
def Skips (element : Reader Unit) (spells : α → List Char → Prop) (size : Nat) : Prop :=
  ∀ ⦃a : α⦄ ⦃blanks used rest : List Char⦄, IsBlank blanks → spells a used → EndsValue rest →
    (blanks ++ (used ++ rest)).length ≤ size →
      Gives element (blanks ++ (used ++ rest)) (some ((), rest))

variable {element : Reader Unit} {spells : α → List Char → Prop}

theorem skipElements_loops (hclose : close = ']' ∨ close = '\x7d') {size : Nat}
    (helement : Skips element spells size) {a : α} {as : List α} {blanks used tail : List Char}
    (hb : IsBlank blanks) (hused : spells a used) (htail : SpellsRun spells false as tail)
    {rest : List Char} (hsize : (blanks ++ (used ++ (tail ++ close :: rest))).length ≤ size)
    (hne : ∀ a used, spells a used → used ≠ []) :
    Loops (fun _ => do
        element
        if ← skipSeparator close ended unseparated then return some () else return none) ()
      (blanks ++ (used ++ (tail ++ close :: rest))) (some ((), rest)) := by
  induction as generalizing a blanks used tail with
  | nil =>
    have hread := helement hb hused (htail.endsValue hclose rest) hsize
    exact Loops.stop (Gives.bind_some hread
      (Gives.bind_some (Gives.skipSeparator_close hclose htail rest) (Gives.pure _ _)))
  | cons a' as ih =>
    have hread := helement hb hused (htail.endsValue hclose rest) hsize
    obtain ⟨_, blanks', used', tail', rfl, ⟨before, rfl, hbefore⟩, hb', hused', htail'⟩ := htail
    have hcomma := Gives.skipSeparator_comma close ended unseparated hbefore
      (blanks' ++ (used' ++ (tail' ++ close :: rest)))
    have hlen := List.length_pos_iff.2 (hne a used hused)
    simp only [List.append_assoc, List.cons_append, List.nil_append] at hread hcomma hsize ⊢
    refine Loops.turn (Gives.bind_some hread (Gives.bind_some hcomma (Gives.pure _ _))) ?_ ?_
    · simp only [List.length_append, List.length_cons]
      omega
    · refine ih hb' hused' htail' ?_
      simp only [List.length_append, List.length_cons] at hsize ⊢
      omega

theorem Gives.skipElements (hclose : close = ']' ∨ close = '\x7d') {size : Nat}
    (helement : Skips element spells size)
    (hhead : ∀ a used, spells a used →
      ∃ c us, used = c :: us ∧ Cursor.isBlank c = false ∧ c ≠ close)
    {as : List α} {inner : List Char} (h : SpellsRun spells true as inner) (opening : Char)
    {rest : List Char} (hsize : (inner ++ close :: rest).length ≤ size) :
    Gives (Reader.skipElements close ended unseparated element)
      (opening :: (inner ++ close :: rest)) (some ((), rest)) := by
  refine bind_some (advance opening _) ?_
  cases as with
  | nil =>
    have hblank : Cursor.isBlank close = false := by rcases hclose with rfl | rfl <;> rfl
    refine bind_some (peekPast h hblank rest) ?_
    simp only [if_true]
    exact advance close rest
  | cons a as =>
    obtain ⟨gap, blanks, used, tail, rfl, rfl, hb, hused, htail⟩ := h
    obtain ⟨c, us, rfl, hc, hne⟩ := hhead a used hused
    simp only [List.append_assoc, List.cons_append, List.nil_append] at hsize ⊢
    refine bind_some (peekPast hb hc _) ?_
    simp only [if_neg hne]
    have hne (a : α) (used : List Char) (h : spells a used) : used ≠ [] := by
      obtain ⟨_, _, rfl, -⟩ := hhead a used h
      exact List.cons_ne_nil _ _
    refine (skipElements_loops hclose helement (List.forall_mem_nil _) hused htail ?_ hne).gives
    simp only [List.length_append, List.length_cons, List.nil_append] at hsize ⊢
    omega

end skipping

theorem Gives.skipKey (q : Quoted) {blanks middle : List Char} (hb : IsBlank blanks)
    (hm : IsBlank middle) (rest : List Char) :
    Gives Reader.skipKey (blanks ++ (q.spelling ++ (middle ++ ':' :: rest))) (some ((), rest)) := by
  rw [q.spelling_append]
  refine bind_some (peekPast hb rfl _) (bind_some (advance '"' _) ?_)
  exact bind_some (skipTextBody q _) (colon hm rest)

theorem skipMember_skips {value : Reader Unit} {size : Nat} (hvalue : Skips value Spells size) :
    Skips (do skipKey; value) SpellsMember size := by
  rintro m blanks used rest hb ⟨middle, before, cs, rfl, hm, hbefore, hcs⟩ hrest hsize
  have hkey := Gives.skipKey m.1 hb hm (before ++ (cs ++ rest))
  simp only [List.append_assoc, List.cons_append] at hkey hsize ⊢
  refine Gives.bind_some hkey (hvalue hbefore hcs hrest ?_)
  simp only [List.length_append, List.length_cons] at hsize ⊢
  omega

/-- Every value can be skipped, if the fuel is not shorter than the text. -/
theorem skipValue_skips (fuel : List Char) : Skips (skipValue fuel) Spells fuel.length := by
  induction fuel with
  | nil =>
    intro t blanks cs rest hb h hrest hsize
    obtain ⟨c, us, rfl, -⟩ := h.head
    simp only [List.length_append, List.length_cons, List.length_nil] at hsize
    omega
  | cons ch fuel ih =>
    intro t blanks cs rest hb h hrest hsize
    rw [skipValue_cons]
    refine Branches.gives _ hb h ?_
    cases t with
    | null =>
      obtain rfl := h
      exact Gives.bind_some (Gives.advance 'n' _) (Gives.word _ rest)
    | bool v =>
      cases v with
      | true =>
        obtain rfl := h
        exact Gives.bind_some (Gives.advance 't' _) (Gives.word _ rest)
      | false =>
        obtain rfl := h
        exact Gives.bind_some (Gives.advance 'f' _) (Gives.word _ rest)
    | number l =>
      obtain rfl : cs = l.chars := h
      have hnumber := Gives.skipNumber l hrest.endsNumber
      rw [Branches.branch_number]
      unfold Literal.chars
      cases l.negative with
      | true => exact Gives.bind_some (Gives.advance '-' _) hnumber
      | false => exact hnumber
    | text q =>
      obtain rfl : cs = q.spelling := h
      rw [Quoted.spelling_append]
      exact Gives.bind_some (Gives.advance '"' _) (Gives.skipTextBody q rest)
    | list items =>
      obtain ⟨inner, rfl, hinner⟩ := h
      rw [spellsItems_eq] at hinner
      simp only [List.append_assoc, List.cons_append, List.nil_append] at hsize ⊢
      refine Gives.skipElements (.inl rfl) ih (fun t used h => h.head) hinner '[' ?_
      simp only [List.length_append, List.length_cons] at hsize ⊢
      omega
    | object members =>
      obtain ⟨inner, rfl, hinner⟩ := h
      rw [spellsMembers_iff] at hinner
      simp only [List.append_assoc, List.cons_append, List.nil_append] at hsize ⊢
      refine Gives.skipElements (.inr rfl) (skipMember_skips ih) ?_ hinner '\x7b' ?_
      · rintro m used ⟨middle, before, cs, rfl, -⟩
        exact ⟨'"', _, rfl, by decide, by decide⟩
      · simp only [List.length_append, List.length_cons] at hsize ⊢
        omega

theorem Follows.skip : Follows Reader.skip fun _ => some () := by
  intro t blanks cs rest hb h hrest c hc
  have hsize := Nat.le_of_eq (congrArg List.length hc.symm)
  exact skipValue_skips c.rest hb h hrest hsize c hc

end Reader

end CodeGraph.Json
