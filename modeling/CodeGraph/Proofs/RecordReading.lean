import CodeGraph.Json.Record
import CodeGraph.Proofs.ValueReading
import Mathlib.Data.List.Forall2

namespace CodeGraph.Json

theorem forall₂_getElem? {α β : Type} {R : α → β → Prop} {as : List α} {bs : List β}
    (h : List.Forall₂ R as bs) {i : Nat} {a : α} (hi : as[i]? = some a) :
    ∃ b, bs[i]? = some b ∧ R a b := by
  induction h generalizing i with
  | nil => exact absurd hi (by simp)
  | cons hab _ ih =>
    cases i with
    | zero =>
      obtain rfl := Option.some.inj hi
      exact ⟨_, rfl, hab⟩
    | succ i => exact ih hi

namespace Tree

def text? : Tree → Option String
  | .text q => q.text?
  | _ => none

def bool? : Tree → Option Bool
  | .bool b => some b
  | _ => none

/-- The line number a number stands for: a whole one below `2 ^ 32`. -/
def lineOf? : JsonNumber → Option Nat
  | .whole i => if 0 ≤ i && i < 0x100000000 then some i.toNat else none
  | .float _ => none

def line? : Tree → Option Nat
  | .number l => l.number?.bind lineOf?
  | _ => none

def optional? {α : Type} (f : Tree → Option α) : Tree → Option (Option α)
  | .null => some none
  | t => (f t).map some

def items? {α : Type} (item : Nat → Tree → Option α) : Nat → Tree → Option (List α)
  | depth + 1, .list items => items.mapM (item depth)
  | _, _ => none

theorem mapM_eq_some_iff {α : Type} {f : Tree → Option α} {items : List Tree} {as : List α} :
    items.mapM f = some as ↔ List.Forall₂ (fun t a => f t = some a) items as := by
  induction items generalizing as with
  | nil => simp [eq_comm]
  | cons t items ih =>
    rw [Reader.mapM_cons_eq, List.forall₂_cons_left_iff, Option.bind_eq_some_iff]
    constructor
    · rintro ⟨a, ha, h⟩
      obtain ⟨as, has, rfl⟩ := Option.map_eq_some_iff.1 h
      exact ⟨a, as, ha, ih.1 has, rfl⟩
    · rintro ⟨a, as, ha, has, rfl⟩
      exact ⟨a, ha, Option.map_eq_some_iff.2 ⟨as, ih.2 has, rfl⟩⟩

theorem optional?_of_ne_null {α : Type} {f : Tree → Option α} {t : Tree} (h : t ≠ .null) :
    optional? f t = (f t).map some := by
  cases t with
  | null => exact absurd rfl h
  | _ => rfl

namespace Begins

variable {t : Tree}

theorem eq_null (h : t.Begins 'n') : t = .null := by
  match t, h with
  | .null, _ => rfl
  | .number _, .inl h => exact absurd h (by decide)

theorem eq_true (h : t.Begins 't') : t = .bool true := by
  match t, h with
  | .bool true, _ => rfl
  | .number _, .inl h => exact absurd h (by decide)

theorem eq_false (h : t.Begins 'f') : t = .bool false := by
  match t, h with
  | .bool false, _ => rfl
  | .number _, .inl h => exact absurd h (by decide)

theorem eq_text (h : t.Begins '"') : ∃ q, t = .text q := by
  match t, h with
  | .text q, _ => exact ⟨q, rfl⟩
  | .number _, .inl h => exact absurd h (by decide)

theorem eq_number {c : Char} (h : t.Begins c) (hc : c = '-' ∨ Reader.isDigit c = true) :
    ∃ l, t = .number l := by
  match t, h with
  | .number l, _ => exact ⟨l, rfl⟩
  | .null, rfl | .bool true, rfl | .bool false, rfl | .text _, rfl | .list _, rfl
  | .object _, rfl => exact absurd hc (by decide)

theorem eq_list (h : t.Begins '[') : ∃ items, t = .list items := by
  match t, h with
  | .list items, _ => exact ⟨items, rfl⟩
  | .number _, .inl h => exact absurd h (by decide)

theorem eq_object (h : t.Begins '\x7b') : ∃ members, t = .object members := by
  match t, h with
  | .object members, _ => exact ⟨members, rfl⟩
  | .number _, .inl h => exact absurd h (by decide)

end Begins

end Tree

/-- A field of a record `σ`, and what the record is with the field taken from a tree. -/
structure Slot (σ : Type) where
  name : String
  required : Bool
  take? : Nat → Tree → σ → Option σ

namespace Slot

variable {σ : Type}

/-- The record with one more member, where the names of the fields set are known. -/
def fill? (slots : List (Slot σ)) (depth : Nat) (draft : List String × σ) (m : Quoted × Tree) :
    Option (List String × σ) := do
  let k ← m.1.text?
  match slots.find? fun s => s.name == k with
  | none => return draft
  | some s =>
    if s.name ∈ draft.1 then none
    else (s.take? depth m.2 draft.2).map fun r => (s.name :: draft.1, r)

section fill

variable {slots : List (Slot σ)} {s : Slot σ} {m : Quoted × Tree} {k : String}

theorem fill?_none (depth : Nat) (draft : List String × σ) (hk : m.1.text? = none) :
    fill? slots depth draft m = none := by
  rw [fill?, hk]
  rfl

theorem fill?_unknown (depth : Nat) (draft : List String × σ) (hk : m.1.text? = some k)
    (hs : slots.find? (fun s => s.name == k) = none) : fill? slots depth draft m = some draft := by
  rw [fill?, hk, Option.bind_eq_bind, Option.bind_some, hs]
  rfl

theorem fill?_known (depth : Nat) (draft : List String × σ) (hk : m.1.text? = some k)
    (hs : slots.find? (fun s => s.name == k) = some s) :
    fill? slots depth draft m = if s.name ∈ draft.1 then none
      else (s.take? depth m.2 draft.2).map fun r => (s.name :: draft.1, r) := by
  rw [fill?, hk, Option.bind_eq_bind, Option.bind_some, hs]

end fill

/-- The record in the members of an object: no field twice, and no required one missing. -/
def ofMembers? (slots : List (Slot σ)) (blank : σ) (depth : Nat) (members : List (Quoted × Tree)) :
    Option σ := do
  let draft ← members.foldlM (fill? slots depth) ([], blank)
  if ∀ s ∈ slots, s.required = true → s.name ∈ draft.1 then return draft.2 else none

/-- The record in the items of a list, one for each field in order; optional ones may be missing at
its end. -/
def ofItems? (depth : Nat) : List (Slot σ) → List Tree → σ → Option σ
  | [], [], r => some r
  | [], _ :: _, _ => none
  | s :: slots, [], r => if s.required then none else ofItems? depth slots [] r
  | s :: slots, t :: items, r => (s.take? depth t r).bind (ofItems? depth slots items)

def record? (slots : List (Slot σ)) (blank : σ) : Nat → Tree → Option σ
  | depth + 1, .list items => ofItems? depth slots items blank
  | depth + 1, .object members => ofMembers? slots blank depth members
  | _, _ => none

end Slot

namespace Reader

variable {α σ : Type}

theorem Gives.wrongType (wanted : Wanted) (cs : List Char) :
    Gives (Reader.wrongType (α := α) wanted) cs none := by
  intro c _
  rw [Reader.wrongType, bind_apply]
  split
  · next j m _ =>
    match j with
    | .null | .bool _ | .number (.whole _) | .number (.float _) | .text _ | .list _ | .object _ =>
      rfl
  · rfl

def unsignedLine (negative : Bool) : Reader Nat := do
  match ← number negative with
  | .whole i => if 0 ≤ i && i < 0x100000000 then return i.toNat else failHere (.lineTooLarge i)
  | .float x => failHere (.wrongType (.float x) .lineNumber)

theorem lineNumber_eq : lineNumber = peekPastBlanks >>= fun
    | none => failNext .endInValue
    | some c =>
      if c = '-' then do advance; unsignedLine true
      else if isDigit c then unsignedLine false
      else wrongType .lineNumber := by
  unfold lineNumber
  congr 1
  funext o
  cases o with
  | none => rfl
  | some c =>
    by_cases hminus : c = '-'
    · rw [hminus]
      rfl
    · have hbeq : (c == '-') = false := beq_eq_false_iff_ne.2 hminus
      simp only [hminus, hbeq, decide_false, Bool.false_or, if_false]
      rfl

namespace Follows

/-- A reader that looks at the first character of a value. -/
theorem peek {k : Option Char → Reader α} {f : Tree → Option α}
    (h : ∀ t c tail rest, t.Begins c → Spells t (c :: tail) → EndsValue rest →
      Gives (k (some c)) (c :: (tail ++ rest)) ((f t).map fun a => (a, rest))) :
    Follows (peekPastBlanks >>= k) f := by
  intro t blanks cs rest hb hs hrest
  obtain ⟨c, tail, rfl, hc⟩ := hs.begins
  exact Gives.bind_some (Gives.peekPast hb hc.isBlank _) (h t c tail rest hc hs hrest)

theorem optional {r : Reader α} {f : Tree → Option α} (hr : Follows r f) :
    Follows (Reader.optional r) (Tree.optional? f) := by
  apply peek
  intro t c tail rest hc hs hrest
  by_cases hn : c = 'n'
  · subst hn
    obtain rfl := hc.eq_null
    obtain rfl : tail = ['u', 'l', 'l'] := List.cons_inj_right _ |>.1 hs
    refine Gives.bind_some (Gives.advance 'n' _) ?_
    exact Gives.bind_some (Gives.word _ rest) (Gives.pure _ _)
  · have hread := Gives.map some (hr (List.forall_mem_nil _) hs hrest)
    rw [← Tree.optional?_of_ne_null fun ht => hn (by rw [ht] at hc; exact hc)] at hread
    split
    · next h => exact absurd (Option.some.inj h) hn
    · exact hread

theorem text : Follows Reader.text Tree.text? := by
  apply peek
  intro t c tail rest hc hs hrest
  by_cases hq : c = '"'
  · subst hq
    obtain ⟨q, rfl⟩ := hc.eq_text
    obtain rfl : tail = q.chars ++ ['"'] := List.cons_inj_right _ |>.1 hs
    simp only [List.append_assoc, List.cons_append, List.nil_append, if_true]
    exact Gives.bind_some (Gives.advance '"' _) (Gives.textBody q rest)
  · have ht : t.text? = none := by
      cases t with
      | text q => exact absurd hc hq
      | _ => rfl
    simp only [if_neg hq, ht]
    exact Gives.wrongType _ _

theorem boolean : Follows Reader.boolean Tree.bool? := by
  apply peek
  intro t c tail rest hc hs hrest
  by_cases ht : c = 't'
  · subst ht
    obtain rfl := hc.eq_true
    obtain rfl : tail = ['r', 'u', 'e'] := List.cons_inj_right _ |>.1 hs
    refine Gives.bind_some (Gives.advance 't' _) ?_
    exact Gives.bind_some (Gives.word _ rest) (Gives.pure _ _)
  · by_cases hf : c = 'f'
    · subst hf
      obtain rfl := hc.eq_false
      obtain rfl : tail = ['a', 'l', 's', 'e'] := List.cons_inj_right _ |>.1 hs
      exact Gives.bind_some (Gives.advance 'f' _)
        (Gives.bind_some (Gives.word _ rest) (Gives.pure _ _))
    · have hnone : t.bool? = none := by
        match t, hc with
        | .bool true, hc => exact absurd hc ht
        | .bool false, hc => exact absurd hc hf
        | .null, _ | .number _, _ | .text _, _ | .list _, _ | .object _, _ => rfl
      simp only [if_neg ht, if_neg hf, hnone]
      exact Gives.wrongType _ _

theorem unsignedLine (l : Literal) {rest : List Char} (hrest : EndsNumber rest) :
    Gives (Reader.unsignedLine l.negative) (l.unsigned ++ rest)
      ((l.number?.bind Tree.lineOf?).map fun n => (n, rest)) := by
  rw [Option.map_bind]
  refine Gives.bind (Gives.number l hrest) fun n => ?_
  cases n with
  | float x => exact Gives.failHere _ _
  | whole i =>
    dsimp only [Function.comp, Tree.lineOf?]
    split
    · exact Gives.pure _ _
    · exact Gives.failHere _ _

theorem lineNumber : Follows Reader.lineNumber Tree.line? := by
  rw [lineNumber_eq]
  apply peek
  intro t c tail rest hc hs hrest
  by_cases hnum : c = '-' ∨ isDigit c = true
  · obtain ⟨l, rfl⟩ := hc.eq_number hnum
    have hline := unsignedLine l hrest.endsNumber
    replace hs : c :: tail = l.chars := hs
    unfold Literal.chars at hs
    cases hneg : l.negative with
    | true =>
      rw [hneg] at hs hline
      obtain ⟨rfl, rfl⟩ := List.cons.inj hs
      exact Gives.bind_some (Gives.advance '-' _) hline
    | false =>
      rw [hneg] at hs hline
      obtain ⟨d, ds, hl, hd⟩ := l.unsigned_head
      rw [hl] at hs hline
      obtain ⟨rfl, rfl⟩ := List.cons.inj (show c :: tail = d :: ds from hs)
      simp only [isDigit_ne hd (x := '-') rfl, hd, if_true, if_false]
      exact hline
  · obtain ⟨hminus, hdigit⟩ := not_or.1 hnum
    have hnone : t.line? = none := by
      cases t with
      | number l => exact absurd hc hnum
      | _ => rfl
    simp only [if_neg hminus, if_neg hdigit, hnone]
    exact Gives.wrongType _ _

theorem list {item : Nat → Reader α} {f : Nat → Tree → Option α}
    (hitem : ∀ d, Follows (item d) (f d)) (depth : Nat) :
    Follows (Reader.list item depth) (Tree.items? f depth) := by
  apply peek
  intro t c tail rest hc hs hrest
  by_cases hopen : c = '['
  · subst hopen
    obtain ⟨items, rfl⟩ := hc.eq_list
    obtain ⟨inner, hinner, hitems⟩ := hs
    obtain rfl : tail = inner ++ [']'] := List.cons_inj_right _ |>.1 hinner
    cases depth with
    | zero => exact Gives.failNext _ _
    | succ depth =>
      simp only [List.append_assoc, List.cons_append, List.nil_append, if_true]
      exact Gives.listBody (hitem depth) hitems rest
  · have hnone : Tree.items? f depth t = none := by
      cases t with
      | list items => exact absurd hc hopen
      | _ => cases depth <;> rfl
    simp only [if_neg hopen, hnone]
    exact Gives.wrongType _ _

end Follows

/-- The field is read as the slot is taken. -/
structure Field.Fills (f : Field σ) (s : Slot σ) : Prop where
  name : f.name = s.name
  required : f.required = s.required
  read : ∀ depth r, Follows (f.read depth r) fun t => s.take? depth t r

namespace Shape

variable {shape : Shape σ} {fields : List (Field σ)} {slots : List (Slot σ)}

/-- The first field with a property is read as the first slot with it is taken. -/
theorem find?_fills {p : Field σ → Bool} {q : Slot σ → Bool}
    (h : List.Forall₂ Field.Fills fields slots) (hpq : ∀ f s, f.Fills s → p f = q s) :
    (fields.find? p = none ∧ slots.find? q = none) ∨
      ∃ f s, fields.find? p = some f ∧ slots.find? q = some s ∧ f.Fills s := by
  induction h with
  | nil => exact .inl ⟨rfl, rfl⟩
  | @cons f s fields slots hfs _ ih =>
    have hq := hpq f s hfs
    cases hp : p f with
    | true =>
      rw [hp] at hq
      exact .inr ⟨f, s, List.find?_cons_of_pos hp, List.find?_cons_of_pos hq.symm, hfs⟩
    | false =>
      rw [List.find?_cons_of_neg (by simp [hp]), List.find?_cons_of_neg (by simp [← hq, hp])]
      exact ih

/-- One turn of the loop takes the next member into the record. -/
theorem gives_keyStep (hshape : List.Forall₂ Field.Fills shape.fields slots) (depth : Nat)
    {m : Quoted × Tree} {members : List (Quoted × Tree)} (draft : Draft σ) {cs : List Char}
    (h : SpellsRun SpellsMember (!draft.started) (m :: members) cs) (rest : List Char) :
    ∃ tail, SpellsRun SpellsMember false members tail ∧ tail.length < cs.length ∧
      Gives (keyStep shape depth draft) (cs ++ '\x7d' :: rest)
        ((Slot.fill? slots depth (draft.seen, draft.record) m).map fun p =>
          (some ⟨true, p.1, p.2⟩, tail ++ '\x7d' :: rest)) := by
  obtain ⟨behind, blanks, used, tail, hnext, hcolon, hb, hused, htail, hlt⟩ := h.next_member rest
  refine ⟨tail, htail, hlt, Gives.bind_some hnext ?_⟩
  have hkey := Gives.key m.1 behind
  have hend := htail.endsValue (.inr rfl) rest
  cases hk : m.1.text? with
  | none =>
    rw [hk] at hkey
    rw [Slot.fill?_none _ _ hk]
    exact Gives.bind_none hkey
  | some k =>
    rw [hk] at hkey
    refine Gives.bind_some hkey ?_
    rcases find?_fills (p := fun f => f.name == k) (q := fun s => s.name == k) hshape
      (fun f s hfs => by rw [hfs.name]) with ⟨hf, hs⟩ | ⟨f, s, hf, hs, hfs⟩
    · rw [Slot.fill?_unknown _ _ hk hs]
      simp only [Shape.field?, hf]
      exact Gives.bind_some hcolon
        (Gives.bind_some (Follows.skip hb hused hend) (Gives.pure _ _))
    · rw [Slot.fill?_known _ _ hk hs]
      by_cases hseen : s.name ∈ draft.seen
      · rw [if_pos hseen]
        simp only [Shape.field?, hf, hfs.name, List.contains_iff_mem.2 hseen, if_true]
        exact Gives.failFloating _ _
      · rw [if_neg hseen, Option.map_map]
        simp only [Shape.field?, hf, hfs.name, List.contains_eq_mem, hseen, decide_false,
          Bool.false_eq_true, if_false]
        refine Gives.bind_some hcolon ?_
        have hread := Gives.map (fun r => some (⟨true, s.name :: draft.seen, r⟩ : Draft σ))
          (hfs.read depth draft.record hb hused hend)
        rw [Option.map_map] at hread
        exact hread

theorem keyStep_loops (hshape : List.Forall₂ Field.Fills shape.fields slots) (depth : Nat)
    (members : List (Quoted × Tree)) (draft : Draft σ) {cs : List Char}
    (h : SpellsRun SpellsMember (!draft.started) members cs) (rest : List Char) :
    Loops (keyStep shape depth) draft (cs ++ '\x7d' :: rest)
      ((members.foldlM (Slot.fill? slots depth) (draft.seen, draft.record)).map fun p =>
        (⟨draft.started || !members.isEmpty, p.1, p.2⟩, '\x7d' :: rest)) := by
  induction members generalizing draft cs with
  | nil =>
    rw [List.isEmpty_nil, Bool.not_true, Bool.or_false]
    exact Loops.stop (Gives.bind_some (Gives.nextKey_close _ h rest) (Gives.pure _ _))
  | cons m members ih =>
    obtain ⟨tail, htail, hlt, hstep⟩ := gives_keyStep hshape depth draft h rest
    rw [List.foldlM_cons]
    cases hfill : Slot.fill? slots depth (draft.seen, draft.record) m with
    | none =>
      rw [hfill] at hstep
      exact Loops.fail hstep
    | some p =>
      rw [hfill] at hstep
      have hshorter : (tail ++ '\x7d' :: rest).length < (cs ++ '\x7d' :: rest).length := by
        simp only [List.length_append]
        omega
      refine Loops.turn hstep hshorter ?_
      simpa using ih ⟨true, p.1, p.2⟩ htail

theorem gives_ofMembers (hshape : List.Forall₂ Field.Fills shape.fields slots) (blank : σ)
    (depth : Nat) {members : List (Quoted × Tree)} {inner : List Char}
    (h : SpellsMembers true members inner)
    (rest : List Char) :
    Gives (ofMembers shape blank depth) (inner ++ '\x7d' :: rest)
      ((Slot.ofMembers? slots blank depth members).map fun r => (r, '\x7d' :: rest)) := by
  rw [spellsMembers_iff] at h
  have hloop := (keyStep_loops hshape depth members ⟨false, [], blank⟩ h rest).gives
  rw [Slot.ofMembers?]
  cases hfold : members.foldlM (Slot.fill? slots depth) ([], blank) with
  | none =>
    rw [hfold] at hloop
    exact Gives.bind_none hloop
  | some p =>
    rw [hfold] at hloop
    refine Gives.bind_some hloop ?_
    dsimp only
    rcases find?_fills (p := fun f => f.required && !p.1.contains f.name)
      (q := fun s => s.required && !p.1.contains s.name) hshape
      (fun f s hfs => by rw [hfs.name, hfs.required]) with ⟨hf, hs⟩ | ⟨f, s, hf, hs, hfs⟩
    · have hall : ∀ s ∈ slots, s.required = true → s.name ∈ p.1 := by simpa using hs
      rw [hf, Option.bind_eq_bind, Option.bind_some, if_pos hall]
      exact Gives.pure p.2 _
    · have hmissing : ¬ ∀ s ∈ slots, s.required = true → s.name ∈ p.1 := by
        intro hall
        have hwanted := List.find?_some hs
        simp only [Bool.and_eq_true, Bool.not_eq_true', List.contains_eq_mem,
          decide_eq_false_iff_not] at hwanted
        exact hwanted.2 (hall s (List.mem_of_find?_eq_some hs) hwanted.1)
      rw [hf, Option.bind_eq_bind, Option.bind_some, if_neg hmissing]
      exact Gives.failFloating _ _

theorem gives_ofItems (hfields : List.Forall₂ Field.Fills fields slots) (depth count : Nat) (r : σ)
    {items : List Tree} {cs : List Char} (h : SpellsRun Spells (count == 0) items cs)
    (rest : List Char) :
    Gives (ofItems shape depth count fields r >>= fun r => do closeList; return r)
      (cs ++ ']' :: rest) ((Slot.ofItems? depth slots items r).map fun r => (r, rest)) := by
  induction hfields generalizing count r items cs with
  | nil =>
    cases items with
    | nil =>
      exact Gives.bind_some (Gives.pure r _)
        (Gives.bind_some (Gives.closeList h rest) (Gives.pure r rest))
    | cons t items =>
      exact Gives.bind_some (Gives.pure r _) (Gives.bind_none (h.closeList_fails _))
  | @cons f s fields slots hfs _ ih =>
    rw [ofItems, bind_assoc]
    cases items with
    | nil =>
      refine Gives.bind_some (Gives.nextItem_close _ h rest) ?_
      simp only [Bool.false_eq_true, if_false, Slot.ofItems?, ← hfs.required]
      split
      · exact Gives.bind_none (Gives.failFloating _ _)
      · exact ih count r (show SpellsRun Spells _ [] [] from List.forall_mem_nil _)
    | cons t items =>
      obtain ⟨used, tail, hnext, hused, htail, -⟩ := h.next_item rest
      have hread := hfs.read depth r (List.forall_mem_nil _) hused (htail.endsValue (.inl rfl) rest)
      refine Gives.bind_some hnext ?_
      simp only [if_true, Slot.ofItems?, bind_assoc, Option.map_bind]
      exact Gives.bind hread fun r => ih (count + 1) r htail

/-- A record is read from either form as its slots are taken. -/
theorem follows_read (hshape : List.Forall₂ Field.Fills shape.fields slots) (blank : σ)
    (depth : Nat) : Follows (shape.read blank depth) (Slot.record? slots blank depth) := by
  apply Follows.peek
  intro t c tail rest hc hs hrest
  by_cases hlist : c = '['
  · subst hlist
    obtain ⟨items, rfl⟩ := hc.eq_list
    obtain ⟨inner, hinner, hitems⟩ := hs
    obtain rfl : tail = inner ++ [']'] := List.cons_inj_right _ |>.1 hinner
    cases depth with
    | zero => exact Gives.failNext _ _
    | succ depth =>
      simp only [List.append_assoc, List.cons_append, List.nil_append, if_true]
      refine Gives.bind_some (Gives.advance '[' _) (Gives.within_bind _ ?_)
      rw [spellsItems_eq] at hitems
      exact gives_ofItems hshape depth 0 blank hitems rest
  · by_cases hobject : c = '\x7b'
    · subst hobject
      obtain ⟨members, rfl⟩ := hc.eq_object
      obtain ⟨inner, hinner, hmembers⟩ := hs
      obtain rfl : tail = inner ++ ['\x7d'] := List.cons_inj_right _ |>.1 hinner
      cases depth with
      | zero => exact Gives.failNext _ _
      | succ depth =>
        simp only [List.append_assoc, List.cons_append, List.nil_append, if_neg hlist, if_true]
        refine Gives.bind_some (Gives.advance '\x7b' _) ?_
        rw [Option.map_eq_bind]
        refine Gives.bind ((gives_ofMembers hshape blank depth hmembers rest).within leaveObject) ?_
        intro r
        exact Gives.bind_some (Gives.closeObject rest) (Gives.pure r rest)
    · have hnone : Slot.record? slots blank depth t = none := by
        cases t with
        | list items => exact absurd hc hlist
        | object members => exact absurd hc hobject
        | _ => cases depth <;> rfl
      simp only [if_neg hlist, if_neg hobject, hnone]
      exact Gives.wrongType _ _

end Shape

end Reader

end CodeGraph.Json
