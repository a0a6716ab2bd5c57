import CodeGraph.Proofs.GraphDocuments
import CodeGraph.Proofs.NumberLiterals
import Mathlib.Data.List.Nodup

namespace CodeGraph.Json

def member? (ms : List (Quoted × Tree)) (name : String) : Option Tree :=
  (ms.find? fun m => m.1.text? == some name).map Prod.snd

theorem member?_cons_of_eq {m : Quoted × Tree} {ms : List (Quoted × Tree)} {name : String}
    (h : m.1.text? = some name) : member? (m :: ms) name = some m.2 := by
  simp [member?, h]

theorem member?_cons_of_ne {m : Quoted × Tree} {ms : List (Quoted × Tree)} {name : String}
    (h : m.1.text? ≠ some name) : member? (m :: ms) name = member? ms name := by
  simp [member?, h]

theorem member?_eq_none_iff {ms : List (Quoted × Tree)} {name : String} :
    member? ms name = none ↔ ∀ m ∈ ms, m.1.text? ≠ some name := by
  simp [member?]

namespace Tree

/-- The value of a field of a record: under its key in an object, at its place in a list. -/
def field? (names : List String) (name : String) : Tree → Option Tree
  | .object ms => member? ms name
  | .list items => items[names.idxOf name]?
  | _ => none

/-- The tree has the form of a record: an object whose keys are texts and which repeats no known
one, or a list that is not longer than the record. -/
def Keyed (names : List String) : Tree → Prop
  | .object ms => (∀ m ∈ ms, m.1.text? ≠ none) ∧
      ms.Pairwise fun m m' => ∀ k ∈ names, ¬(m.1.text? = some k ∧ m'.1.text? = some k)
  | .list items => items.length ≤ names.length
  | _ => False

end Tree

namespace Slot

variable {σ : Type}

def collectOne? (s : Slot σ) (depth : Nat) (v : Option Tree) (r : σ) : Option σ :=
  match v with
  | none => some r
  | some t => s.take? depth t r

def collect? (slots : List (Slot σ)) (depth : Nat) (field : String → Option Tree) (r : σ) :
    Option σ :=
  slots.foldlM (fun r s => s.collectOne? depth (field s.name) r) r

theorem collect?_cons (s : Slot σ) (slots : List (Slot σ)) (depth : Nat)
    (field : String → Option Tree) (r : σ) : collect? (s :: slots) depth field r =
      (s.collectOne? depth (field s.name) r).bind (collect? slots depth field) :=
  List.foldlM_cons ..

theorem collect?_congr {slots : List (Slot σ)} {field field' : String → Option Tree}
    (h : ∀ s ∈ slots, field s.name = field' s.name) (depth : Nat) :
    collect? slots depth field = collect? slots depth field' := by
  funext r
  induction slots generalizing r with
  | nil => rfl
  | cons s slots ih =>
    obtain ⟨hs, hrest⟩ := List.forall_mem_cons.1 h
    rw [collect?_cons, collect?_cons, hs, funext (ih hrest)]

theorem collect?_none {slots : List (Slot σ)} {field : String → Option Tree}
    (h : ∀ s ∈ slots, field s.name = none) (depth : Nat) (r : σ) :
    collect? slots depth field r = some r := by
  induction slots with
  | nil => rfl
  | cons s slots ih =>
    obtain ⟨hs, hrest⟩ := List.forall_mem_cons.1 h
    rw [collect?_cons, hs]
    exact ih hrest

def Commutes (s s' : Slot σ) : Prop :=
  ∀ depth t t' r, (s.take? depth t r).bind (s'.take? depth t') =
    (s'.take? depth t' r).bind (s.take? depth t)

/-- Fields with names of their own, which can be set in any order. -/
structure Independent (slots : List (Slot σ)) : Prop where
  nodup : (slots.map Slot.name).Nodup
  commutes : slots.Pairwise Commutes

theorem Independent.tail {s : Slot σ} {slots : List (Slot σ)} (h : Independent (s :: slots)) :
    Independent slots :=
  ⟨(List.nodup_cons.1 h.nodup).2, (List.pairwise_cons.1 h.commutes).2⟩

theorem Commutes.collectOne? {s s' : Slot σ} (h : Commutes s s') (depth : Nat) (v : Option Tree)
    (t : Tree) (r : σ) : (s.collectOne? depth v r).bind (s'.take? depth t) =
      (s'.take? depth t r).bind (s.collectOne? depth v) := by
  cases v with
  | none => exact (Option.bind_fun_some _).symm
  | some t' => exact h depth t' t r

/-- A field can be taken before all others. -/
theorem collect?_first {slots : List (Slot σ)} (hslots : Independent slots) {s : Slot σ}
    (hs : s ∈ slots) {field field' : String → Option Tree} {t : Tree}
    (hfield : field s.name = some t) (hnone : field' s.name = none)
    (hother : ∀ n, n ≠ s.name → field n = field' n) (depth : Nat) (r : σ) :
    collect? slots depth field r =
      (s.take? depth t r).bind (collect? slots depth field') := by
  induction slots generalizing r with
  | nil => exact absurd hs List.not_mem_nil
  | cons s₀ slots ih =>
    have hnames := (List.nodup_cons.1 hslots.nodup).1
    rcases List.mem_cons.1 hs with rfl | hmem
    · have hrest : ∀ s' ∈ slots, field s'.name = field' s'.name := fun s' hs' =>
        hother _ fun hname => hnames (hname ▸ List.mem_map_of_mem hs')
      rw [collect?_cons, hfield, collect?_congr hrest]
      congr 1
      funext r'
      rw [collect?_cons, hnone]
      rfl
    · have hne : s₀.name ≠ s.name := fun hname => hnames (hname ▸ List.mem_map_of_mem hmem)
      have hcommutes := (List.pairwise_cons.1 hslots.commutes).1 s hmem
      calc collect? (s₀ :: slots) depth field r
          = (s₀.collectOne? depth (field' s₀.name) r).bind fun r =>
              (s.take? depth t r).bind (collect? slots depth field') := by
            rw [collect?_cons, hother _ hne, funext (ih hslots.tail hmem)]
        _ = ((s.take? depth t r).bind (s₀.collectOne? depth (field' s₀.name))).bind
              (collect? slots depth field') := by
            rw [← hcommutes.collectOne?, Option.bind_assoc]
        _ = (s.take? depth t r).bind (collect? (s₀ :: slots) depth field') := by
            rw [Option.bind_assoc]
            rfl

variable {slots : List (Slot σ)}

theorem find?_eq_none_iff {k : String} :
    slots.find? (fun s => s.name == k) = none ↔ k ∉ slots.map Slot.name := by
  rw [List.find?_eq_none, List.mem_map]
  constructor
  · rintro h ⟨s, hs, rfl⟩
    exact h s hs (beq_self_eq_true _)
  · intro h s hs heq
    exact h ⟨s, hs, eq_of_beq heq⟩

/-- Without repeated keys, the members give what the fields give, and the names seen are those of
the fields with a value. -/
theorem foldlM_fill? (hslots : Independent slots) (depth : Nat) {ms : List (Quoted × Tree)}
    (hkeys : Tree.Keyed (slots.map Slot.name) (.object ms)) (seen : List String)
    (hseen : ∀ m ∈ ms, ∀ k ∈ seen, m.1.text? ≠ some k) :
    ∃ seen', (∀ s ∈ slots, s.name ∈ seen' ↔ s.name ∈ seen ∨ member? ms s.name ≠ none) ∧
      ∀ r, ms.foldlM (fill? slots depth) (seen, r) =
        (collect? slots depth (member? ms) r).map fun r' => (seen', r') := by
  induction ms generalizing seen with
  | nil =>
    refine ⟨seen, fun s _ => by simp [member?], fun r => ?_⟩
    rw [collect?_none fun _ _ => rfl]
    rfl
  | cons m ms ih =>
    obtain ⟨htexts, hpairs⟩ := hkeys
    obtain ⟨htext, htexts⟩ := List.forall_mem_cons.1 htexts
    obtain ⟨hpair, hpairs⟩ := List.pairwise_cons.1 hpairs
    obtain ⟨hseen, hrest⟩ := List.forall_mem_cons.1 hseen
    obtain ⟨k, hk⟩ := Option.ne_none_iff_exists'.1 htext
    cases hs : slots.find? fun s => s.name == k with
    | none =>
      have hmember : ∀ s ∈ slots, member? (m :: ms) s.name = member? ms s.name :=
        fun s hmem => member?_cons_of_ne fun hname => find?_eq_none_iff.1 hs
          (Option.some.inj (hk.symm.trans hname) ▸ List.mem_map_of_mem hmem)
      obtain ⟨seen', hmem, hfold⟩ := ih ⟨htexts, hpairs⟩ seen hrest
      refine ⟨seen', fun s hs => by rw [hmember s hs]; exact hmem s hs, fun r => ?_⟩
      rw [List.foldlM_cons, fill?_unknown _ _ hk hs, collect?_congr hmember]
      exact hfold r
    | some s =>
      have hmem := List.mem_of_find?_eq_some hs
      obtain rfl : s.name = k := by simpa using List.find?_some hs
      have hnotSeen : s.name ∉ seen := fun h => hseen s.name h hk
      have hother : ∀ m' ∈ ms, m'.1.text? ≠ some s.name := fun m' hm' hname =>
        hpair m' hm' s.name (List.mem_map_of_mem hmem) ⟨hk, hname⟩
      obtain ⟨seen', hseen', hfold⟩ := ih ⟨htexts, hpairs⟩ (s.name :: seen) fun m' hm' =>
        List.forall_mem_cons.2 ⟨hother m' hm', hrest m' hm'⟩
      refine ⟨seen', fun s' hs' => ?_, fun r => ?_⟩
      · rw [hseen' s' hs', List.mem_cons]
        by_cases hname : s'.name = s.name
        · rw [hname, member?_cons_of_eq hk]
          simp
        · rw [member?_cons_of_ne fun h => hname (Option.some.inj (hk.symm.trans h)).symm]
          simp [hname]
      · rw [List.foldlM_cons, fill?_known _ _ hk hs, if_neg hnotSeen,
          collect?_first hslots hmem (member?_cons_of_eq hk) (member?_eq_none_iff.2 hother)
            (fun n hn => member?_cons_of_ne fun h => hn (Option.some.inj (hk.symm.trans h)).symm)]
        cases s.take? depth m.2 r with
        | none => rfl
        | some r' => exact hfold r'

/-- Members that give a record repeat no known key. -/
theorem keyed_of_foldlM_fill? {depth : Nat} {ms : List (Quoted × Tree)} {seen seen' : List String}
    {r r' : σ} (h : ms.foldlM (fill? slots depth) (seen, r) = some (seen', r')) :
    Tree.Keyed (slots.map Slot.name) (.object ms) ∧
      ∀ m ∈ ms, ∀ k ∈ slots.map Slot.name, k ∈ seen → m.1.text? ≠ some k := by
  induction ms generalizing seen r with
  | nil => exact ⟨⟨List.forall_mem_nil _, .nil⟩, List.forall_mem_nil _⟩
  | cons m ms ih =>
    rw [List.foldlM_cons] at h
    obtain ⟨draft, hfill, h⟩ := Option.bind_eq_some_iff.1 h
    cases hk : m.1.text? with
    | none =>
      rw [fill?_none _ _ hk] at hfill
      exact nomatch hfill
    | some k =>
      have htext : m.1.text? ≠ none := by rw [hk]; exact Option.some_ne_none k
      cases hs : slots.find? fun s => s.name == k with
      | none =>
        rw [fill?_unknown _ _ hk hs] at hfill
        obtain rfl := Option.some.inj hfill
        obtain ⟨⟨htexts, hpairs⟩, hseen⟩ := ih h
        have hunknown : ∀ k' ∈ slots.map Slot.name, m.1.text? ≠ some k' := by
          rintro k' hk' heq
          exact find?_eq_none_iff.1 hs (Option.some.inj (hk.symm.trans heq) ▸ hk')
        refine ⟨⟨List.forall_mem_cons.2 ⟨htext, htexts⟩, List.pairwise_cons.2 ⟨?_, hpairs⟩⟩,
          List.forall_mem_cons.2 ⟨?_, hseen⟩⟩
        · exact fun m' _ k' hk' hboth => hunknown k' hk' hboth.1
        · exact fun k' hk' _ => hk ▸ hunknown k' hk'
      | some s =>
        have hmem := List.mem_of_find?_eq_some hs
        obtain rfl : s.name = k := by simpa using List.find?_some hs
        rw [fill?_known _ _ hk hs] at hfill
        split at hfill
        · exact nomatch hfill
        · next hnotSeen =>
          obtain ⟨r₁, -, rfl⟩ := Option.map_eq_some_iff.1 hfill
          obtain ⟨⟨htexts, hpairs⟩, hseen⟩ := ih h
          refine ⟨⟨List.forall_mem_cons.2 ⟨htext, htexts⟩, List.pairwise_cons.2 ⟨?_, hpairs⟩⟩,
            List.forall_mem_cons.2 ⟨?_, ?_⟩⟩
          · rintro m' hm' k' hk' ⟨hfirst, hsecond⟩
            obtain rfl := Option.some.inj (hk.symm.trans hfirst)
            exact hseen m' hm' _ hk' List.mem_cons_self hsecond
          · intro k' _ hk' heq
            exact hnotSeen (Option.some.inj (hk.symm.trans heq) ▸ hk')
          · exact fun m' hm' k' hk' hin => hseen m' hm' k' hk' (List.mem_cons_of_mem _ hin)

theorem ofMembers?_eq_some_iff (hslots : Independent slots) {blank r : σ} {depth : Nat}
    {ms : List (Quoted × Tree)} : ofMembers? slots blank depth ms = some r ↔
      Tree.Keyed (slots.map Slot.name) (.object ms) ∧
      (∀ s ∈ slots, s.required = true → member? ms s.name ≠ none) ∧
      collect? slots depth (member? ms) blank = some r := by
  have hfold (hkeys : Tree.Keyed (slots.map Slot.name) (.object ms)) :=
    foldlM_fill? hslots depth hkeys [] fun _ _ => List.forall_mem_nil _
  constructor
  · intro h
    obtain ⟨⟨seen, r'⟩, hdraft, h⟩ := Option.bind_eq_some_iff.1 h
    obtain ⟨hkeys, -⟩ := keyed_of_foldlM_fill? hdraft
    obtain ⟨seen', hmem, hcollect⟩ := hfold hkeys
    rw [hcollect] at hdraft
    obtain ⟨r'', hr'', hpair⟩ := Option.map_eq_some_iff.1 hdraft
    obtain ⟨rfl, rfl⟩ := Prod.mk.inj hpair
    split at h
    · next hrequired =>
      obtain rfl := Option.some.inj h
      refine ⟨hkeys, fun s hs hreq => ?_, hr''⟩
      exact ((hmem s hs).1 (hrequired s hs hreq)).resolve_left List.not_mem_nil
    · exact nomatch h
  · rintro ⟨hkeys, hrequired, hcollect⟩
    obtain ⟨seen', hmem, hall⟩ := hfold hkeys
    rw [ofMembers?, hall, hcollect]
    have hseen : ∀ s ∈ slots, s.required = true → s.name ∈ seen' := fun s hs hreq =>
      (hmem s hs).2 (.inr (hrequired s hs hreq))
    exact if_pos hseen

theorem ofItems?_eq_some_iff (hslots : (slots.map Slot.name).Nodup) {depth : Nat}
    {items : List Tree} {r r' : σ} : ofItems? depth slots items r = some r' ↔
      items.length ≤ slots.length ∧
      (∀ s ∈ slots, s.required = true → items[(slots.map Slot.name).idxOf s.name]? ≠ none) ∧
      collect? slots depth (fun name => items[(slots.map Slot.name).idxOf name]?) r = some r' := by
  induction slots generalizing items r with
  | nil =>
    cases items with
    | nil => simp [ofItems?, collect?]
    | cons t items => simp [ofItems?]
  | cons s slots ih =>
    obtain ⟨hname, hrest⟩ := List.nodup_cons.1 hslots
    have hne : ∀ s' ∈ slots, s.name ≠ s'.name := fun s' hs' h => hname (h ▸ List.mem_map_of_mem hs')
    have hself : (s.name :: slots.map Slot.name).idxOf s.name = 0 := List.idxOf_cons_self
    have hother : ∀ s' ∈ slots, (s.name :: slots.map Slot.name).idxOf s'.name =
        (slots.map Slot.name).idxOf s'.name + 1 := fun s' hs' =>
      List.idxOf_cons_ne _ (hne s' hs')
    rw [List.map_cons, List.forall_mem_cons, hself, collect?_cons, hself]
    cases items with
    | nil =>
      have hih : ofItems? depth slots [] r = some r' ↔ _ := ih hrest
      simp only [List.getElem?_nil] at hih ⊢
      cases hreq : s.required with
      | true => simp [ofItems?, hreq]
      | false => simpa [ofItems?, hreq, collectOne?] using hih
    | cons t items =>
      have hfield : ∀ s' ∈ slots, (t :: items)[(s.name :: slots.map Slot.name).idxOf s'.name]? =
          items[(slots.map Slot.name).idxOf s'.name]? := fun s' hs' => by
        rw [hother s' hs', List.getElem?_cons_succ]
      have hcollect : collect? slots depth
          (fun name => (t :: items)[(s.name :: slots.map Slot.name).idxOf name]?) =
            collect? slots depth fun name => items[(slots.map Slot.name).idxOf name]? :=
        collect?_congr hfield depth
      have hrequired : (∀ s' ∈ slots, s'.required = true →
          (t :: items)[(s.name :: slots.map Slot.name).idxOf s'.name]? ≠ none) ↔
            ∀ s' ∈ slots, s'.required = true → items[(slots.map Slot.name).idxOf s'.name]? ≠ none :=
        forall₂_congr fun s' hs' => by rw [hfield s' hs']
      rw [hcollect, hrequired, ofItems?, List.getElem?_cons_zero, List.length_cons,
        List.length_cons, Nat.add_le_add_iff_right, Option.bind_eq_some_iff]
      simp only [collectOne?, Option.bind_eq_some_iff, ih hrest]
      constructor
      · rintro ⟨r₁, hr₁, hlength, hreq, h⟩
        exact ⟨hlength, ⟨fun _ => Option.some_ne_none t, hreq⟩, r₁, hr₁, h⟩
      · rintro ⟨hlength, ⟨-, hreq⟩, r₁, hr₁, h⟩
        exact ⟨r₁, hr₁, hlength, hreq, h⟩

/-- A record is there exactly if the tree has its form, no required field is missing, and the fields
are taken from their values. -/
theorem record?_eq_some_iff (hslots : Independent slots) {blank r : σ} {depth : Nat} {t : Tree} :
    record? slots blank (depth + 1) t = some r ↔ t.Keyed (slots.map Slot.name) ∧
      (∀ s ∈ slots, s.required = true → t.field? (slots.map Slot.name) s.name ≠ none) ∧
      collect? slots depth (fun name => t.field? (slots.map Slot.name) name) blank = some r := by
  cases t with
  | object ms => exact ofMembers?_eq_some_iff hslots
  | list items =>
    simp only [Tree.Keyed, List.length_map]
    exact ofItems?_eq_some_iff hslots.nodup
  | null | bool | number | text => simp [record?, Tree.Keyed]

theorem commutes_of {α β : Type} {name name' : String} {required required' : Bool}
    {value? : Nat → Tree → Option α} {value?' : Nat → Tree → Option β} {set : σ → α → σ}
    {set' : σ → β → σ} (h : ∀ r v v', set' (set r v) v' = set (set' r v') v) :
    Commutes (Slot.of name required value? set) (Slot.of name' required' value?' set') := by
  intro depth t t' r
  simp only [Slot.of]
  cases value? depth t <;> cases value?' depth t' <;> simp [h]

theorem collect?_of_eq_some_iff {α : Type} {name : String} {required : Bool}
    {value? : Nat → Tree → Option α} {set : σ → α → σ} {depth : Nat} {field : String → Option Tree}
    {r r' : σ} (missing : α) (hmissing : set r missing = r) :
    collect? (Slot.of name required value? set :: slots) depth field r = some r' ↔
      ∃ v, (field name).elim (some missing) (value? depth) = some v ∧
        collect? slots depth field (set r v) = some r' := by
  rw [collect?_cons, Option.bind_eq_some_iff]
  simp only [Slot.of]
  cases field name with
  | none => simp [collectOne?, hmissing]
  | some t => simp [collectOne?, Option.map_eq_some_iff]

end Slot

def Tree.optionalField? {α : Type} (f : Tree → Option α) (v : Option Tree) : Option (Option α) :=
  v.elim (some none) (Tree.optional? f)

theorem Tree.optionalField?_eq_none_iff {α : Type} {f : Tree → Option α} {v : Option Tree} :
    optionalField? f v = some none ↔ v = none ∨ v = some .null := by
  cases v with
  | none => simp [optionalField?]
  | some t => cases t <;> simp [optionalField?, optional?]

theorem Tree.optionalField?_eq_some_iff {α : Type} {f : Tree → Option α} {v : Option Tree} {a : α} :
    optionalField? f v = some (some a) ↔ ∃ t, v = some t ∧ t ≠ .null ∧ f t = some a := by
  cases v with
  | none => simp [optionalField?]
  | some t => cases t <;> simp [optionalField?, optional?]

theorem Tree.text?_eq_some_iff {t : Tree} {s : String} :
    t.text? = some s ↔ ∃ q, t = .text q ∧ q.text? = some s := by
  cases t <;> simp [Tree.text?]

/-- A line is a literal of a whole number below `2 ^ 32`. -/
theorem Tree.line?_eq_some_iff {t : Tree} {n : Nat} :
    t.line? = some n ↔ ∃ l, t = .number l ∧ l.chars = (toString n).toList ∧ n < 0x100000000 := by
  have hlineOf (x : JsonNumber) : lineOf? x = some n ↔ x = .whole n ∧ n < 0x100000000 := by
    cases x with
    | float x => simp [lineOf?]
    | whole i =>
      simp only [lineOf?, Bool.and_eq_true, decide_eq_true_eq, JsonNumber.whole.injEq]
      split <;> simp <;> omega
  have hnumber (l : Literal) : l.number?.bind lineOf? = some n ↔
      l.chars = (toString n).toList ∧ n < 0x100000000 := by
    have hdigits : toString (n : Int) = toString n := rfl
    rw [Option.bind_eq_some_iff, ← hdigits]
    simp only [hlineOf]
    constructor
    · rintro ⟨x, hx, rfl, hn⟩
      exact ⟨(Literal.number?_eq_whole_iff.1 hx).1, hn⟩
    · rintro ⟨hchars, hn⟩
      have hlow : -0x8000000000000000 ≤ (n : Int) := by omega
      have hhigh : (n : Int) < 0x10000000000000000 := by omega
      exact ⟨_, Literal.number?_eq_whole_iff.2 ⟨hchars, hlow, hhigh⟩, rfl, hn⟩
  cases t with
  | number l => simp [Tree.line?, hnumber]
  | null | bool | text | list | object => simp [Tree.line?]

end CodeGraph.Json

namespace CodeGraph

open Json (Literal Slot Tree Writes)

def IsWord (n : Int) : Prop := -0x8000000000000000 ≤ n ∧ n < 0x8000000000000000

namespace GraphRecords

/-- An id is a text, or the digits of a literal. -/
theorem id?_eq_some_iff {depth : Nat} {t : Tree} {id : NodeId} : id? depth t = some id ↔
    (∃ q, t = .text q ∧ q.text? = some id.text) ∨
      ∃ l n, t = .number l ∧ l.chars = (toString n).toList ∧ IsWord n ∧ id = ⟨toString n⟩ := by
  cases t with
  | text q =>
    have hid : id? depth (.text q) = q.text?.map NodeId.mk := by
      cases depth <;> cases h : q.text? <;> simp [id?, Tree.json?, Tree.valueWith?, h, idOfJson?]
    rw [hid]
    obtain ⟨s⟩ := id
    simp
  | number l =>
    have hid : id? depth (.number l) = l.number?.bind fun x => idOfJson? (.number x) := by
      cases depth <;> exact Option.bind_map
    rw [hid, Option.bind_eq_some_iff]
    constructor
    · rintro ⟨_ | _, hx, h⟩
      · simp only [idOfJson?] at h
        split at h
        · next n hn =>
          have hl := Literal.number?_eq_whole_iff.1 hx
          exact .inr ⟨l, n, rfl, hl.1, ⟨hl.2.1, hn⟩, (Option.some.inj h).symm⟩
        · cases h
      · cases (show none = some id from h)
    · rintro (⟨q, hq, -⟩ | ⟨l', n, hl', hchars, hn, rfl⟩)
      · cases hq
      · obtain rfl := Tree.number.inj hl'
        refine ⟨.whole n, Literal.number?_eq_whole_iff.2 ⟨hchars, hn.1, by have := hn.2; omega⟩, ?_⟩
        rw [idOfJson?, if_pos hn.2]
  | null | bool => cases depth <;> simp [id?, Tree.json?, Tree.valueWith?, idOfJson?]
  | list | object =>
    cases depth <;>
      simp [id?, Tree.json?, Tree.valueWith?, idOfJson?, Option.bind_map, Function.comp_def]

def nodeNames : List String := ["id", "label", "fqname", "type", "file", "lineno"]

theorem nodeSlots_independent : Slot.Independent nodeSlots where
  nodup := by decide
  commutes := by
    simp only [nodeSlots, List.pairwise_cons, List.forall_mem_cons]
    refine ⟨⟨?_, ?_, ?_, ?_, ?_, List.forall_mem_nil _⟩, ⟨?_, ?_, ?_, ?_, List.forall_mem_nil _⟩,
      ⟨?_, ?_, ?_, List.forall_mem_nil _⟩, ⟨?_, ?_, List.forall_mem_nil _⟩,
      ⟨?_, List.forall_mem_nil _⟩, List.forall_mem_nil _, .nil⟩
    all_goals exact Slot.commutes_of fun _ _ _ => rfl

def edgeNames : List String := ["source", "target"]

theorem edgeSlots_independent : Slot.Independent edgeSlots where
  nodup := by decide
  commutes := by
    simp only [edgeSlots, List.pairwise_cons, List.forall_mem_cons]
    exact ⟨⟨Slot.commutes_of fun _ _ _ => rfl, List.forall_mem_nil _⟩, List.forall_mem_nil _, .nil⟩

def kindField? (depth : Nat) (v : Option Tree) : Option NodeKind :=
  (v.elim (some .null) (Tree.json? depth)).map kindOfJson

/-- A node record is there exactly if each of its fields is. -/
theorem node?_eq_some_iff {depth : Nat} {t : Tree} {r : NodeRecord} :
    node? (depth + 1) t = some r ↔ t.Keyed nodeNames ∧
      Tree.optionalField? (id? depth) (t.field? nodeNames "id") = some r.id ∧
      Tree.optionalField? Tree.text? (t.field? nodeNames "label") = some r.label ∧
      Tree.optionalField? Tree.text? (t.field? nodeNames "fqname") = some r.fqname ∧
      kindField? depth (t.field? nodeNames "type") = some r.kind ∧
      Tree.optionalField? Tree.text? (t.field? nodeNames "file") = some r.file ∧
      Tree.optionalField? Tree.line? (t.field? nodeNames "lineno") = some r.line := by
  rw [node?, Slot.record?_eq_some_iff nodeSlots_independent]
  refine and_congr Iff.rfl ?_
  constructor
  · rintro ⟨-, h⟩
    obtain ⟨id, hid, h⟩ := (Slot.collect?_of_eq_some_iff none rfl).1 h
    obtain ⟨label, hlabel, h⟩ := (Slot.collect?_of_eq_some_iff none rfl).1 h
    obtain ⟨fqname, hfqname, h⟩ := (Slot.collect?_of_eq_some_iff none rfl).1 h
    obtain ⟨j, hj, h⟩ := (Slot.collect?_of_eq_some_iff Json.null rfl).1 h
    obtain ⟨file, hfile, h⟩ := (Slot.collect?_of_eq_some_iff none rfl).1 h
    obtain ⟨line, hline, h⟩ := (Slot.collect?_of_eq_some_iff none rfl).1 h
    obtain rfl := Option.some.inj h
    exact ⟨hid, hlabel, hfqname, Option.map_eq_some_iff.2 ⟨j, hj, rfl⟩, hfile, hline⟩
  · rintro ⟨hid, hlabel, hfqname, hkind, hfile, hline⟩
    obtain ⟨j, hj, hkind⟩ := Option.map_eq_some_iff.1 hkind
    refine ⟨by simp [nodeSlots, Slot.of], ?_⟩
    refine (Slot.collect?_of_eq_some_iff none rfl).2 ⟨_, hid, ?_⟩
    refine (Slot.collect?_of_eq_some_iff none rfl).2 ⟨_, hlabel, ?_⟩
    refine (Slot.collect?_of_eq_some_iff none rfl).2 ⟨_, hfqname, ?_⟩
    refine (Slot.collect?_of_eq_some_iff Json.null rfl).2 ⟨_, hj, ?_⟩
    refine (Slot.collect?_of_eq_some_iff none rfl).2 ⟨_, hfile, ?_⟩
    refine (Slot.collect?_of_eq_some_iff none rfl).2 ⟨_, hline, ?_⟩
    rw [hkind]
    rfl

/-- An edge record is there exactly if its two ends are. -/
theorem edge?_eq_some_iff {depth : Nat} {t : Tree} {r : EdgeRecord} :
    edge? (depth + 1) t = some r ↔ t.Keyed edgeNames ∧
      Tree.optionalField? (id? depth) (t.field? edgeNames "source") = some r.source ∧
      Tree.optionalField? (id? depth) (t.field? edgeNames "target") = some r.target := by
  rw [edge?, Slot.record?_eq_some_iff edgeSlots_independent]
  refine and_congr Iff.rfl ?_
  constructor
  · rintro ⟨-, h⟩
    obtain ⟨source, hsource, h⟩ := (Slot.collect?_of_eq_some_iff none rfl).1 h
    obtain ⟨target, htarget, h⟩ := (Slot.collect?_of_eq_some_iff none rfl).1 h
    obtain rfl := Option.some.inj h
    exact ⟨hsource, htarget⟩
  · rintro ⟨hsource, htarget⟩
    refine ⟨by simp [edgeSlots, Slot.of], ?_⟩
    refine (Slot.collect?_of_eq_some_iff none rfl).2 ⟨_, hsource, ?_⟩
    exact (Slot.collect?_of_eq_some_iff none rfl).2 ⟨_, htarget, rfl⟩

def names : List String := ["nodes", "edges"]

theorem slots_independent : Slot.Independent slots where
  nodup := by decide
  commutes := by
    simp only [slots, List.pairwise_cons, List.forall_mem_cons]
    exact ⟨⟨Slot.commutes_of fun _ _ _ => rfl, List.forall_mem_nil _⟩, List.forall_mem_nil _, .nil⟩

def listField? {α : Type} (item? : Nat → Tree → Option α) (depth : Nat) (v : Option Tree) :
    Option (List α) :=
  v.elim (some []) (Tree.items? item? depth)

/-- The records of a graph are there exactly if its two lists are. -/
theorem ofTree?_eq_some_iff {depth : Nat} {t : Tree} {g : GraphRecords} :
    ofTree? (depth + 1) t = some g ↔ t.Keyed names ∧
      listField? node? depth (t.field? names "nodes") = some g.nodes ∧
      listField? edge? depth (t.field? names "edges") = some g.edges := by
  rw [ofTree?, Slot.record?_eq_some_iff slots_independent]
  refine and_congr Iff.rfl ?_
  constructor
  · rintro ⟨-, h⟩
    obtain ⟨nodes, hnodes, h⟩ := (Slot.collect?_of_eq_some_iff [] rfl).1 h
    obtain ⟨edges, hedges, h⟩ := (Slot.collect?_of_eq_some_iff [] rfl).1 h
    obtain rfl := Option.some.inj h
    exact ⟨hnodes, hedges⟩
  · rintro ⟨hnodes, hedges⟩
    refine ⟨by simp [slots, Slot.of], ?_⟩
    refine (Slot.collect?_of_eq_some_iff [] rfl).2 ⟨_, hnodes, ?_⟩
    exact (Slot.collect?_of_eq_some_iff [] rfl).2 ⟨_, hedges, rfl⟩

def itemsOf (t : Tree) (name : String) : List Tree :=
  match t.field? names name with
  | some (.list items) => items
  | _ => []

theorem listField?_getElem? {α : Type} {item? : Nat → Tree → Option α} {depth : Nat} {t : Tree}
    {name : String} {as : List α} (h : listField? item? (depth + 1) (t.field? names name) = some as)
    {i : Nat} {a : Tree} (hi : (itemsOf t name)[i]? = some a) :
    ∃ r, as[i]? = some r ∧ item? depth a = some r := by
  unfold itemsOf at hi
  split at hi
  · next items hitems =>
    rw [hitems] at h
    exact Json.forall₂_getElem? (Tree.mapM_eq_some_iff.1 h) hi
  · exact absurd hi (by simp)

end GraphRecords

namespace Response

def envelopeNames : List String := ["ok", "data", "detail"]

theorem envelopeSlots_independent : Slot.Independent envelopeSlots where
  nodup := by decide
  commutes := by
    simp only [envelopeSlots, List.pairwise_cons, List.forall_mem_cons]
    refine ⟨⟨?_, ?_, List.forall_mem_nil _⟩, ⟨?_, List.forall_mem_nil _⟩, List.forall_mem_nil _,
      .nil⟩
    all_goals exact Slot.commutes_of fun _ _ _ => rfl

/-- An envelope is there exactly if its verdict, its data and its reason are. -/
theorem envelope?_eq_some_iff {t : Tree} {e : Envelope} :
    envelope? t = some e ↔ t.Keyed envelopeNames ∧
      t.field? envelopeNames "ok" = some (.bool e.ok) ∧
      Tree.optionalField? (GraphRecords.ofTree? (GraphRecords.maxDepth - 1))
        (t.field? envelopeNames "data") = some e.data ∧
      Tree.optionalField? (Tree.json? (GraphRecords.maxDepth - 1))
        (t.field? envelopeNames "detail") = some e.detail := by
  rw [envelope?, GraphRecords.maxDepth, Slot.record?_eq_some_iff envelopeSlots_independent]
  refine and_congr Iff.rfl ?_
  constructor
  · rintro ⟨hrequired, h⟩
    obtain ⟨ok, hok, h⟩ := (Slot.collect?_of_eq_some_iff false rfl).1 h
    obtain ⟨data, hdata, h⟩ := (Slot.collect?_of_eq_some_iff none rfl).1 h
    obtain ⟨detail, hdetail, h⟩ := (Slot.collect?_of_eq_some_iff none rfl).1 h
    obtain rfl := Option.some.inj h
    have hthere : t.field? envelopeNames "ok" ≠ none := hrequired _ List.mem_cons_self rfl
    obtain ⟨v, hv⟩ := Option.ne_none_iff_exists'.1 hthere
    have hbool : v.bool? = some ok :=
      (congrArg (Option.elim · (some false) Tree.bool?) hv).symm.trans hok
    refine ⟨?_, hdata, hdetail⟩
    cases v with
    | bool b => rw [hv, Option.some.inj hbool]
    | null | number | text | list | object => cases (show none = some ok from hbool)
  · rintro ⟨hok, hdata, hdetail⟩
    have hverdict : (t.field? envelopeNames "ok").elim (some false) Tree.bool? = some e.ok := by
      rw [hok]
      rfl
    refine ⟨?_, (Slot.collect?_of_eq_some_iff false rfl).2 ⟨e.ok, hverdict, ?_⟩⟩
    · simp only [envelopeSlots, Slot.of, List.forall_mem_cons]
      exact ⟨fun _ => hok ▸ Option.some_ne_none _, fun h => absurd h Bool.false_ne_true,
        fun h => absurd h Bool.false_ne_true, List.forall_mem_nil _⟩
    refine (Slot.collect?_of_eq_some_iff none rfl).2 ⟨_, hdata, ?_⟩
    exact (Slot.collect?_of_eq_some_iff none rfl).2 ⟨_, hdetail, rfl⟩

/-- The records of an answer are those of its data, where there are data. -/
theorem records_eq_ok_iff_of_data {r : Response} {t : Tree} (hbody : Writes t r.body) {d : Tree}
    (hdata : t.field? envelopeNames "data" = some d) (hd : d ≠ .null) {g : GraphRecords} :
    r.records = .ok g ↔ r.isSuccess = true ∧ t.Keyed envelopeNames ∧
      t.field? envelopeNames "ok" = some (.bool true) ∧
      GraphRecords.ofTree? (GraphRecords.maxDepth - 1) d = some g ∧
      ∃ detail, Tree.optionalField? (Tree.json? (GraphRecords.maxDepth - 1))
        (t.field? envelopeNames "detail") = some detail := by
  rw [records_eq_ok_iff_of_writes hbody]
  refine and_congr Iff.rfl ?_
  constructor
  · rintro ⟨e, he, hg⟩
    obtain ⟨hkeyed, hok, htree, hdetail⟩ := envelope?_eq_some_iff.1 he
    unfold Envelope.records? at hg
    split at hg
    · next htrue =>
      rw [htrue] at hok
      refine ⟨hkeyed, hok, ?_, e.detail, hdetail⟩
      cases hrecords : e.data with
      | none =>
        rw [hrecords, hdata] at htree
        have hnull := Tree.optionalField?_eq_none_iff.1 htree
        exact absurd (Option.some.inj (hnull.resolve_left (Option.some_ne_none d))) hd
      | some g' =>
        rw [hrecords] at htree hg
        obtain ⟨t', ht', -, hg'⟩ := Tree.optionalField?_eq_some_iff.1 htree
        obtain rfl := Option.some.inj (hdata.symm.trans ht')
        exact hg'.trans hg
    · exact nomatch hg
  · rintro ⟨hkeyed, hok, htree, detail, hdetail⟩
    refine ⟨⟨true, some g, detail⟩, envelope?_eq_some_iff.2 ⟨hkeyed, hok, ?_, hdetail⟩, rfl⟩
    exact Tree.optionalField?_eq_some_iff.2 ⟨d, hdata, hd, htree⟩

theorem errorDetail?_eq_some_iff {t : Tree} {detail : Option Json} :
    errorDetail? t = some detail ↔ t.Keyed ["detail"] ∧
      Tree.optionalField? (Tree.json? (GraphRecords.maxDepth - 1)) (t.field? ["detail"] "detail") =
        some detail := by
  have hslots : Slot.Independent errorSlots := ⟨List.nodup_singleton _, List.pairwise_singleton _ _⟩
  rw [errorDetail?, GraphRecords.maxDepth, Slot.record?_eq_some_iff hslots]
  refine and_congr Iff.rfl ?_
  constructor
  · rintro ⟨-, h⟩
    obtain ⟨v, hv, h⟩ := (Slot.collect?_of_eq_some_iff none rfl).1 h
    obtain rfl := Option.some.inj h
    exact hv
  · intro h
    refine ⟨by simp [errorSlots, Slot.of], ?_⟩
    exact (Slot.collect?_of_eq_some_iff none rfl).2 ⟨_, h, rfl⟩

end Response

end CodeGraph
