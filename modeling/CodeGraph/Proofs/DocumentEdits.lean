import CodeGraph.Proofs.CompactTexts
import CodeGraph.Proofs.GraphDocuments

namespace CodeGraph.Json

/-- Two members with one key, and values that `R` allows for it. -/
def EditedMember (R : String → Tree → Tree → Prop) (m m' : Quoted × Tree) : Prop :=
  m.1.text? = m'.1.text? ∧ ∀ k, m.1.text? = some k → R k m.2 m'.2

theorem EditedMember.ofString (name : String) {R : String → Tree → Tree → Prop} {v v' : Tree}
    (h : R name v v') : EditedMember R (.ofString name, v) (.ofString name, v') := by
  refine ⟨rfl, fun k hk => ?_⟩
  obtain rfl := Option.some.inj ((Quoted.text?_ofString name).symm.trans hk)
  exact h

/-- The items of two lists that give the named fields in order, with values that `R` allows. -/
inductive EditedItems (R : String → Tree → Tree → Prop) : List String → List Tree → List Tree → Prop
  | done (names : List String) : EditedItems R names [] []
  | beyond (items : List Tree) : EditedItems R [] items items
  | item {name : String} {names : List String} {t t' : Tree} {items items' : List Tree}
      (h : R name t t') (hs : EditedItems R names items items') :
      EditedItems R (name :: names) (t :: items) (t' :: items')

/-- Two trees of a record, in one form, whose fields have values that `R` allows. -/
def Edited (R : String → Tree → Tree → Prop) (names : List String) : Tree → Tree → Prop
  | .object ms, .object ms' => List.Forall₂ (EditedMember R) ms ms'
  | .list items, .list items' => EditedItems R names items items'
  | t, t' => t = t'

def EditedList (R : Tree → Tree → Prop) : Tree → Tree → Prop
  | .list items, .list items' => List.Forall₂ R items items'
  | t, t' => t = t'

variable {α β σ : Type}

theorem optionRel_bind {S : α → α → Prop} {T : β → β → Prop} {o o' : Option α}
    {f f' : α → Option β} (h : Option.Rel S o o')
    (hf : ∀ a a', S a a' → Option.Rel T (f a) (f' a')) :
    Option.Rel T (o.bind f) (o'.bind f') := by
  cases h with
  | none => exact .none
  | some h => exact hf _ _ h

theorem optionRel_map {S : α → α → Prop} {T : β → β → Prop} {o o' : Option α} {f f' : α → β}
    (h : Option.Rel S o o') (hf : ∀ a a', S a a' → T (f a) (f' a')) :
    Option.Rel T (o.map f) (o'.map f') := by
  cases h with
  | none => exact .none
  | some h => exact .some (hf _ _ h)

theorem optionRel_eq {o o' : Option α} : Option.Rel Eq o o' ↔ o = o' := by
  constructor
  · rintro (_ | _)
    · rename_i h
      rw [h]
    · rfl
  · rintro rfl
    cases o <;> constructor
    rfl

theorem optionRel_toOption {ε : Type} {S : α → α → Prop} {x y : Except ε α}
    (h : Option.Rel S x.toOption y.toOption) :
    ((∃ a, x = .ok a) ↔ ∃ b, y = .ok b) ∧ ∀ a b, x = .ok a → y = .ok b → S a b := by
  match x, y, h with
  | .error _, .error _, _ => exact ⟨⟨nofun, nofun⟩, nofun⟩
  | .ok a, .ok b, .some h =>
    refine ⟨⟨fun _ => ⟨b, rfl⟩, fun _ => ⟨a, rfl⟩⟩, ?_⟩
    rintro _ _ ⟨⟩ ⟨⟩
    exact h

namespace Slot

/-- From values that `R` allows for the field, records that `S` relates are kept so. -/
def Respects (s : Slot σ) (depth : Nat) (R : String → Tree → Tree → Prop) (S : σ → σ → Prop) :
    Prop :=
  ∀ t t', R s.name t t' → ∀ r r', S r r' → Option.Rel S (s.take? depth t r) (s.take? depth t' r')

variable {slots : List (Slot σ)} {depth : Nat} {R : String → Tree → Tree → Prop} {S : σ → σ → Prop}

theorem fill?_edited (hslots : ∀ s ∈ slots, s.Respects depth R S) {m m' : Quoted × Tree}
    (hm : EditedMember R m m') {seen : List String} {r r' : σ} (hr : S r r') :
    Option.Rel (fun p p' => p.1 = p'.1 ∧ S p.2 p'.2) (fill? slots depth (seen, r) m)
      (fill? slots depth (seen, r') m') := by
  obtain ⟨hkey, hvalue⟩ := hm
  cases hk : m.1.text? with
  | none =>
    rw [fill?_none _ _ hk, fill?_none _ _ (hkey ▸ hk)]
    exact .none
  | some k =>
    have hk' : m'.1.text? = some k := hkey ▸ hk
    cases hs : slots.find? fun s => s.name == k with
    | none =>
      rw [fill?_unknown _ _ hk hs, fill?_unknown _ _ hk' hs]
      exact .some ⟨rfl, hr⟩
    | some s =>
      rw [fill?_known _ _ hk hs, fill?_known _ _ hk' hs]
      split
      · exact .none
      · have hname : s.name = k := by simpa using List.find?_some hs
        have htake := hslots s (List.mem_of_find?_eq_some hs) _ _ (hname ▸ hvalue k hk) r r' hr
        exact optionRel_map htake fun _ _ h => ⟨rfl, h⟩

theorem foldlM_fill?_edited (hslots : ∀ s ∈ slots, s.Respects depth R S)
    {ms ms' : List (Quoted × Tree)} (hms : List.Forall₂ (EditedMember R) ms ms')
    {seen : List String} {r r' : σ} (hr : S r r') :
    Option.Rel (fun p p' => p.1 = p'.1 ∧ S p.2 p'.2) (ms.foldlM (fill? slots depth) (seen, r))
      (ms'.foldlM (fill? slots depth) (seen, r')) := by
  induction hms generalizing seen r r' with
  | nil => exact .some ⟨rfl, hr⟩
  | cons hm _ ih =>
    rw [List.foldlM_cons, List.foldlM_cons]
    refine optionRel_bind (fill?_edited hslots hm hr) ?_
    rintro ⟨seen, r⟩ ⟨_, r'⟩ ⟨rfl, hr⟩
    exact ih hr

theorem ofItems?_edited (hslots : ∀ s ∈ slots, s.Respects depth R S)
    {items items' : List Tree} (h : EditedItems R (slots.map Slot.name) items items') {r r' : σ}
    (hr : S r r') :
    Option.Rel S (ofItems? depth slots items r) (ofItems? depth slots items' r') := by
  induction slots generalizing items items' r r' with
  | nil =>
    cases h with
    | done => exact .some hr
    | beyond items =>
      cases items with
      | nil => exact .some hr
      | cons t items => exact .none
  | cons s slots ih =>
    have hrest := fun s hs => hslots s (List.mem_cons_of_mem _ hs)
    cases h with
    | done =>
      unfold ofItems?
      split
      · exact .none
      · exact ih hrest (.done _) hr
    | item ht hitems =>
      exact optionRel_bind (hslots s List.mem_cons_self _ _ ht r r' hr)
        fun _ _ h => ih hrest hitems h

/-- Alike trees give alike records. -/
theorem record?_edited (hslots : ∀ s ∈ slots, s.Respects depth R S) {blank : σ}
    (hblank : S blank blank) {t t' : Tree} (h : Edited R (slots.map Slot.name) t t') :
    Option.Rel S (record? slots blank (depth + 1) t) (record? slots blank (depth + 1) t') := by
  match t, t', h with
  | .object ms, .object ms', h =>
    refine optionRel_bind (foldlM_fill?_edited hslots h hblank) ?_
    rintro ⟨seen, r⟩ ⟨_, r'⟩ ⟨rfl, hr⟩
    dsimp only
    split
    · exact .some hr
    · exact .none
  | .list items, .list items', h => exact ofItems?_edited hslots h hblank
  | .null, _, rfl | .bool _, _, rfl | .number _, _, rfl | .text _, _, rfl => exact .none

theorem respects_of {name : String} {required : Bool} {value? : Nat → Tree → Option α}
    {set : σ → α → σ} {V : α → α → Prop}
    (hvalue : ∀ t t', R name t t' → Option.Rel V (value? depth t) (value? depth t'))
    (hset : ∀ r r' v v', S r r' → V v v' → S (set r v) (set r' v')) :
    (Slot.of name required value? set).Respects depth R S :=
  fun t t' ht r r' hr => optionRel_map (hvalue t t' ht) fun v v' hv => hset r r' v v' hr hv

theorem respects_eq_of {name : String} {required : Bool} {value? : Nat → Tree → Option α}
    {set : σ → α → σ}
    (hvalue : ∀ t t', R name t t' → value? depth t = value? depth t') :
    (Slot.of name required value? set).Respects depth R Eq := by
  refine respects_of (V := Eq) (fun t t' h => optionRel_eq.2 (hvalue t t' h)) ?_
  rintro r _ v _ rfl rfl
  rfl

theorem respects_of_same {name : String} {required : Bool} {value? : Nat → Tree → Option α}
    {set : σ → α → σ} (hname : R name = Eq) (hset : ∀ r r' v, S r r' → S (set r v) (set r' v)) :
    (Slot.of name required value? set).Respects depth R S := by
  refine respects_of (V := Eq) (fun t t' ht => ?_) fun r r' v _ hr hv => hv ▸ hset r r' v hr
  rw [hname] at ht
  rw [ht]
  exact optionRel_eq.2 rfl

end Slot

theorem mapM_edited {f : Tree → Option α} {S : α → α → Prop} {R : Tree → Tree → Prop}
    (hf : ∀ t t', R t t' → Option.Rel S (f t) (f t')) {items items' : List Tree}
    (h : List.Forall₂ R items items') :
    Option.Rel (List.Forall₂ S) (items.mapM f) (items'.mapM f) := by
  induction h with
  | nil => exact .some .nil
  | cons ht _ ih =>
    rw [Reader.mapM_cons_eq, Reader.mapM_cons_eq]
    exact optionRel_bind (hf _ _ ht) fun a a' ha => optionRel_map ih fun _ _ has => .cons ha has

theorem Tree.items?_edited {f : Nat → Tree → Option α} {depth : Nat} {S : α → α → Prop}
    {R : Tree → Tree → Prop} (hf : ∀ t t', R t t' → Option.Rel S (f depth t) (f depth t'))
    {t t' : Tree} (h : EditedList R t t') :
    Option.Rel (List.Forall₂ S) (t.items? f (depth + 1)) (t'.items? f (depth + 1)) := by
  match t, t', h with
  | .list items, .list items', h => exact mapM_edited hf h
  | .null, _, rfl | .bool _, _, rfl | .number _, _, rfl | .text _, _, rfl | .object _, _, rfl =>
    exact .none

theorem Tree.items?_eq_of_edited {f : Nat → Tree → Option α} {depth : Nat} {R : Tree → Tree → Prop}
    (hf : ∀ t t', R t t' → f depth t = f depth t') {t t' : Tree} (h : EditedList R t t') :
    t.items? f (depth + 1) = t'.items? f (depth + 1) := by
  have hrel := items?_edited (fun t t' ht => optionRel_eq.2 (hf t t' ht)) h
  rw [List.forall₂_eq_eq_eq] at hrel
  exact optionRel_eq.1 hrel

theorem Edited.eq_null_iff {R : String → Tree → Tree → Prop} {names : List String} {t t' : Tree}
    (h : Edited R names t t') : t = .null ↔ t' = .null := by
  match t, t', h with
  | .object _, .object _, _ | .list _, .list _, _ => exact ⟨nofun, nofun⟩
  | .null, _, rfl | .bool _, _, rfl | .number _, _, rfl | .text _, _, rfl => exact Iff.rfl

theorem Tree.optional?_edited {f : Tree → Option α} {R : String → Tree → Tree → Prop}
    {names : List String} {S : α → α → Prop} {t t' : Tree} (h : Edited R names t t')
    (hf : Option.Rel S (f t) (f t')) :
    Option.Rel (Option.Rel S) (optional? f t) (optional? f t') := by
  by_cases ht : t = .null
  · rw [ht, h.eq_null_iff.1 ht]
    exact .some .none
  · rw [optional?_of_ne_null ht, optional?_of_ne_null (mt h.eq_null_iff.2 ht)]
    exact optionRel_map hf fun _ _ h => .some h

end CodeGraph.Json
