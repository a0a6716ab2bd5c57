import CodeGraph.Proofs.DocumentEdits
import CodeGraph.Proofs.RecordFields
import CodeGraph.Proofs.ResponseOutcome

namespace CodeGraph

open Json (Edited EditedList EditedMember Literal Quoted Tree Writes member?)

namespace Json

/-- No two members have one key. -/
def DistinctKeys (ms : List (Quoted × Tree)) : Prop := (ms.map fun m => m.1.text?).Nodup

instance (ms : List (Quoted × Tree)) : Decidable (DistinctKeys ms) :=
  inferInstanceAs (Decidable (List.Nodup _))

variable {ms ms' : List (Quoted × Tree)} {name : String} {depth : Nat}

theorem mem_of_member? {v : Tree} (h : member? ms name = some v) :
    ∃ q, (q, v) ∈ ms ∧ q.text? = some name := by
  obtain ⟨⟨q, v'⟩, hfind, rfl⟩ := Option.map_eq_some_iff.1 h
  exact ⟨q, List.mem_of_find?_eq_some hfind, by simpa using List.find?_some hfind⟩

/-- With distinct keys, a look-up finds what is there. -/
theorem DistinctKeys.member?_eq_some_iff (h : DistinctKeys ms) {v : Tree} :
    member? ms name = some v ↔ ∃ q, (q, v) ∈ ms ∧ q.text? = some name := by
  refine ⟨mem_of_member?, ?_⟩
  rintro ⟨q, hmem, hq⟩
  induction ms with
  | nil => exact absurd hmem List.not_mem_nil
  | cons m ms ih =>
    obtain ⟨hfresh, hdistinct⟩ := List.nodup_cons.1 h
    rcases List.mem_cons.1 hmem with rfl | hmem
    · exact member?_cons_of_eq hq
    · rw [member?_cons_of_ne]
      · exact ih hdistinct hmem
      · intro heq
        exact hfresh (List.mem_map.2 ⟨_, hmem, hq.trans heq.symm⟩)

theorem DistinctKeys.member?_perm (h : DistinctKeys ms) (hperm : ms.Perm ms') :
    member? ms name = member? ms' name := by
  have h' : DistinctKeys ms' := (hperm.map _).nodup_iff.1 h
  ext v
  simp only [h.member?_eq_some_iff, h'.member?_eq_some_iff, hperm.mem_iff]

theorem member?_append_of_unknown {extra : List (Quoted × Tree)}
    (h : ∀ m ∈ extra, m.1.text? ≠ some name) : member? (ms ++ extra) name = member? ms name := by
  induction ms with
  | nil => exact member?_eq_none_iff.2 h
  | cons m ms ih =>
    rw [List.cons_append]
    by_cases hm : m.1.text? = some name
    · rw [member?_cons_of_eq hm, member?_cons_of_eq hm]
    · rw [member?_cons_of_ne hm, member?_cons_of_ne hm, ih]

theorem member?_edited {R : String → Tree → Tree → Prop}
    (h : List.Forall₂ (EditedMember R) ms ms') :
    Option.Rel (R name) (member? ms name) (member? ms' name) := by
  induction h with
  | nil => exact .none
  | @cons m m' ms ms' hm _ ih =>
    by_cases hname : m.1.text? = some name
    · rw [member?_cons_of_eq hname, member?_cons_of_eq (hm.1 ▸ hname)]
      exact .some (hm.2 name hname)
    · rw [member?_cons_of_ne hname, member?_cons_of_ne (hm.1 ▸ hname)]
      exact ih

/-- The members stand in another order, beside others that are not known, with values that `R`
allows. -/
def Rearranged (names : List String) (R : String → Tree → Tree → Prop)
    (ms ms' : List (Quoted × Tree)) : Prop :=
  ∃ kept extra, List.Forall₂ (EditedMember R) ms kept ∧ ms'.Perm (kept ++ extra) ∧
    ∀ m ∈ extra, ∀ k ∈ names, m.1.text? ≠ some k

theorem Rearranged.member? {names : List String} {R : String → Tree → Tree → Prop}
    (h : Rearranged names R ms ms') (hdistinct : DistinctKeys ms') (name : String)
    (hname : name ∈ names) :
    Option.Rel (R name) (member? ms name) (member? ms' name) := by
  obtain ⟨kept, extra, hkept, hperm, hextra⟩ := h
  rw [hdistinct.member?_perm hperm, member?_append_of_unknown fun m hm => hextra m hm name hname]
  exact member?_edited hkept

theorem readable_of_foldlM_addMember? {f : Tree → Option Json} {read : List (String × Json)}
    (h : (ms.foldlM (Tree.addMember? f) read).isSome = true) :
    ∀ m ∈ ms, m.1.text? ≠ none ∧ (f m.2).isSome = true := by
  induction ms generalizing read with
  | nil => exact List.forall_mem_nil _
  | cons m ms ih =>
    rw [List.foldlM_cons] at h
    obtain ⟨j, hj⟩ := Option.isSome_iff_exists.1 h
    obtain ⟨read', hadd, hrest⟩ := Option.bind_eq_some_iff.1 hj
    obtain ⟨k, hk, hadd⟩ := Option.bind_eq_some_iff.1 hadd
    obtain ⟨v, hv, -⟩ := Option.bind_eq_some_iff.1 hadd
    refine List.forall_mem_cons.2 ⟨⟨?_, ?_⟩, ih (Option.isSome_of_eq_some hrest)⟩
    · rw [hk]
      exact Option.some_ne_none k
    · exact Option.isSome_of_eq_some hv

theorem Tree.Readable.text? {q : Quoted} (h : (Tree.text q).Readable depth) :
    ∃ s, q.text? = some s := by
  obtain ⟨j, hj⟩ := Option.isSome_iff_exists.1 h
  cases depth with
  | zero | succ =>
    obtain ⟨s, hs, -⟩ := Option.map_eq_some_iff.1 hj
    exact ⟨s, hs⟩

theorem Tree.Readable.members (h : (Tree.object ms).Readable (depth + 1)) :
    ∀ m ∈ ms, m.1.text? ≠ none ∧ m.2.Readable depth := by
  rw [Readable, json?, valueWith?, Option.isSome_map] at h
  exact readable_of_foldlM_addMember? h

theorem Tree.Readable.member? (h : (Tree.object ms).Readable (depth + 1)) {v : Tree}
    (hv : member? ms name = some v) : v.Readable depth := by
  obtain ⟨q, hmem, -⟩ := mem_of_member? hv
  exact (h.members _ hmem).2

theorem Tree.Readable.items {items : List Tree} (h : (Tree.list items).Readable (depth + 1)) :
    ∀ t ∈ items, t.Readable depth := by
  obtain ⟨j, hj⟩ := Option.isSome_iff_exists.1 h
  obtain ⟨js, hjs, -⟩ := Option.map_eq_some_iff.1 hj
  intro t ht
  obtain ⟨i, hi⟩ := List.mem_iff_getElem?.1 ht
  obtain ⟨j', -, hj'⟩ := forall₂_getElem? (mapM_eq_some_iff.1 hjs) hi
  exact Option.isSome_of_eq_some hj'

theorem DistinctKeys.keyed (h : DistinctKeys ms) (hread : (Tree.object ms).Readable (depth + 1))
    (names : List String) : Tree.Keyed names (.object ms) := by
  refine ⟨fun m hm => (hread.members m hm).1, ?_⟩
  refine (List.pairwise_map.1 h).imp fun hne k _ hboth => ?_
  exact hne (hboth.1.trans hboth.2.symm)

end Json

namespace GraphRecords

/-- The value of a field that may be missing or null. -/
inductive FieldOf {α : Type} (V : Tree → α → Prop) : Option Tree → Option α → Prop
  | missing : FieldOf V none none
  | null : FieldOf V (some .null) none
  | value {t : Tree} {a : α} (h : V t a) : FieldOf V (some t) (some a)

/-- The field is missing or null, or it has a value of the wanted form. -/
def IsField (P : Tree → Prop) (v : Option Tree) : Prop := ∀ t, v = some t → t = .null ∨ P t

inductive TextIs : Tree → String → Prop
  | text {q : Quoted} {s : String} (h : q.text? = some s) : TextIs (.text q) s

inductive IsText : Tree → Prop
  | text (q : Quoted) : IsText (.text q)

/-- An id is a text, or a whole number of sixty-four bits by its digits. -/
inductive IdIs : Tree → NodeId → Prop
  | text {q : Quoted} {s : String} (h : q.text? = some s) : IdIs (.text q) ⟨s⟩
  | integer {l : Literal} {n : Int} (hl : l.chars = (toString n).toList) (hn : IsWord n) :
      IdIs (.number l) ⟨toString n⟩

inductive IsId : Tree → Prop
  | text (q : Quoted) : IsId (.text q)
  | integer {l : Literal} {n : Int} (hl : l.chars = (toString n).toList) (hn : IsWord n) :
      IsId (.number l)

inductive LineIs : Tree → Nat → Prop
  | integer {l : Literal} {n : Nat} (hl : l.chars = (toString n).toList) (hn : n < 0x100000000) :
      LineIs (.number l) n

inductive IsLine : Tree → Prop
  | integer {l : Literal} {n : Nat} (hl : l.chars = (toString n).toList) (hn : n < 0x100000000) :
      IsLine (.number l)

/-- A kind is what its value is read as. -/
inductive KindIs : Option Tree → NodeKind → Prop
  | missing : KindIs none .unknown
  | value {t : Tree} {j : Json} (h : t.json? (maxDepth - 4) = some j) :
      KindIs (some t) (kindOfJson j)

theorem optionalField?_eq_some_iff_fieldOf {α : Type} {f : Tree → Option α} {V : Tree → α → Prop}
    (hf : ∀ t a, f t = some a ↔ V t a) (hnull : ∀ a, ¬V .null a) {v : Option Tree} {o : Option α} :
    Tree.optionalField? f v = some o ↔ FieldOf V v o := by
  cases o with
  | none =>
    rw [Tree.optionalField?_eq_none_iff]
    constructor
    · rintro (rfl | rfl)
      · exact .missing
      · exact .null
    · rintro (_ | _)
      · exact .inl rfl
      · exact .inr rfl
  | some a =>
    rw [Tree.optionalField?_eq_some_iff]
    constructor
    · rintro ⟨t, rfl, -, ht⟩
      exact .value ((hf t a).1 ht)
    · intro h
      cases h with
      | @value t _ ht =>
        refine ⟨t, rfl, ?_, (hf t a).2 ht⟩
        rintro rfl
        exact hnull a ht

theorem exists_fieldOf_iff {α : Type} {V : Tree → α → Prop} {P : Tree → Prop} {v : Option Tree}
    (h : ∀ t, v = some t → ((∃ a, V t a) ↔ P t)) : (∃ o, FieldOf V v o) ↔ IsField P v := by
  constructor
  · rintro ⟨o, ho⟩ t rfl
    cases ho with
    | null => exact .inl rfl
    | value ht => exact .inr ((h t rfl).1 ⟨_, ht⟩)
  · intro hv
    cases v with
    | none => exact ⟨none, .missing⟩
    | some t =>
      rcases hv t rfl with rfl | ht
      · exact ⟨none, .null⟩
      · obtain ⟨a, ha⟩ := (h t rfl).2 ht
        exact ⟨some a, .value ha⟩

theorem text?_iff_textIs (t : Tree) (s : String) : t.text? = some s ↔ TextIs t s := by
  rw [Tree.text?_eq_some_iff]
  constructor
  · rintro ⟨q, rfl, h⟩
    exact .text h
  · rintro ⟨h⟩
    exact ⟨_, rfl, h⟩

theorem id?_iff_idIs (depth : Nat) (t : Tree) (id : NodeId) :
    id? depth t = some id ↔ IdIs t id := by
  rw [id?_eq_some_iff]
  constructor
  · rintro (⟨q, rfl, h⟩ | ⟨l, n, rfl, hl, hn, rfl⟩)
    · exact .text h
    · exact .integer hl hn
  · rintro (h | ⟨hl, hn⟩)
    · exact .inl ⟨_, rfl, h⟩
    · exact .inr ⟨_, _, rfl, hl, hn, rfl⟩

theorem line?_iff_lineIs (t : Tree) (n : Nat) : t.line? = some n ↔ LineIs t n := by
  rw [Tree.line?_eq_some_iff]
  constructor
  · rintro ⟨l, rfl, hl, hn⟩
    exact .integer hl hn
  · rintro ⟨hl, hn⟩
    exact ⟨_, rfl, hl, hn⟩

theorem kindField?_iff_kindIs {v : Option Tree} {k : NodeKind} :
    kindField? (maxDepth - 4) v = some k ↔ KindIs v k := by
  unfold kindField?
  rw [Option.map_eq_some_iff]
  constructor
  · rintro ⟨j, hj, rfl⟩
    cases v with
    | none =>
      obtain rfl := Option.some.inj hj
      exact .missing
    | some t => exact .value hj
  · rintro (_ | h)
    · exact ⟨.null, rfl, rfl⟩
    · exact ⟨_, h, rfl⟩

open Json (DistinctKeys Rearranged)

/-- The members of an object carry the fields of that node. -/
structure NodeOf (ms : List (Quoted × Tree)) (r : NodeRecord) : Prop where
  id : FieldOf IdIs (member? ms "id") r.id
  label : FieldOf TextIs (member? ms "label") r.label
  fqname : FieldOf TextIs (member? ms "fqname") r.fqname
  kind : KindIs (member? ms "type") r.kind
  file : FieldOf TextIs (member? ms "file") r.file
  line : FieldOf LineIs (member? ms "lineno") r.line

structure EdgeOf (ms : List (Quoted × Tree)) (r : EdgeRecord) : Prop where
  source : FieldOf IdIs (member? ms "source") r.source
  target : FieldOf IdIs (member? ms "target") r.target

structure IsNode (ms : List (Quoted × Tree)) : Prop where
  id : IsField IsId (member? ms "id")
  label : IsField IsText (member? ms "label")
  fqname : IsField IsText (member? ms "fqname")
  file : IsField IsText (member? ms "file")
  line : IsField IsLine (member? ms "lineno")

structure IsEdge (ms : List (Quoted × Tree)) : Prop where
  source : IsField IsId (member? ms "source")
  target : IsField IsId (member? ms "target")

variable {ms : List (Quoted × Tree)}

theorem node?_iff_nodeOf (hms : DistinctKeys ms) (hread : (Tree.object ms).Readable (maxDepth - 3))
    (r : NodeRecord) : node? (maxDepth - 3) (.object ms) = some r ↔ NodeOf ms r := by
  have htext {v : Option Tree} {o : Option String} :=
    @optionalField?_eq_some_iff_fieldOf _ _ _ text?_iff_textIs (fun _ h => nomatch h) v o
  have hid {v : Option Tree} {o : Option NodeId} :=
    @optionalField?_eq_some_iff_fieldOf _ _ _ (id?_iff_idIs (maxDepth - 4))
      (fun _ h => nomatch h) v o
  have hline {v : Option Tree} {o : Option Nat} :=
    @optionalField?_eq_some_iff_fieldOf _ _ _ line?_iff_lineIs (fun _ h => nomatch h) v o
  refine node?_eq_some_iff.trans ?_
  constructor
  · rintro ⟨-, h₁, h₂, h₃, h₄, h₅, h₆⟩
    exact ⟨hid.1 h₁, htext.1 h₂, htext.1 h₃, kindField?_iff_kindIs.1 h₄, htext.1 h₅, hline.1 h₆⟩
  · intro h
    exact ⟨hms.keyed hread nodeNames, hid.2 h.id, htext.2 h.label, htext.2 h.fqname,
      kindField?_iff_kindIs.2 h.kind, htext.2 h.file, hline.2 h.line⟩

theorem edge?_iff_edgeOf (hms : DistinctKeys ms) (hread : (Tree.object ms).Readable (maxDepth - 3))
    (r : EdgeRecord) : edge? (maxDepth - 3) (.object ms) = some r ↔ EdgeOf ms r := by
  have hid {v : Option Tree} {o : Option NodeId} :=
    @optionalField?_eq_some_iff_fieldOf _ _ _ (id?_iff_idIs (maxDepth - 4))
      (fun _ h => nomatch h) v o
  refine edge?_eq_some_iff.trans ?_
  constructor
  · rintro ⟨-, h₁, h₂⟩
    exact ⟨hid.1 h₁, hid.1 h₂⟩
  · intro h
    exact ⟨hms.keyed hread edgeNames, hid.2 h.source, hid.2 h.target⟩

theorem exists_textIs_iff {t : Tree} {depth : Nat} (ht : t.Readable depth) :
    (∃ s, TextIs t s) ↔ IsText t := by
  constructor
  · rintro ⟨s, ⟨h⟩⟩
    exact .text _
  · rintro ⟨q⟩
    obtain ⟨s, hs⟩ := ht.text?
    exact ⟨s, .text hs⟩

theorem exists_idIs_iff {t : Tree} {depth : Nat} (ht : t.Readable depth) :
    (∃ id, IdIs t id) ↔ IsId t := by
  constructor
  · rintro ⟨_, h | ⟨hl, hn⟩⟩
    · exact .text _
    · exact .integer hl hn
  · rintro (q | ⟨hl, hn⟩)
    · obtain ⟨s, hs⟩ := ht.text?
      exact ⟨⟨s⟩, .text hs⟩
    · exact ⟨_, .integer hl hn⟩

theorem exists_lineIs_iff {t : Tree} : (∃ n, LineIs t n) ↔ IsLine t := by
  constructor
  · rintro ⟨_, ⟨hl, hn⟩⟩
    exact .integer hl hn
  · rintro ⟨hl, hn⟩
    exact ⟨_, .integer hl hn⟩

theorem exists_nodeOf_iff (hread : (Tree.object ms).Readable (maxDepth - 3)) :
    (∃ r, NodeOf ms r) ↔ IsNode ms := by
  have htext (name : String) := @exists_fieldOf_iff _ _ _ (member? ms name)
    fun t ht => exists_textIs_iff (hread.member? ht)
  have hid := @exists_fieldOf_iff _ _ _ (member? ms "id")
    fun t ht => exists_idIs_iff (hread.member? ht)
  have hline := @exists_fieldOf_iff _ _ _ (member? ms "lineno")
    fun t _ => exists_lineIs_iff (t := t)
  constructor
  · rintro ⟨r, h⟩
    exact ⟨hid.1 ⟨_, h.id⟩, (htext _).1 ⟨_, h.label⟩, (htext _).1 ⟨_, h.fqname⟩,
      (htext _).1 ⟨_, h.file⟩, hline.1 ⟨_, h.line⟩⟩
  · intro h
    obtain ⟨id, hid⟩ := hid.2 h.id
    obtain ⟨label, hlabel⟩ := (htext _).2 h.label
    obtain ⟨fqname, hfqname⟩ := (htext _).2 h.fqname
    obtain ⟨file, hfile⟩ := (htext _).2 h.file
    obtain ⟨line, hline⟩ := hline.2 h.line
    obtain ⟨kind, hkind⟩ : ∃ k, KindIs (member? ms "type") k := by
      cases hv : member? ms "type" with
      | none => exact ⟨.unknown, .missing⟩
      | some t =>
        obtain ⟨j, hj⟩ := Option.isSome_iff_exists.1 (hread.member? hv)
        exact ⟨kindOfJson j, .value hj⟩
    exact ⟨⟨id, label, fqname, kind, file, line⟩, hid, hlabel, hfqname, hkind, hfile, hline⟩

theorem exists_edgeOf_iff (hread : (Tree.object ms).Readable (maxDepth - 3)) :
    (∃ r, EdgeOf ms r) ↔ IsEdge ms := by
  have hid (name : String) := @exists_fieldOf_iff _ _ _ (member? ms name)
    fun t ht => exists_idIs_iff (hread.member? ht)
  constructor
  · rintro ⟨r, h⟩
    exact ⟨(hid _).1 ⟨_, h.source⟩, (hid _).1 ⟨_, h.target⟩⟩
  · intro h
    obtain ⟨source, hsource⟩ := (hid _).2 h.source
    obtain ⟨target, htarget⟩ := (hid _).2 h.target
    exact ⟨⟨source, target⟩, hsource, htarget⟩

/-- One record for each element of a list, in order. A missing list has none. -/
inductive ListOf {α : Type} (R : List (Quoted × Tree) → α → Prop) : Option Tree → List α → Prop
  | missing : ListOf R none []
  | list {items : List Tree} {as : List α}
      (h : List.Forall₂ (fun t a => ∃ ms, t = .object ms ∧ R ms a) items as) :
      ListOf R (some (.list items)) as

/-- The field is missing or a list, with elements of the wanted form. -/
def IsListOf (P : List (Quoted × Tree) → Prop) (v : Option Tree) : Prop :=
  ∀ t, v = some t → ∃ items, t = .list items ∧ ∀ ms, .object ms ∈ items → P ms

/-- If the field is a list, its elements are objects that repeat no key. -/
def HoldsObjects (v : Option Tree) : Prop :=
  ∀ items, v = some (.list items) → ∀ t ∈ items, ∃ ms, t = .object ms ∧ DistinctKeys ms

variable {α : Type} {R : List (Quoted × Tree) → α → Prop} {v : Option Tree}

theorem exists_object_iff {P : List (Quoted × Tree) → Prop} {ms : List (Quoted × Tree)} :
    (∃ ms', Tree.object ms = .object ms' ∧ P ms') ↔ P ms := by
  simp only [Tree.object.injEq, exists_eq_left']

theorem listOf_list_iff {items : List Tree} {as : List α} : ListOf R (some (.list items)) as ↔
    List.Forall₂ (fun t a => ∃ ms, t = .object ms ∧ R ms a) items as := by
  constructor
  · intro h
    cases h with
    | list h => exact h
  · exact .list

theorem forall₂_congr_of_mem {Q Q' : Tree → α → Prop} {items : List Tree} {as : List α}
    (h : ∀ t ∈ items, ∀ a, Q t a ↔ Q' t a) :
    List.Forall₂ Q items as ↔ List.Forall₂ Q' items as := by
  induction items generalizing as with
  | nil => simp
  | cons t items ih =>
    obtain ⟨ht, hrest⟩ := List.forall_mem_cons.1 h
    simp only [List.forall₂_cons_left_iff, ht, ih hrest]

theorem exists_forall₂_iff {Q : Tree → α → Prop} {items : List Tree} :
    (∃ as, List.Forall₂ Q items as) ↔ ∀ t ∈ items, ∃ a, Q t a := by
  induction items with
  | nil => simp
  | cons t items ih =>
    rw [List.forall_mem_cons, ← ih]
    constructor
    · rintro ⟨as, has⟩
      obtain ⟨a, as', ha, hrest, rfl⟩ := List.forall₂_cons_left_iff.1 has
      exact ⟨⟨a, ha⟩, as', hrest⟩
    · rintro ⟨⟨a, ha⟩, as, has⟩
      exact ⟨a :: as, .cons ha has⟩

theorem listField?_iff_listOf {item? : Nat → Tree → Option α} (hv : HoldsObjects v)
    (hread : ∀ t, v = some t → t.Readable (maxDepth - 2))
    (hitem : ∀ ms, DistinctKeys ms → (Tree.object ms).Readable (maxDepth - 3) → ∀ a,
      item? (maxDepth - 3) (.object ms) = some a ↔ R ms a) {as : List α} :
    listField? item? (maxDepth - 2) v = some as ↔ ListOf R v as := by
  cases v with
  | none =>
    constructor
    · intro h
      obtain rfl := Option.some.inj h
      exact .missing
    · rintro ⟨⟩
      rfl
  | some t =>
    cases t with
    | list items =>
      have heach : ∀ t ∈ items, ∀ a,
          item? (maxDepth - 3) t = some a ↔ ∃ ms, t = .object ms ∧ R ms a := by
        intro t ht a
        obtain ⟨ms, rfl, hms⟩ := hv items rfl t ht
        rw [hitem ms hms ((hread _ rfl).items _ ht), exists_object_iff]
      have hmapM : listField? item? (maxDepth - 2) (some (.list items)) =
          items.mapM (item? (maxDepth - 3)) := rfl
      rw [hmapM, Tree.mapM_eq_some_iff, forall₂_congr_of_mem heach, listOf_list_iff]
    | null | bool | number | text | object =>
      constructor
      · exact fun h => nomatch (show none = some as from h)
      · nofun

theorem exists_listOf_iff {P : List (Quoted × Tree) → Prop} (hv : HoldsObjects v)
    (hread : ∀ t, v = some t → t.Readable (maxDepth - 2))
    (hitem : ∀ ms, (Tree.object ms).Readable (maxDepth - 3) → ((∃ a, R ms a) ↔ P ms)) :
    (∃ as, ListOf R v as) ↔ IsListOf P v := by
  have hlist (items : List Tree) (h : v = some (.list items)) :
      (∃ as, List.Forall₂ (fun t a => ∃ ms, t = .object ms ∧ R ms a) items as) ↔
        ∀ ms, .object ms ∈ items → P ms := by
    have hreadable (ms : List (Quoted × Tree)) (hmem : .object ms ∈ items) :=
      (hread _ h).items _ hmem
    rw [exists_forall₂_iff]
    constructor
    · intro hall ms hmem
      obtain ⟨a, ha⟩ := hall _ hmem
      exact (hitem ms (hreadable ms hmem)).1 ⟨a, exists_object_iff.1 ha⟩
    · intro hall t ht
      obtain ⟨ms, rfl, -⟩ := hv items h t ht
      obtain ⟨a, ha⟩ := (hitem ms (hreadable ms ht)).2 (hall ms ht)
      exact ⟨a, ms, rfl, ha⟩
  constructor
  · rintro ⟨as, has⟩ t rfl
    cases has with
    | @list items _ h => exact ⟨items, rfl, (hlist items rfl).1 ⟨as, h⟩⟩
  · intro hP
    cases v with
    | none => exact ⟨[], .missing⟩
    | some t =>
      obtain ⟨items, rfl, hitems⟩ := hP t rfl
      obtain ⟨as, has⟩ := (hlist items rfl).2 hitems
      exact ⟨as, .list has⟩

/-- A body with a good verdict and data, in which no object of a record repeats a key. -/
structure IsAnswer (members data : List (Quoted × Tree)) : Prop where
  readable : (Tree.object members).Readable maxDepth
  distinct : DistinctKeys members
  verdict : member? members "ok" = some (.bool true)
  payload : member? members "data" = some (.object data)
  distinctData : DistinctKeys data
  nodes : HoldsObjects (member? data "nodes")
  edges : HoldsObjects (member? data "edges")

structure DataOf (data : List (Quoted × Tree)) (g : GraphRecords) : Prop where
  nodes : ListOf NodeOf (member? data "nodes") g.nodes
  edges : ListOf EdgeOf (member? data "edges") g.edges

/-- The data have the form of records. -/
structure IsData (data : List (Quoted × Tree)) : Prop where
  nodes : IsListOf IsNode (member? data "nodes")
  edges : IsListOf IsEdge (member? data "edges")

variable {members data : List (Quoted × Tree)}

theorem IsAnswer.readable_data (h : IsAnswer members data) :
    (Tree.object data).Readable (maxDepth - 1) :=
  h.readable.member? h.payload

theorem IsAnswer.readable_list (h : IsAnswer members data) (name : String) :
    ∀ t, member? data name = some t → t.Readable (maxDepth - 2) :=
  fun _ ht => h.readable_data.member? ht

theorem ofTree?_iff_dataOf (h : IsAnswer members data) (g : GraphRecords) :
    ofTree? (maxDepth - 1) (.object data) = some g ↔ DataOf data g := by
  have hnodes := @listField?_iff_listOf _ _ _ _ h.nodes (h.readable_list _)
    (fun _ => node?_iff_nodeOf) g.nodes
  have hedges := @listField?_iff_listOf _ _ _ _ h.edges (h.readable_list _)
    (fun _ => edge?_iff_edgeOf) g.edges
  refine ofTree?_eq_some_iff.trans ?_
  constructor
  · rintro ⟨-, hn, he⟩
    exact ⟨hnodes.1 hn, hedges.1 he⟩
  · intro hdata
    exact ⟨h.distinctData.keyed h.readable_data names, hnodes.2 hdata.nodes, hedges.2 hdata.edges⟩

theorem exists_dataOf_iff (h : IsAnswer members data) : (∃ g, DataOf data g) ↔ IsData data := by
  have hnodes := exists_listOf_iff h.nodes (h.readable_list _) fun _ => exists_nodeOf_iff
  have hedges := exists_listOf_iff h.edges (h.readable_list _) fun _ => exists_edgeOf_iff
  constructor
  · rintro ⟨g, hg⟩
    exact ⟨hnodes.1 ⟨_, hg.nodes⟩, hedges.1 ⟨_, hg.edges⟩⟩
  · intro hdata
    obtain ⟨nodes, hn⟩ := hnodes.2 hdata.nodes
    obtain ⟨edges, he⟩ := hedges.2 hdata.edges
    exact ⟨⟨nodes, edges⟩, hn, he⟩

def RearrangedObject (names : List String) (R : String → Tree → Tree → Prop) (t t' : Tree) : Prop :=
  ∃ ms ms', t = .object ms ∧ t' = .object ms' ∧ Rearranged names R ms ms'

/-- Two objects of data in which members are rearranged, also those of nodes and edges. -/
def RearrangedData : Tree → Tree → Prop :=
  RearrangedObject names fun name =>
    if name = "nodes" then EditedList (RearrangedObject nodeNames fun _ => Eq)
    else if name = "edges" then EditedList (RearrangedObject edgeNames fun _ => Eq)
    else Eq

/-- Two bodies in which members are rearranged, also those of the data. -/
def RearrangedAnswer : List (Quoted × Tree) → List (Quoted × Tree) → Prop :=
  Rearranged Response.envelopeNames fun name => if name = "data" then RearrangedData else Eq

variable {ms' : List (Quoted × Tree)}

theorem member?_eq_of_rearranged {fields : List String}
    (h : Rearranged fields (fun _ => Eq) ms ms') (hms' : DistinctKeys ms') :
    ∀ name ∈ fields, member? ms name = member? ms' name :=
  fun name hname => Json.optionRel_eq.1 (h.member? hms' name hname)

theorem NodeOf.congr {r : NodeRecord} (h : NodeOf ms r)
    (heq : ∀ name ∈ nodeNames, member? ms name = member? ms' name) : NodeOf ms' r := by
  simp only [nodeNames, List.forall_mem_cons] at heq
  obtain ⟨hid, hlabel, hfqname, hkind, hfile, hline, -⟩ := heq
  exact ⟨hid ▸ h.id, hlabel ▸ h.label, hfqname ▸ h.fqname, hkind ▸ h.kind, hfile ▸ h.file,
    hline ▸ h.line⟩

theorem EdgeOf.congr {r : EdgeRecord} (h : EdgeOf ms r)
    (heq : ∀ name ∈ edgeNames, member? ms name = member? ms' name) : EdgeOf ms' r := by
  simp only [edgeNames, List.forall_mem_cons] at heq
  obtain ⟨hsource, htarget, -⟩ := heq
  exact ⟨hsource ▸ h.source, htarget ▸ h.target⟩

/-- A relation that looks at the named members alone relates rearranged elements to the same
records. -/
theorem forall₂_rearranged {fields : List String} {items items' : List Tree}
    (h : List.Forall₂ (RearrangedObject fields fun _ => Eq) items items')
    (h' : ∀ t ∈ items', ∃ ms, t = .object ms ∧ DistinctKeys ms)
    (hR : ∀ {ms ms' a}, R ms a → (∀ name ∈ fields, member? ms name = member? ms' name) → R ms' a)
    (as : List α) : List.Forall₂ (fun t a => ∃ ms, t = .object ms ∧ R ms a) items as ↔
      List.Forall₂ (fun t a => ∃ ms, t = .object ms ∧ R ms a) items' as := by
  induction h generalizing as with
  | nil => exact Iff.rfl
  | cons ht _ ih =>
    obtain ⟨ht', hrest⟩ := List.forall_mem_cons.1 h'
    obtain ⟨ms, ms', rfl, rfl, hms⟩ := ht
    have hdistinct : DistinctKeys ms' := exists_object_iff.1 ht'
    have hsame := member?_eq_of_rearranged hms hdistinct
    have hitem (a : α) : R ms a ↔ R ms' a :=
      ⟨fun ha => hR ha hsame, fun ha => hR ha fun name hname => (hsame name hname).symm⟩
    simp only [List.forall₂_cons_left_iff, exists_object_iff, hitem, ih hrest]

theorem listOf_rearranged {fields : List String} {v v' : Option Tree}
    (h : Option.Rel (EditedList (RearrangedObject fields fun _ => Eq)) v v') (hv' : HoldsObjects v')
    (hR : ∀ {ms ms' a}, R ms a → (∀ name ∈ fields, member? ms name = member? ms' name) → R ms' a)
    (as : List α) : ListOf R v as ↔ ListOf R v' as := by
  cases h with
  | none => exact Iff.rfl
  | @some t t' ht =>
    match t, t', ht with
    | .list items, .list items', ht =>
      rw [listOf_list_iff, listOf_list_iff]
      exact forall₂_rearranged (R := R) ht (hv' items' rfl) hR as
    | .null, _, rfl | .bool _, _, rfl | .number _, _, rfl | .text _, _, rfl | .object _, _, rfl =>
      exact Iff.rfl

theorem dataOf_rearranged {members' data' : List (Quoted × Tree)} (h : IsAnswer members data)
    (h' : IsAnswer members' data') (hrearranged : RearrangedAnswer members members')
    (g : GraphRecords) : DataOf data g ↔ DataOf data' g := by
  have hpayload := hrearranged.member? h'.distinct "data" (by decide)
  rw [h.payload, h'.payload] at hpayload
  obtain ⟨_, _, hdata, hdata', hms⟩ : RearrangedData (.object data) (.object data') := by
    cases hpayload with
    | some hsame => exact hsame
  obtain rfl := Tree.object.inj hdata
  obtain rfl := Tree.object.inj hdata'
  have hnodes := listOf_rearranged (R := NodeOf) (hms.member? h'.distinctData "nodes" (by decide))
    h'.nodes NodeOf.congr g.nodes
  have hedges := listOf_rearranged (R := EdgeOf) (hms.member? h'.distinctData "edges" (by decide))
    h'.edges EdgeOf.congr g.edges
  constructor
  · intro hg
    exact ⟨hnodes.1 hg.nodes, hedges.1 hg.edges⟩
  · intro hg
    exact ⟨hnodes.2 hg.nodes, hedges.2 hg.edges⟩

end GraphRecords

namespace Response

open GraphRecords

theorem records_iff_dataOf {r : Response} (hr : r.InRange) {members data : List (Quoted × Tree)}
    (hbody : Writes (.object members) r.body) (h : IsAnswer members data) (g : GraphRecords) :
    r.records = .ok g ↔ DataOf data g := by
  refine (records_eq_ok_iff_of_data hbody h.payload nofun).trans ?_
  constructor
  · rintro ⟨-, -, -, htree, -⟩
    exact (ofTree?_iff_dataOf h g).1 htree
  · intro hg
    refine ⟨isSuccess_iff.2 hr, h.distinct.keyed h.readable envelopeNames, h.verdict,
      (ofTree?_iff_dataOf h g).2 hg, ?_⟩
    cases hv : (Tree.object members).field? envelopeNames "detail" with
    | none => exact ⟨none, rfl⟩
    | some t =>
      by_cases hnull : t = .null
      · exact ⟨none, Tree.optionalField?_eq_none_iff.2 (.inr (congrArg some hnull))⟩
      · obtain ⟨j, hj⟩ := Option.isSome_iff_exists.1 (h.readable.member? hv)
        exact ⟨some j, Tree.optionalField?_eq_some_iff.2 ⟨t, rfl, hnull, hj⟩⟩

/-- An answer that is good but gives no records is malformed. -/
theorem malformed_of_isAnswer {r : Response} (hr : r.InRange) {members data : List (Quoted × Tree)}
    (hbody : Writes (.object members) r.body) (h : IsAnswer members data)
    (hno : ¬∃ g, r.records = .ok g) : ∃ fault, r.records = .error (.malformed fault) := by
  refine records_of_not_carries hr ?_
  rintro ⟨e, he⟩
  have hread : envelope? (.object members) = some e := by
    rw [← envelope_of_writes hbody, carries_iff.1 he]
    rfl
  obtain ⟨-, hok, -⟩ := envelope?_eq_some_iff.1 hread
  have htrue : e.ok = true := Tree.bool.inj (Option.some.inj (hok.symm.trans h.verdict))
  exact hno ⟨_, (records_of_carries hr he).trans (verdict_eq_ok_iff.2 ⟨htrue, rfl⟩)⟩

/-- A good answer without repeated keys gives records exactly if its data have the form of records.
They are then those that the data carry, and otherwise the answer is malformed. The order of keys,
and keys that no record has, make no difference. -/
theorem records_follow_wire_grammar {r : Response} (hr : r.InRange)
    {members data : List (Quoted × Tree)} (hbody : Writes (.object members) r.body)
    (h : IsAnswer members data) :
    ((∃ g, r.records = .ok g) ↔ IsData data) ∧
    (∀ g, r.records = .ok g ↔ DataOf data g) ∧
    (¬IsData data → ∃ fault, r.records = .error (.malformed fault)) ∧
    ∀ (r' : Response) members' data', r'.InRange → Writes (.object members') r'.body →
      IsAnswer members' data' → RearrangedAnswer members members' →
      ∀ g, r'.records = .ok g ↔ r.records = .ok g := by
  have hrecords := records_iff_dataOf hr hbody h
  have hexists : (∃ g, r.records = .ok g) ↔ IsData data :=
    (exists_congr hrecords).trans (exists_dataOf_iff h)
  refine ⟨hexists, hrecords, fun hno => malformed_of_isAnswer hr hbody h (mt hexists.1 hno), ?_⟩
  intro r' members' data' hr' hbody' h' hrearranged g
  rw [hrecords, records_iff_dataOf hr' hbody' h', dataOf_rearranged h h' hrearranged]

def answerWith (node : List (Quoted × Tree)) : List (Quoted × Tree) := [
  (.ofString "ok", .bool true),
  (.ofString "data", .object [(.ofString "nodes", .list [.object node])])]

theorem isAnswer_answerWith {node : List (Quoted × Tree)} (hnode : Json.DistinctKeys node)
    (hread : (Tree.object (answerWith node)).Readable maxDepth) :
    IsAnswer (answerWith node) [(.ofString "nodes", .list [.object node])] where
  readable := hread
  distinct := by simp [Json.DistinctKeys, answerWith, Quoted.text?_ofString]
  verdict := by simp [member?, answerWith, Quoted.text?_ofString]
  payload := by simp [member?, answerWith, Quoted.text?_ofString]
  distinctData := by simp [Json.DistinctKeys]
  nodes := by
    intro items hitems
    obtain rfl : [.object node] = items := by
      simpa [member?, Quoted.text?_ofString] using hitems
    simpa using hnode
  edges := by simp [HoldsObjects, member?, Quoted.text?_ofString]

def numberedNode : List (Quoted × Tree) := [
  (.ofString "id", .number (.ofInt 7)), (.ofString "label", .null),
  (.ofString "lineno", .number (.ofInt 12))]

def rearrangedNode : List (Quoted × Tree) := [
  (.ofString "size", .list [.null]), (.ofString "lineno", .number (.ofInt 12)),
  (.ofString "label", .null), (.ofString "id", .number (.ofInt 7))]

theorem rearrangedAnswer_numberedNode :
    RearrangedAnswer (answerWith numberedNode) (answerWith rearrangedNode) := by
  have hnode : RearrangedObject nodeNames (fun _ => Eq) (.object numberedNode)
      (.object rearrangedNode) := by
    refine ⟨_, _, rfl, rfl, numberedNode, [(.ofString "size", .list [.null])], ?_, ?_, ?_⟩
    · exact List.forall₂_same.2 fun m _ => ⟨rfl, fun _ _ => rfl⟩
    · exact List.reverse_perm (numberedNode ++ [(.ofString "size", .list [.null])])
    · simp [nodeNames, Quoted.text?_ofString]
  refine ⟨answerWith rearrangedNode, [], ?_, by simp, List.forall_mem_nil _⟩
  refine .cons (EditedMember.ofString "ok" rfl) (.cons (EditedMember.ofString "data" ?_) .nil)
  refine ⟨_, _, rfl, rfl, [(.ofString "nodes", .list [.object rearrangedNode])], [], ?_, by simp,
    List.forall_mem_nil _⟩
  exact .cons (EditedMember.ofString "nodes" (.cons hnode .nil)) .nil

theorem numbered_node_read_in_any_order :
    (Response.mk 200 (String.ofList (Tree.object (answerWith numberedNode)).compact)).records =
      .ok ⟨[⟨some ⟨"7"⟩, none, none, .unknown, none, some 12⟩], []⟩ ∧
    (Response.mk 200 (String.ofList (Tree.object (answerWith rearrangedNode)).compact)).records =
      .ok ⟨[⟨some ⟨"7"⟩, none, none, .unknown, none, some 12⟩], []⟩ := by
  have hnumbered : IsAnswer (answerWith numberedNode) _ :=
    isAnswer_answerWith (by decide +kernel) (by decide +kernel)
  have hrearranged : IsAnswer (answerWith rearrangedNode) _ :=
    isAnswer_answerWith (by decide +kernel) (by decide +kernel)
  have h := records_follow_wire_grammar (r := ⟨200, _⟩) ⟨by decide, by decide⟩
    (Tree.writes_compact (.object (answerWith numberedNode))) hnumbered
  have hnode : NodeOf numberedNode ⟨some ⟨"7"⟩, none, none, .unknown, none, some 12⟩ :=
    ⟨.value (.integer (Literal.chars_ofInt 7) ⟨by decide, by decide⟩), .null, .missing, .missing,
      .missing, .value (.integer (Literal.chars_ofInt 12) (by decide))⟩
  have hrecords := (h.2.1 ⟨[_], []⟩).2 ⟨.list (.cons ⟨_, rfl, hnode⟩ .nil), .missing⟩
  refine ⟨hrecords, ?_⟩
  exact (h.2.2.2 ⟨200, _⟩ _ _ ⟨by decide, by decide⟩ (Tree.writes_compact _) hrearranged
    rearrangedAnswer_numberedNode _).2 hrecords

end Response

end CodeGraph
