import CodeGraph.Proofs.DocumentEdits
import CodeGraph.Proofs.RecordFields

namespace CodeGraph

open Json (Edited EditedList EditedMember Slot Tree Writes)

namespace GraphRecords

/-- The kind that only a text can name; anything else is unknown. -/
def promisedKind : Json → NodeKind
  | .text "class" => .classDef
  | .text "function" => .functionDef
  | .text "method" => .methodDef
  | _ => .unknown

/-- The value is an object that has a kind as its one key, with null. -/
def KeysKind (j : Json) : Prop :=
  ∃ name ∈ ["class", "function", "method"], j = .object [(name, .null)]

theorem promisedKind_text (s : String) : promisedKind (.text s) = .ofName s := by
  unfold promisedKind NodeKind.ofName
  split <;> simp_all

theorem ofName_eq_unknown_iff {s : String} :
    NodeKind.ofName s = .unknown ↔ s ∉ ["class", "function", "method"] := by
  unfold NodeKind.ofName
  split_ifs <;> simp_all

/-- A value is read as promised unless it keys a kind. -/
theorem kindOfJson_eq_promisedKind_iff {j : Json} :
    kindOfJson j = promisedKind j ↔ ¬KeysKind j := by
  unfold kindOfJson
  split
  · next s =>
    rw [promisedKind_text]
    simp [KeysKind]
  · next key =>
    refine ofName_eq_unknown_iff.trans (not_congr ?_)
    simp [KeysKind]
  · next htext hobject =>
    have hkeys : ¬KeysKind j := by
      rintro ⟨name, -, rfl⟩
      exact hobject name rfl
    refine iff_of_true ?_ hkeys
    cases j with
    | text s => exact absurd rfl (htext s)
    | null | bool | number | list | object => rfl

def BothReadable (t t' : Tree) : Prop := t.Readable (maxDepth - 4) ∧ t'.Readable (maxDepth - 4)

def RetypedNode : Tree → Tree → Prop :=
  Edited (fun name => if name = "type" then BothReadable else Eq) nodeNames

def Retyped : Tree → Tree → Prop :=
  Edited (fun name => if name = "nodes" then EditedList RetypedNode else Eq) names

structure SameButKind (r r' : NodeRecord) : Prop where
  id : r.id = r'.id
  label : r.label = r'.label
  fqname : r.fqname = r'.fqname
  file : r.file = r'.file
  line : r.line = r'.line

structure SameButKinds (g g' : GraphRecords) : Prop where
  nodes : List.Forall₂ SameButKind g.nodes g'.nodes
  edges : g.edges = g'.edges

theorem node?_retyped (t t' : Tree) (h : RetypedNode t t') :
    Option.Rel SameButKind (node? (maxDepth - 3) t) (node? (maxDepth - 3) t') := by
  refine Slot.record?_edited ?_ ⟨rfl, rfl, rfl, rfl, rfl⟩ h
  simp only [nodeSlots, List.forall_mem_cons]
  refine ⟨?_, ?_, ?_, ?_, ?_, ?_, List.forall_mem_nil _⟩
  · refine Slot.respects_of_same (if_neg (by decide)) fun r r' v h => ?_
    exact ⟨rfl, h.label, h.fqname, h.file, h.line⟩
  · refine Slot.respects_of_same (if_neg (by decide)) fun r r' v h => ?_
    exact ⟨h.id, rfl, h.fqname, h.file, h.line⟩
  · refine Slot.respects_of_same (if_neg (by decide)) fun r r' v h => ?_
    exact ⟨h.id, h.label, rfl, h.file, h.line⟩
  · refine Slot.respects_of (V := fun _ _ => True) (fun t t' ht => ?_) fun r r' _ _ h _ => ?_
    · rw [if_pos rfl] at ht
      obtain ⟨j, hj⟩ := Option.isSome_iff_exists.1 ht.1
      obtain ⟨j', hj'⟩ := Option.isSome_iff_exists.1 ht.2
      change Option.Rel _ (t.json? (maxDepth - 4)) (t'.json? (maxDepth - 4))
      rw [hj, hj']
      exact .some trivial
    · exact ⟨h.id, h.label, h.fqname, h.file, h.line⟩
  · refine Slot.respects_of_same (if_neg (by decide)) fun r r' v h => ?_
    exact ⟨h.id, h.label, h.fqname, rfl, h.line⟩
  · refine Slot.respects_of_same (if_neg (by decide)) fun r r' v h => ?_
    exact ⟨h.id, h.label, h.fqname, h.file, rfl⟩

theorem ofTree?_retyped {t t' : Tree} (h : Retyped t t') :
    Option.Rel SameButKinds (ofTree? (maxDepth - 1) t) (ofTree? (maxDepth - 1) t') := by
  refine Slot.record?_edited ?_ ⟨.nil, rfl⟩ h
  simp only [slots, List.forall_mem_cons]
  refine ⟨?_, ?_, List.forall_mem_nil _⟩
  · refine Slot.respects_of (V := List.Forall₂ SameButKind) (fun t t' ht => ?_)
      fun r r' _ _ h hv => ⟨hv, h.edges⟩
    rw [if_pos rfl] at ht
    exact Json.Tree.items?_edited node?_retyped ht
  · exact Slot.respects_of_same (if_neg (by decide)) fun r r' v h => ⟨h.nodes, rfl⟩

end GraphRecords

namespace Response

open GraphRecords

def Retyped : Tree → Tree → Prop :=
  Edited (fun name => if name = "data" then GraphRecords.Retyped else Eq) envelopeNames

structure SameButKinds (e e' : Envelope) : Prop where
  ok : e.ok = e'.ok
  data : Option.Rel GraphRecords.SameButKinds e.data e'.data

theorem envelope?_retyped {t t' : Tree} (h : Retyped t t') :
    Option.Rel SameButKinds (envelope? t) (envelope? t') := by
  refine Slot.record?_edited ?_ ⟨rfl, .none⟩ h
  simp only [envelopeSlots, List.forall_mem_cons]
  refine ⟨?_, ?_, ?_, List.forall_mem_nil _⟩
  · exact Slot.respects_of_same (if_neg (by decide)) fun e e' v h => ⟨rfl, h.data⟩
  · refine Slot.respects_of (V := Option.Rel GraphRecords.SameButKinds) (fun t t' ht => ?_)
      fun e e' _ _ h hv => ⟨h.ok, hv⟩
    rw [if_pos rfl] at ht
    exact Json.Tree.optional?_edited ht (ofTree?_retyped ht)
  · exact Slot.respects_of_same (if_neg (by decide)) fun e e' v h => ⟨h.ok, h.data⟩

theorem SameButKinds.records? {e e' : Envelope} (h : SameButKinds e e') :
    Option.Rel GraphRecords.SameButKinds e.records? e'.records? := by
  obtain ⟨ok, data, detail⟩ := e
  obtain ⟨ok', data', detail'⟩ := e'
  obtain ⟨rfl, hdata⟩ : ok = ok' ∧ Option.Rel GraphRecords.SameButKinds data data' := ⟨h.ok, h.data⟩
  cases ok with
  | false => exact .none
  | true =>
    cases hdata with
    | none => exact .some ⟨.nil, rfl⟩
    | some hsame => exact .some hsame

theorem records_retyped (status : Nat) {t t' : Tree} {body body' : String} (hbody : Writes t body)
    (hbody' : Writes t' body') (h : Retyped t t') :
    Option.Rel GraphRecords.SameButKinds (Response.mk status body).records.toOption
      (Response.mk status body').records.toOption := by
  rw [records_toOption hbody, records_toOption hbody']
  change Option.Rel _ (if (Response.mk status body).isSuccess then _ else _)
    (if (Response.mk status body).isSuccess then _ else _)
  split
  · exact Json.optionRel_bind (envelope?_retyped h) fun e e' he => he.records?
  · exact .none

theorem kind_of_writes {r : Response} {t : Tree} (hbody : Writes t r.body) {g : GraphRecords}
    (hg : r.records = .ok g) {d : Tree} (hdata : t.field? envelopeNames "data" = some d) {i : Nat}
    {a : Tree} (hi : (itemsOf d "nodes")[i]? = some a) {v : Tree}
    (hv : a.field? nodeNames "type" = some v) :
    ∃ record j, g.nodes[i]? = some record ∧ v.json? (maxDepth - 4) = some j ∧
      record.kind = kindOfJson j := by
  have hd : d ≠ .null := by
    rintro rfl
    exact absurd hi (by simp [itemsOf, Tree.field?])
  obtain ⟨-, -, -, htree, -⟩ := (records_eq_ok_iff_of_data hbody hdata hd).1 hg
  obtain ⟨-, hnodes, -⟩ := ofTree?_eq_some_iff.1 htree
  obtain ⟨record, hrecord, hnode⟩ := listField?_getElem? hnodes hi
  obtain ⟨-, -, -, -, hkind, -⟩ := node?_eq_some_iff.1 hnode
  rw [hv] at hkind
  obtain ⟨j, hj, hkind⟩ := Option.map_eq_some_iff.1 hkind
  exact ⟨record, j, hrecord, hj, hkind.symm⟩

def oneNode (kind : Tree) : Tree :=
  .object [
    (.ofString "ok", .bool true),
    (.ofString "data", .object [
      (.ofString "nodes", .list [
        .object [(.ofString "id", .text (.ofString "a")), (.ofString "type", kind)]])])]

theorem oneNode_retyped {kind kind' : Tree} (h : BothReadable kind kind') :
    Retyped (oneNode kind) (oneNode kind') := by
  refine .cons (EditedMember.ofString "ok" rfl) (.cons (EditedMember.ofString "data" ?_) .nil)
  refine .cons (EditedMember.ofString "nodes" (.cons ?_ .nil)) .nil
  exact .cons (EditedMember.ofString "id" rfl) (.cons (EditedMember.ofString "type" h) .nil)

theorem records_oneNode (kind : Tree) (g : GraphRecords)
    (h : (envelope? (oneNode kind)).bind Envelope.records? = some g) :
    (Response.mk 200 (String.ofList (oneNode kind).compact)).records = .ok g :=
  (records_eq_ok_iff_of_writes (Tree.writes_compact _)).2 ⟨rfl, Option.bind_eq_some_iff.1 h⟩

theorem exists_records_oneNode {v : Tree} (hv : v.Readable (maxDepth - 4)) : ∃ record,
    (Response.mk 200 (String.ofList (oneNode v).compact)).records = .ok ⟨[record], []⟩ := by
  have hnull := records_oneNode .null ⟨[⟨some ⟨"a"⟩, none, none, .unknown, none, none⟩], []⟩
    (by decide +kernel)
  have hretyped : Retyped (oneNode .null) (oneNode v) := oneNode_retyped ⟨by decide, hv⟩
  have hsame := Json.optionRel_toOption
    (records_retyped 200 (Tree.writes_compact _) (Tree.writes_compact _) hretyped)
  obtain ⟨⟨nodes, edges⟩, hg⟩ := hsame.1.1 ⟨_, hnull⟩
  obtain ⟨hnodes, rfl⟩ := hsame.2 _ _ hnull hg
  obtain ⟨record, _, -, hrest, rfl⟩ := List.forall₂_cons_left_iff.1 hnodes
  obtain rfl := List.forall₂_nil_left_iff.1 hrest
  exact ⟨record, hg⟩

/-- A node is read whatever value its kind has. Which kinds an answer gives does not decide whether
it is read, nor what is read beside them. A kind is the promised one exactly if its value does not
key a kind; if it does, it is the kind that the key names as a text. -/
theorem kind_promised_iff_not_keyed {status : Nat} {t : Tree} {body : String}
    (hbody : Writes t body) :
    (∀ v, v.Readable (maxDepth - 4) → ∃ record,
      (Response.mk 200 (String.ofList (oneNode v).compact)).records = .ok ⟨[record], []⟩) ∧
    (∀ t' body', Writes t' body' → Retyped t t' →
      ((∃ g, (Response.mk status body).records = .ok g) ↔
        ∃ g', (Response.mk status body').records = .ok g') ∧
      ∀ g g', (Response.mk status body).records = .ok g →
        (Response.mk status body').records = .ok g' → GraphRecords.SameButKinds g g') ∧
    ∀ g, (Response.mk status body).records = .ok g →
      ∀ d, t.field? envelopeNames "data" = some d →
        ∀ (i : Nat) a, (itemsOf d "nodes")[i]? = some a → ∀ v, a.field? nodeNames "type" = some v →
          ∃ record j, g.nodes[i]? = some record ∧ v.json? (maxDepth - 4) = some j ∧
            (record.kind = promisedKind j ↔ ¬KeysKind j) ∧
            ∀ name, j = .object [(name, .null)] → record.kind = promisedKind (.text name) := by
  refine ⟨fun v hv => ?_, fun t' body' hbody' h => ?_, fun g hg d hdata i a hi v hv => ?_⟩
  · exact exists_records_oneNode hv
  · exact Json.optionRel_toOption (records_retyped status hbody hbody' h)
  · obtain ⟨record, j, hrecord, hj, hkind⟩ := kind_of_writes hbody hg hdata hi hv
    refine ⟨record, j, hrecord, hj, ?_, fun name hname => ?_⟩
    · rw [hkind]
      exact kindOfJson_eq_promisedKind_iff
    · rw [hkind, hname, promisedKind_text]
      rfl

/-- A text names its kind, and a list in its place is read as well. -/
theorem kind_of_text_or_list :
    (∃ g record, (Response.mk 200
        (String.ofList (oneNode (.text (.ofString "class"))).compact)).records = .ok g ∧
      g.nodes[0]? = some record ∧ record.kind = .classDef) ∧
    ∃ g, (Response.mk 200 (String.ofList (oneNode (.list [.null])).compact)).records = .ok g := by
  have h := @kind_promised_iff_not_keyed 200 _ _
    (Tree.writes_compact (oneNode (.text (.ofString "class"))))
  have hrecords := records_oneNode (.text (.ofString "class"))
    ⟨[⟨some ⟨"a"⟩, none, none, .classDef, none, none⟩], []⟩ (by decide +kernel)
  constructor
  · obtain ⟨record, j, hrecord, hj, hpromised, -⟩ := h.2.2 _ hrecords _ rfl 0 _ rfl _ rfl
    have hclass := congrArg (Option.map Json.text) (Json.Quoted.text?_ofString "class")
    obtain rfl : .text "class" = j := Option.some.inj (hclass.symm.trans hj)
    exact ⟨_, record, hrecords, hrecord, hpromised.2 (by simp [KeysKind])⟩
  · refine ((h.2.1 _ _ (Tree.writes_compact _) (oneNode_retyped ⟨?_, ?_⟩)).1).1 ⟨_, hrecords⟩
    · decide +kernel
    · decide +kernel

/-- An object reads as a class, where the promise is unknown. -/
theorem object_names_class :
    (Response.mk 200 ("\x7b\"ok\":true,\"data\":\x7b\"nodes\":" ++
      "[\x7b\"id\":\"a\",\"type\":\x7b\"class\":null\x7d\x7d]\x7d\x7d")).records =
        .ok ⟨[⟨some ⟨"a"⟩, none, none, .classDef, none, none⟩], []⟩ ∧
    promisedKind (.object [("class", .null)]) = .unknown := by
  have hbody : String.ofList (oneNode (.object [(.ofString "class", .null)])).compact =
      "\x7b\"ok\":true,\"data\":\x7b\"nodes\":" ++
        "[\x7b\"id\":\"a\",\"type\":\x7b\"class\":null\x7d\x7d]\x7d\x7d" := by
    decide +kernel
  rw [← hbody]
  exact ⟨records_oneNode _ _ (by decide +kernel), rfl⟩

end Response

end CodeGraph
