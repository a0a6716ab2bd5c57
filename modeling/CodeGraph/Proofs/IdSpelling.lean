import CodeGraph.Proofs.DocumentEdits
import CodeGraph.Proofs.RecordFates
import CodeGraph.Proofs.RecordFields
import CodeGraph.View.Basic

namespace CodeGraph

open Json (Edited EditedList EditedMember Literal Quoted Slot Tree Writes)

/-- The tree is the number, as a literal or as a text of its digits. -/
inductive NamesInteger (n : Int) : Tree → Prop
  | number {l : Literal} (h : l.chars = (toString n).toList) : NamesInteger n (.number l)
  | text {q : Quoted} (h : q.text? = some (toString n)) : NamesInteger n (.text q)

theorem NamesInteger.ne_null {n : Int} {t : Tree} (h : NamesInteger n t) : t ≠ .null := by
  cases h <;> nofun

/-- Two trees that are one, or one number written in two ways. -/
inductive RespelledId : Tree → Tree → Prop
  | same (t : Tree) : RespelledId t t
  | integer {n : Int} {t t' : Tree} (hn : IsWord n) (h : NamesInteger n t)
      (h' : NamesInteger n t') : RespelledId t t'

namespace GraphRecords

def RespelledNode : Tree → Tree → Prop :=
  Edited (fun name => if name = "id" then RespelledId else Eq) nodeNames

def RespelledEdge : Tree → Tree → Prop :=
  Edited (fun name => if name = "source" ∨ name = "target" then RespelledId else Eq) edgeNames

/-- Two trees of a graph that differ in the spelling of ids at most. -/
def Respelled : Tree → Tree → Prop :=
  Edited (fun name => if name = "nodes" then EditedList RespelledNode
    else if name = "edges" then EditedList RespelledEdge else Eq) names

theorem id?_of_namesInteger {n : Int} (hn : IsWord n) {t : Tree} (h : NamesInteger n t)
    (depth : Nat) : id? depth t = some ⟨toString n⟩ := by
  rw [id?_eq_some_iff]
  cases h with
  | number h => exact .inr ⟨_, n, rfl, h, hn, rfl⟩
  | text h => exact .inl ⟨_, rfl, h⟩

theorem optional?_id?_respelled {t t' : Tree} (h : RespelledId t t') (depth : Nat) :
    t.optional? (id? depth) = t'.optional? (id? depth) := by
  cases h with
  | same => rfl
  | integer hn h h' =>
    rw [Tree.optional?_of_ne_null h.ne_null, Tree.optional?_of_ne_null h'.ne_null,
      id?_of_namesInteger hn h, id?_of_namesInteger hn h']

theorem node?_respelled {depth : Nat} (t t' : Tree) (h : RespelledNode t t') :
    node? (depth + 1) t = node? (depth + 1) t' := by
  refine Json.optionRel_eq.1 (Slot.record?_edited ?_ rfl h)
  simp only [nodeSlots, List.forall_mem_cons]
  refine ⟨Slot.respects_eq_of fun t t' ht => ?_, ?_, ?_, ?_, ?_, ?_, List.forall_mem_nil _⟩
  · rw [if_pos rfl] at ht
    exact optional?_id?_respelled ht depth
  all_goals
    refine Slot.respects_of_same (if_neg (by decide)) ?_
    rintro r _ v rfl
    rfl

theorem edge?_respelled {depth : Nat} (t t' : Tree) (h : RespelledEdge t t') :
    edge? (depth + 1) t = edge? (depth + 1) t' := by
  refine Json.optionRel_eq.1 (Slot.record?_edited ?_ rfl h)
  simp only [edgeSlots, List.forall_mem_cons]
  refine ⟨Slot.respects_eq_of fun t t' ht => ?_, Slot.respects_eq_of fun t t' ht => ?_,
    List.forall_mem_nil _⟩
  · rw [if_pos (.inl rfl)] at ht
    exact optional?_id?_respelled ht depth
  · rw [if_pos (.inr rfl)] at ht
    exact optional?_id?_respelled ht depth

theorem ofTree?_respelled {depth : Nat} {t t' : Tree} (h : Respelled t t') :
    ofTree? (depth + 3) t = ofTree? (depth + 3) t' := by
  refine Json.optionRel_eq.1 (Slot.record?_edited ?_ rfl h)
  simp only [slots, List.forall_mem_cons]
  refine ⟨Slot.respects_eq_of fun t t' ht => ?_, Slot.respects_eq_of fun t t' ht => ?_,
    List.forall_mem_nil _⟩
  · rw [if_pos rfl] at ht
    exact Json.Tree.items?_eq_of_edited node?_respelled ht
  · rw [if_neg (by decide), if_pos rfl] at ht
    exact Json.Tree.items?_eq_of_edited edge?_respelled ht

theorem ofText_eq_ok_iff_of_respelled {t t' : Tree} {s s' : String} (hs : Writes t s)
    (hs' : Writes t' s') (h : Respelled t t') (g : GraphRecords) :
    ofText s = .ok g ↔ ofText s' = .ok g := by
  have htoOption (e : Except Json.Fault GraphRecords) : e = .ok g ↔ e.toOption = some g := by
    cases e <;> simp [Except.toOption]
  rw [htoOption, htoOption, ofText_of_writes hs, ofText_of_writes hs', maxDepth,
    ofTree?_respelled h]

def FieldIs (names : List String) (name : String) (n : Int) (t : Tree) : Prop :=
  ∃ v, t.field? names name = some v ∧ NamesInteger n v

theorem optionalField?_of_fieldIs {fields : List String} {name : String} {n : Int} {t : Tree}
    (hn : IsWord n) (h : FieldIs fields name n t) (depth : Nat) :
    Tree.optionalField? (id? depth) (t.field? fields name) = some (some ⟨toString n⟩) := by
  obtain ⟨v, hv, hname⟩ := h
  exact Tree.optionalField?_eq_some_iff.2 ⟨v, hv, hname.ne_null, id?_of_namesInteger hn hname depth⟩

variable {t : Tree} {g : GraphRecords} {n m : Int}

theorem nodes_getElem? (h : ofTree? maxDepth t = some g) (hn : IsWord n) {i : Nat} {a : Tree}
    (hi : (itemsOf t "nodes")[i]? = some a) (ha : FieldIs nodeNames "id" n a) :
    ∃ r, g.nodes[i]? = some r ∧ r.id = some ⟨toString n⟩ := by
  obtain ⟨-, hnodes, -⟩ := ofTree?_eq_some_iff.1 h
  obtain ⟨r, hr, hnode⟩ := listField?_getElem? hnodes hi
  obtain ⟨-, hid, -⟩ := node?_eq_some_iff.1 hnode
  rw [optionalField?_of_fieldIs hn ha] at hid
  exact ⟨r, hr, (Option.some.inj hid).symm⟩

theorem edges_getElem? (h : ofTree? maxDepth t = some g) (hn : IsWord n) (hm : IsWord m) {i : Nat}
    {a : Tree} (hi : (itemsOf t "edges")[i]? = some a) (hsource : FieldIs edgeNames "source" n a)
    (htarget : FieldIs edgeNames "target" m a) :
    g.edges[i]? = some ⟨some ⟨toString n⟩, some ⟨toString m⟩⟩ := by
  obtain ⟨-, -, hedges⟩ := ofTree?_eq_some_iff.1 h
  obtain ⟨⟨source, target⟩, hr, hedge⟩ := listField?_getElem? hedges hi
  obtain ⟨-, hs, ht⟩ := edge?_eq_some_iff.1 hedge
  rw [optionalField?_of_fieldIs hn hsource] at hs
  rw [optionalField?_of_fieldIs hm htarget] at ht
  obtain rfl := Option.some.inj hs
  obtain rfl := Option.some.inj ht
  exact hr

/-- The later of two nodes with one id is reported. -/
theorem mem_duplicateNodes {id : NodeId} {i j : Nat} (hij : i < j) {a b : NodeRecord}
    (hi : g.nodes[i]? = some a) (hj : g.nodes[j]? = some b) (ha : a.id = some id)
    (hb : b.id = some id) : id ∈ g.normalize.report.duplicateNodes := by
  have hpast : (g.nodes.take j, b) ∈ withPast g.nodes := by
    refine List.mem_map.2 ⟨(b, j), ?_, rfl⟩
    exact List.mem_zipIdx_iff_getElem?.2 hj
  have hlater : ¬b.IsFirst (g.nodes.take j) := by
    intro hfirst
    refine hfirst.2 a ?_ (ha.trans hb.symm)
    exact List.mem_of_getElem? ((List.getElem?_take_of_lt hij).trans hi)
  have hmem : b ∈ laterRecords g.nodes :=
    List.mem_map.2 ⟨_, List.mem_filter.2 ⟨hpast, by simpa using hlater⟩, rfl⟩
  have hsome : some id ∈ g.normalize.report.duplicateNodes.map some := by
    rw [normalize_duplicateNodes]
    exact List.mem_map.2 ⟨b, List.mem_filter.2 ⟨hmem, by simp [hb]⟩, hb⟩
  simpa using hsome

theorem mem_kept {seen : List NodeId} {rs : List NodeRecord} {r : NodeRecord} {id : NodeId}
    (hr : r ∈ rs) (hid : r.id = some id) :
    id ∈ seen ∨ id ∈ ((nodeFates seen rs).filterMap NodeFate.node?).map Node.id := by
  induction rs generalizing seen with
  | nil => exact absurd hr List.not_mem_nil
  | cons r' rs ih =>
    rw [nodeFates]
    rcases List.mem_cons.1 hr with rfl | hr
    · simp only [hid]
      split
      · next hseen => exact .inl hseen
      · exact .inr List.mem_cons_self
    · cases r'.id with
      | none => exact ih hr
      | some id' =>
        dsimp only
        split
        · exact ih hr
        · have hmore := @ih (id' :: seen) hr
          rcases hmore with h | h
          · rcases List.mem_cons.1 h with rfl | h
            · exact .inr List.mem_cons_self
            · exact .inl h
          · exact .inr (List.mem_cons_of_mem _ h)

theorem mem_ids {r : NodeRecord} (hr : r ∈ g.nodes) {id : NodeId} (hid : r.id = some id) :
    id ∈ g.normalize.graph.ids :=
  (mem_kept hr hid).resolve_left List.not_mem_nil

theorem mem_links {source target : NodeId} (he : EdgeRecord.between source target ∈ g.edges)
    (hs : source ∈ g.normalize.graph.ids) (ht : target ∈ g.normalize.graph.ids) :
    ⟨source, target⟩ ∈ g.normalize.graph.links := by
  have hjoins : (EdgeRecord.between source target).joins g.normalize.graph = true := by
    simp [EdgeRecord.joins, EdgeRecord.between, hs, ht]
  have hmem := List.mem_filter.2 ⟨he, hjoins⟩
  rw [← normalize_links] at hmem
  obtain ⟨l, hl, heq⟩ := List.mem_map.1 hmem
  simp only [EdgeRecord.between, EdgeRecord.mk.injEq, Option.some.injEq] at heq
  obtain ⟨rfl, rfl⟩ := heq
  exact hl

/-- Documents that differ in the spelling of ids at most give the same records, so the same graph,
report, view and neighbours. Within one document, nodes with one number as their ids are duplicates
and edges find their ends, however each of the ids is written. -/
theorem respelled_ids_read_alike {t t' : Tree} {s s' : String} (hs : Writes t s)
    (hs' : Writes t' s') (h : Respelled t t') :
    (∀ g, ofText s = .ok g ↔ ofText s' = .ok g) ∧
    (∀ g g', ofText s = .ok g → ofText s' = .ok g' →
      g'.normalize.graph = g.normalize.graph ∧ g'.normalize.report = g.normalize.report ∧
      NeighborMap.ofGraph g'.normalize.graph = NeighborMap.ofGraph g.normalize.graph ∧
      ∀ {α β : Type} [Scalar α] [Scalar β] [Graded α β] (sim : Simulation α β) (zoom : Zoom α)
        (width height : α), View.ofGraph g'.normalize.graph sim zoom width height =
          View.ofGraph g.normalize.graph sim zoom width height) ∧
    (∀ g, ofText s = .ok g → ∀ n, IsWord n →
      (∀ (i j : Nat) a b, i < j →
        (itemsOf t "nodes")[i]? = some a → (itemsOf t "nodes")[j]? = some b →
        FieldIs nodeNames "id" n a → FieldIs nodeNames "id" n b →
          ⟨toString n⟩ ∈ g.normalize.report.duplicateNodes) ∧
      ∀ m, IsWord m → ∀ e ∈ itemsOf t "edges", ∀ a ∈ itemsOf t "nodes", ∀ b ∈ itemsOf t "nodes",
        FieldIs edgeNames "source" n e → FieldIs edgeNames "target" m e →
        FieldIs nodeNames "id" n a → FieldIs nodeNames "id" m b →
          ⟨⟨toString n⟩, ⟨toString m⟩⟩ ∈ g.normalize.graph.links) := by
  have hsame := ofText_eq_ok_iff_of_respelled hs hs' h
  refine ⟨hsame, fun g g' hg hg' => ?_, fun g hg n hn => ?_⟩
  · obtain rfl : g = g' := Except.ok.inj (((hsame g).1 hg).symm.trans hg')
    exact ⟨rfl, rfl, rfl, fun _ _ _ _ => rfl⟩
  · have htree : ofTree? maxDepth t = some g := by
      rw [← ofText_of_writes hs, hg]
      rfl
    refine ⟨fun i j a b hij hi hj ha hb => ?_, ?_⟩
    · obtain ⟨r, hr, hid⟩ := nodes_getElem? htree hn hi ha
      obtain ⟨r', hr', hid'⟩ := nodes_getElem? htree hn hj hb
      exact mem_duplicateNodes hij hr hr' hid hid'
    · intro m hm e he a ha b hb hsource htarget hida hidb
      obtain ⟨k, hk⟩ := List.mem_iff_getElem?.1 he
      obtain ⟨i, hi⟩ := List.mem_iff_getElem?.1 ha
      obtain ⟨j, hj⟩ := List.mem_iff_getElem?.1 hb
      have hedge := edges_getElem? htree hn hm hk hsource htarget
      obtain ⟨r, hr, hid⟩ := nodes_getElem? htree hn hi hida
      obtain ⟨r', hr', hid'⟩ := nodes_getElem? htree hm hj hidb
      exact mem_links (List.mem_of_getElem? hedge) (mem_ids (List.mem_of_getElem? hr) hid)
        (mem_ids (List.mem_of_getElem? hr') hid')

def threeNodes (id : Tree) : Tree :=
  .object [
    (.ofString "nodes", .list [
      .object [(.ofString "id", id)],
      .object [(.ofString "id", .text (.ofString "7"))],
      .object [(.ofString "id", .text (.ofString "8"))]]),
    (.ofString "edges", .list [
      .object [(.ofString "source", id), (.ofString "target", .text (.ofString "8"))]])]

theorem threeNodes_respelled {id id' : Tree} (h : RespelledId id id') :
    Respelled (threeNodes id) (threeNodes id') := by
  have hnode {v v' : Tree} (hv : RespelledId v v') :
      RespelledNode (.object [(.ofString "id", v)]) (.object [(.ofString "id", v')]) :=
    .cons (EditedMember.ofString "id" hv) .nil
  refine .cons (EditedMember.ofString "nodes" ?_) (.cons (EditedMember.ofString "edges" ?_) .nil)
  · exact .cons (hnode h) (.cons (hnode (.same _)) (.cons (hnode (.same _)) .nil))
  · refine .cons (.cons (EditedMember.ofString "source" h) (.cons ?_ .nil)) .nil
    exact EditedMember.ofString "target" (.same _)

/-- A node `7` and a node `"7"` are one, and an edge from `7` begins there. -/
theorem number_and_text_are_one :
    (∀ g, ofText (String.ofList (threeNodes (.number (.ofInt 7))).compact) = .ok g ↔
      ofText (String.ofList (threeNodes (.text (.ofString "7"))).compact) = .ok g) ∧
    ∃ g, ofText (String.ofList (threeNodes (.number (.ofInt 7))).compact) = .ok g ∧
      g.normalize.graph.ids = [⟨"7"⟩, ⟨"8"⟩] ∧ g.normalize.graph.links = [⟨⟨"7"⟩, ⟨"8"⟩⟩] ∧
      g.normalize.report.duplicateNodes = [⟨"7"⟩] := by
  have h := respelled_ids_read_alike (Tree.writes_compact _) (Tree.writes_compact _)
    (threeNodes_respelled (.integer (n := 7) ⟨by decide, by decide⟩
      (.number (Literal.chars_ofInt 7)) (.text (Quoted.text?_ofString "7"))))
  have hrecords : ofTree? maxDepth (threeNodes (.number (.ofInt 7))) =
      some ⟨["7", "7", "8"].map fun id => { blankNode with id := some ⟨id⟩ },
        [.between ⟨"7"⟩ ⟨"8"⟩]⟩ := by
    decide +kernel
  refine ⟨h.1, _, ofText_eq_ok_iff.2 ⟨_, Tree.writes_compact _, hrecords⟩, ?_⟩
  decide +kernel

end GraphRecords

end CodeGraph
