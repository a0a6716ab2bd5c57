import CodeGraph.Proofs.CleanGraph
import CodeGraph.Proofs.RecordFates
import Mathlib.Logic.Relation

namespace CodeGraph

/-- The record of a node. Its place stands for the file, and there is no line. -/
def NodeRecord.ofNode (n : Node) : NodeRecord where
  id := some n.id
  label := some n.label
  fqname := some n.fqname
  kind := n.kind
  file := n.location
  line := none

def GraphRecords.ofGraph (g : Graph) : GraphRecords where
  nodes := g.nodes.map NodeRecord.ofNode
  edges := g.links.map fun l => EdgeRecord.between l.source l.target

/-- A name is empty only if what would stand in for it is empty as well. -/
structure Node.Named (n : Node) : Prop where
  label : n.label = "" → n.id.text = ""
  fqname : n.fqname = "" → n.label = ""

/-- A clean graph whose nodes need no other names. -/
structure Graph.Normal (g : Graph) : Prop extends Graph.Clean g where
  named : ∀ n ∈ g.nodes, n.Named

theorem getD_nonEmpty? (s other : String) :
    (nonEmpty? (some s)).getD other = if s = "" then other else s := by
  by_cases h : s = ""
  · rw [nonEmpty?_of_blank (.inr (congrArg some h)), if_pos h]
    rfl
  · rw [nonEmpty?_of_ne h, if_neg h]
    rfl

theorem getD_nonEmpty?_eq_empty {s : Option String} {other : String}
    (h : (nonEmpty? s).getD other = "") : other = "" := by
  cases s with
  | none => exact h
  | some s =>
    rw [getD_nonEmpty?] at h
    split at h
    · exact h
    · contradiction

theorem NodeRecord.toNode_named (r : NodeRecord) (id : NodeId) : (r.toNode id).Named where
  label := getD_nonEmpty?_eq_empty
  fqname := getD_nonEmpty?_eq_empty

theorem NodeRecord.ofNode_toNode {n : Node} (h : n.Named) :
    (NodeRecord.ofNode n).toNode n.id = n := by
  have hlabel : (nonEmpty? (some n.label)).getD n.id.text = n.label := by
    rw [getD_nonEmpty?]
    split
    · next hempty => rw [hempty, h.label hempty]
    · rfl
  have hfqname : (nonEmpty? (some n.fqname)).getD n.label = n.fqname := by
    rw [getD_nonEmpty?]
    split
    · next hempty => rw [hempty, h.fqname hempty]
    · rfl
  have hplace : n.location.map (fun file => file) = n.location := Option.map_id'
  simp only [NodeRecord.ofNode, NodeRecord.toNode, hlabel, hfqname, hplace]

namespace GraphRecords

theorem named_of_mem_nodeFates {seen : List NodeId} {records : List NodeRecord} {n : Node}
    (h : n ∈ (nodeFates seen records).filterMap NodeFate.node?) : n.Named := by
  fun_induction nodeFates seen records with
  | case1 => cases h
  | case2 seen r rest _ ih => exact ih (by rwa [List.filterMap_cons_none rfl] at h)
  | case3 seen r rest id _ _ ih => exact ih (by rwa [List.filterMap_cons_none rfl] at h)
  | case4 seen r rest id _ _ ih =>
    rw [List.filterMap_cons_some (rfl : NodeFate.node? (.kept (r.toNode id)) = some _)] at h
    rcases List.mem_cons.1 h with rfl | h
    · exact r.toNode_named id
    · exact ih h

theorem normalize_normal (records : GraphRecords) : records.normalize.graph.Normal where
  toClean := records.normalize_clean
  named _ hn := named_of_mem_nodeFates hn

theorem nodeFates_ofNode {seen : List NodeId} {ns : List Node}
    (hfresh : View.Fresh seen (ns.map Node.id)) (hnamed : ∀ n ∈ ns, n.Named) :
    nodeFates seen (ns.map NodeRecord.ofNode) = ns.map NodeFate.kept := by
  induction ns generalizing seen with
  | nil => rfl
  | cons n ns ih =>
    obtain ⟨hnew, hfresh⟩ := View.fresh_cons.1 hfresh
    have hrest := ih hfresh fun m hm => hnamed m (List.mem_cons_of_mem _ hm)
    have hnode := NodeRecord.ofNode_toNode (hnamed n List.mem_cons_self)
    have hid : (NodeRecord.ofNode n).id = some n.id := rfl
    simp only [List.map_cons, nodeFates, hid, if_neg hnew, hnode, hrest]

theorem edgeFate_between {ids : List NodeId} {l : Link} (h : l.source ∈ ids ∧ l.target ∈ ids) :
    edgeFate ids (EdgeRecord.between l.source l.target) = .kept l := if_pos h

/-- Nothing of a normal graph is dropped or renamed. -/
theorem normalize_ofGraph {g : Graph} (hg : g.Normal) :
    (ofGraph g).normalize.graph = g ∧ (ofGraph g).normalize.report = ⟨[], [], 0, 0⟩ := by
  have hnodes : nodeFates [] (ofGraph g).nodes = g.nodes.map NodeFate.kept :=
    nodeFates_ofNode (View.fresh_nil_iff.2 hg.ids) hg.named
  have hkept : (g.nodes.map NodeFate.kept).filterMap NodeFate.node? = g.nodes := by
    rw [List.filterMap_map]
    exact List.filterMap_some
  have hedges : (ofGraph g).edges.map (edgeFate (g.nodes.map Node.id)) =
      g.links.map EdgeFate.kept := by
    rw [ofGraph, List.map_map]
    exact List.map_congr_left fun l hl => edgeFate_between (hg.links l hl)
  have hlinks : (g.links.map EdgeFate.kept).filterMap EdgeFate.link? = g.links := by
    rw [List.filterMap_map]
    exact List.filterMap_some
  constructor
  · simp only [normalize, hnodes, hkept, hedges, hlinks]
  · simp only [normalize, hnodes, hkept, hedges]
    simp [List.filterMap_map, List.countP_map, Function.comp_def, NodeFate.repeated?,
      EdgeFate.dangling?, NodeFate.isWithoutId, EdgeFate.isIncomplete]

/-- The graphs that normalizing leaves alone are those that it gives. -/
theorem normalize_ofGraph_eq_iff {g : Graph} : (ofGraph g).normalize.graph = g ↔ g.Normal := by
  constructor
  · intro h
    rw [← h]
    exact normalize_normal _
  · intro h
    exact (normalize_ofGraph h).1

/-- One record more, at any place, that cannot be drawn: a node without id, or with the id of a node
before it, or an edge that lacks an end or has one that is no node of the graph. -/
inductive PaddedTo : GraphRecords → GraphRecords → Prop
  | withoutId {before after : List NodeRecord} {edges : List EdgeRecord} {r : NodeRecord}
      (h : r.id = none) : PaddedTo ⟨before ++ after, edges⟩ ⟨before ++ r :: after, edges⟩
  | repeated {before after : List NodeRecord} {edges : List EdgeRecord} {q r : NodeRecord}
      (hq : q ∈ before) (h : r.id = q.id) :
      PaddedTo ⟨before ++ after, edges⟩ ⟨before ++ r :: after, edges⟩
  | incomplete {nodes : List NodeRecord} {before after : List EdgeRecord} {e : EdgeRecord}
      (h : e.source = none ∨ e.target = none) :
      PaddedTo ⟨nodes, before ++ after⟩ ⟨nodes, before ++ e :: after⟩
  | dangling {nodes : List NodeRecord} {before after : List EdgeRecord} {e : EdgeRecord}
      {id : NodeId} (hid : id ∉ (normalize ⟨nodes, before ++ after⟩).graph.ids)
      (h : e.source = some id ∨ e.target = some id) :
      PaddedTo ⟨nodes, before ++ after⟩ ⟨nodes, before ++ e :: after⟩

def keptBehind (seen : List NodeId) (records : List NodeRecord) : List Node :=
  (nodeFates seen records).filterMap NodeFate.node?

theorem keptBehind_known {seen : List NodeId} {r : NodeRecord}
    (h : ∀ id, r.id = some id → id ∈ seen) (rest : List NodeRecord) :
    keptBehind seen (r :: rest) = keptBehind seen rest := by
  unfold keptBehind
  cases hid : r.id with
  | none =>
    rw [nodeFates, hid]
    exact List.filterMap_cons_none rfl
  | some id =>
    simp only [nodeFates, hid, if_pos (h id hid)]
    exact List.filterMap_cons_none rfl

theorem keptBehind_new {seen : List NodeId} {r : NodeRecord} {id : NodeId} (hid : r.id = some id)
    (hnew : id ∉ seen) (rest : List NodeRecord) :
    keptBehind seen (r :: rest) = r.toNode id :: keptBehind (id :: seen) rest := by
  simp only [keptBehind, nodeFates, hid, if_neg hnew]
  exact List.filterMap_cons_some rfl

theorem keptBehind_insert {seen : List NodeId} {before after : List NodeRecord} {r : NodeRecord}
    (h : ∀ id, r.id = some id → id ∈ seen ∨ ∃ q ∈ before, q.id = some id) :
    keptBehind seen (before ++ r :: after) = keptBehind seen (before ++ after) := by
  induction before generalizing seen with
  | nil =>
    apply keptBehind_known
    intro id hid
    simpa using h id hid
  | cons q before ih =>
    rw [List.cons_append, List.cons_append]
    by_cases hq : ∀ id, q.id = some id → id ∈ seen
    · rw [keptBehind_known hq, keptBehind_known hq]
      apply ih
      intro id hid
      rcases h id hid with hseen | ⟨p, hp, hpid⟩
      · exact .inl hseen
      · rcases List.mem_cons.1 hp with rfl | hp
        · exact .inl (hq id hpid)
        · exact .inr ⟨p, hp, hpid⟩
    · simp only [not_forall] at hq
      obtain ⟨i, hi, hnew⟩ := hq
      rw [keptBehind_new hi hnew, keptBehind_new hi hnew]
      refine congrArg (q.toNode i :: ·) (ih ?_)
      -- the ids seen from here on include that of the record just passed
      intro id hid
      rcases h id hid with hseen | ⟨p, hp, hpid⟩
      · exact .inl (List.mem_cons_of_mem _ hseen)
      · rcases List.mem_cons.1 hp with rfl | hp
        · exact .inl (Option.some.inj (hi.symm.trans hpid) ▸ List.mem_cons_self)
        · exact .inr ⟨p, hp, hpid⟩

def linksAmong (ids : List NodeId) (edges : List EdgeRecord) : List Link :=
  (edges.map (edgeFate ids)).filterMap EdgeFate.link?

theorem linksAmong_insert {ids : List NodeId} {before after : List EdgeRecord} {e : EdgeRecord}
    (h : (edgeFate ids e).link? = none) :
    linksAmong ids (before ++ e :: after) = linksAmong ids (before ++ after) := by
  simp only [linksAmong, List.map_append, List.map_cons, List.filterMap_append,
    List.filterMap_cons_none h]

/-- The nodes depend on the node records alone, and judge the edges. -/
theorem normalize_graph_eq (nodes : List NodeRecord) (edges : List EdgeRecord) :
    (normalize ⟨nodes, edges⟩).graph =
      ⟨keptBehind [] nodes, linksAmong ((keptBehind [] nodes).map Node.id) edges⟩ := rfl

theorem normalize_insert_node {before after : List NodeRecord} {edges : List EdgeRecord}
    {r : NodeRecord} (h : ∀ id, r.id = some id → ∃ q ∈ before, q.id = some id) :
    (normalize ⟨before ++ r :: after, edges⟩).graph =
      (normalize ⟨before ++ after, edges⟩).graph := by
  have hkept : keptBehind [] (before ++ r :: after) = keptBehind [] (before ++ after) :=
    keptBehind_insert fun id hid => .inr (h id hid)
  rw [normalize_graph_eq, normalize_graph_eq, hkept]

theorem normalize_insert_edge {nodes : List NodeRecord} {before after : List EdgeRecord}
    {e : EdgeRecord} (h : e.joins (normalize ⟨nodes, before ++ after⟩).graph = false) :
    (normalize ⟨nodes, before ++ e :: after⟩).graph =
      (normalize ⟨nodes, before ++ after⟩).graph := by
  have hlink := EdgeRecord.link?_edgeFate (normalize ⟨nodes, before ++ after⟩).graph e
  rw [h] at hlink
  have hlinks : linksAmong ((keptBehind [] nodes).map Node.id) (before ++ e :: after) =
      linksAmong ((keptBehind [] nodes).map Node.id) (before ++ after) :=
    linksAmong_insert (Option.map_eq_none_iff.1 hlink)
  rw [normalize_graph_eq, normalize_graph_eq, hlinks]

theorem PaddedTo.graph {a b : GraphRecords} (h : PaddedTo a b) :
    b.normalize.graph = a.normalize.graph := by
  cases h with
  | withoutId h =>
    refine normalize_insert_node fun id hid => ?_
    rw [h] at hid
    cases hid
  | repeated hq h => exact normalize_insert_node fun id hid => ⟨_, hq, h.symm.trans hid⟩
  | incomplete h =>
    apply normalize_insert_edge
    rcases h with h | h <;> simp [EdgeRecord.joins, h]
  | dangling hid h =>
    apply normalize_insert_edge
    rcases h with h | h <;> simp [EdgeRecord.joins, h, hid]

/-- Normalizing a normalized graph again changes nothing and drops nothing, and the graphs that it
leaves alone are exactly those it gives. However many records that cannot be drawn are put among the
others, the graph stays the same. -/
theorem normalize_settles (records : GraphRecords) :
    (ofGraph records.normalize.graph).normalize.graph = records.normalize.graph ∧
      (ofGraph records.normalize.graph).normalize.report = ⟨[], [], 0, 0⟩ ∧
      (∀ g, (ofGraph g).normalize.graph = g ↔ g.Normal) ∧
      ∀ padded, Relation.ReflTransGen PaddedTo records padded →
        padded.normalize.graph = records.normalize.graph := by
  obtain ⟨hgraph, hreport⟩ := normalize_ofGraph records.normalize_normal
  refine ⟨hgraph, hreport, fun g => normalize_ofGraph_eq_iff, fun padded hpadded => ?_⟩
  induction hpadded with
  | refl => rfl
  | tail _ hstep ih => exact hstep.graph.trans ih

def namelessNode : NodeRecord := ⟨some ⟨""⟩, none, some "", .functionDef, some "m.py", some 4⟩

def orphanNode : NodeRecord := ⟨none, some "orphan", none, .unknown, none, none⟩

def namesakeNode : NodeRecord := ⟨some ⟨""⟩, some "again", none, .classDef, none, none⟩

def namelessLoop : EdgeRecord := ⟨some ⟨""⟩, some ⟨""⟩⟩

def namelessRecords : GraphRecords := ⟨[namelessNode], [namelessLoop]⟩

def paddedRecords : GraphRecords :=
  ⟨[orphanNode, namelessNode, namesakeNode], [⟨some ⟨"z"⟩, some ⟨""⟩⟩, namelessLoop, ⟨none, none⟩]⟩

theorem namelessRecords_padded : Relation.ReflTransGen PaddedTo namelessRecords paddedRecords := by
  have hnowhere : (⟨"z"⟩ : NodeId) ∉
      (normalize ⟨paddedRecords.nodes, [namelessLoop, ⟨none, none⟩]⟩).graph.ids := by
    decide +kernel
  refine .head (@PaddedTo.withoutId [] [namelessNode] _ orphanNode rfl) ?_
  refine .head (@PaddedTo.repeated [orphanNode, namelessNode] [] _ namelessNode namesakeNode
    (List.mem_cons_of_mem _ List.mem_cons_self) rfl) ?_
  refine .head (@PaddedTo.incomplete _ [namelessLoop] [] ⟨none, none⟩ (.inl rfl)) ?_
  exact .single (@PaddedTo.dangling _ [] _ _ _ hnowhere (.inl rfl))

/-- The empty names of the nameless node are kept, however it is padded and written out again. -/
theorem nameless_node_settles :
    paddedRecords.normalize.graph =
        ⟨[⟨⟨""⟩, "", "", .functionDef, some "m.py:4"⟩], [⟨⟨""⟩, ⟨""⟩⟩]⟩ ∧
      (ofGraph paddedRecords.normalize.graph).normalize.graph = paddedRecords.normalize.graph ∧
      (ofGraph paddedRecords.normalize.graph).normalize.report.isClean = true := by
  obtain ⟨hgraph, hreport, -, -⟩ := normalize_settles paddedRecords
  obtain ⟨-, -, -, hpadded⟩ := normalize_settles namelessRecords
  refine ⟨?_, hgraph, ?_⟩
  · rw [hpadded paddedRecords namelessRecords_padded]
    decide +kernel
  · rw [hreport]
    rfl

end GraphRecords

end CodeGraph
