import CodeGraph.Graph.Normalize
import Mathlib.Data.List.Forall2

namespace CodeGraph

/-- Each record with those that stand before it. -/
def withPast (rs : List NodeRecord) : List (List NodeRecord × NodeRecord) :=
  rs.zipIdx.map fun (r, i) => (rs.take i, r)

/-- The record has an id, and no record before it has the same one. -/
def NodeRecord.IsFirst (past : List NodeRecord) (r : NodeRecord) : Prop :=
  r.id ≠ none ∧ ∀ q ∈ past, q.id ≠ r.id

instance (past : List NodeRecord) (r : NodeRecord) : Decidable (r.IsFirst past) :=
  inferInstanceAs (Decidable (_ ∧ _))

def firstRecords (rs : List NodeRecord) : List NodeRecord :=
  ((withPast rs).filter fun e => decide (e.2.IsFirst e.1)).map Prod.snd

def laterRecords (rs : List NodeRecord) : List NodeRecord :=
  ((withPast rs).filter fun e => !decide (e.2.IsFirst e.1)).map Prod.snd

/-- What a node takes from its record. -/
structure Node.Shows (n : Node) (r : NodeRecord) : Prop where
  id : r.id = some n.id
  label : ∀ l, r.label = some l → l ≠ "" → n.label = l
  noLabel : r.label = none ∨ r.label = some "" → n.label = n.id.text
  fqname : ∀ q, r.fqname = some q → q ≠ "" → n.fqname = q
  noFqname : r.fqname = none ∨ r.fqname = some "" → n.fqname = n.label
  kind : n.kind = r.kind
  fileAndLine : ∀ f k, r.file = some f → r.line = some k →
    n.location = some (f ++ ":" ++ toString k)
  file : ∀ f, r.file = some f → r.line = none → n.location = some f
  noFile : r.file = none → n.location = none

def NodeRecord.dropWarning (r : NodeRecord) : LogLine :=
  match r.id with
  | none => ⟨.warn, "dropping node without id (label " ++ Text.quoted (r.label.getD "") ++ ")"⟩
  | some id => ⟨.warn, "dropping duplicate node " ++ id.text⟩

namespace EdgeRecord

def between (source target : NodeId) : EdgeRecord := ⟨some source, some target⟩

def isComplete (e : EdgeRecord) : Bool := e.source.isSome && e.target.isSome

def joins (g : Graph) (e : EdgeRecord) : Bool :=
  (e.source.any fun s => decide (s ∈ g.ids)) && e.target.any fun t => decide (t ∈ g.ids)

def dropWarning (e : EdgeRecord) : LogLine :=
  match e.source, e.target with
  | some s, some t => ⟨.warn, "dropping dangling link " ++ s.text ++ " -> " ++ t.text⟩
  | _, _ => ⟨.warn, "dropping link with a missing endpoint"⟩

end EdgeRecord

/-- Where each of the records went, with the order and the number of those that went each way. -/
structure Normalized.AccountsFor (n : Normalized) (records : GraphRecords) : Prop where
  /-- The nodes are the first records of their ids, one for one. -/
  nodes : List.Forall₂ Node.Shows n.graph.nodes (firstRecords records.nodes)
  links : n.graph.links.map (fun l => EdgeRecord.between l.source l.target) =
    records.edges.filter fun e => e.joins n.graph
  duplicateNodes : n.report.duplicateNodes.map some =
    ((laterRecords records.nodes).filter fun r => r.id.isSome).map NodeRecord.id
  danglingLinks : n.report.danglingLinks.map (fun l => EdgeRecord.between l.1 l.2) =
    records.edges.filter fun e => e.isComplete && !e.joins n.graph
  malformedNodes : n.report.malformedNodes = records.nodes.countP fun r => r.id.isNone
  malformedLinks : n.report.malformedLinks = records.edges.countP fun e => !e.isComplete
  nodeCount : n.graph.nodes.length + n.report.duplicateNodes.length + n.report.malformedNodes =
    records.nodes.length
  linkCount : n.graph.links.length + n.report.danglingLinks.length + n.report.malformedLinks =
    records.edges.length
  /-- The report is clean exactly if nothing was dropped. -/
  clean : n.report.isClean = true ↔
    n.graph.nodes.length = records.nodes.length ∧ n.graph.links.length = records.edges.length
  /-- One warning for each record that was dropped, nodes before edges, and then the summary. -/
  log : n.log =
    (laterRecords records.nodes).map NodeRecord.dropWarning ++
    (records.edges.filter fun e => !e.joins n.graph).map EdgeRecord.dropWarning ++
    [⟨.info, "normalized graph: " ++ toString n.graph.nodes.length ++ " nodes, " ++
      toString n.graph.links.length ++ " links (" ++
      toString n.report.duplicateNodes.length ++ " duplicates, " ++
      toString n.report.danglingLinks.length ++ " dangling, " ++
      toString (n.report.malformedNodes + n.report.malformedLinks) ++ " malformed dropped)"⟩]

theorem withPast_cons (r : NodeRecord) (rs : List NodeRecord) :
    withPast (r :: rs) = ([], r) :: (withPast rs).map fun e => (r :: e.1, e.2) := by
  simp [withPast, List.zipIdx_cons, List.zipIdx_succ, List.map_map, Function.comp_def]

/-- The fate of a record behind others. -/
def NodeRecord.fateAfter (past : List NodeRecord) (r : NodeRecord) : NodeFate :=
  match r.id with
  | none => .withoutId (r.label.getD "")
  | some id => if r.IsFirst past then .kept (r.toNode id) else .repeated id

/-- The ids that the loop has seen are those of the records it has passed. -/
theorem nodeFates_eq_fateAfter {seen : List NodeId} {past rs : List NodeRecord}
    (hseen : ∀ id, id ∈ seen ↔ ∃ q ∈ past, q.id = some id) :
    nodeFates seen rs = (withPast rs).map fun e => e.2.fateAfter (past ++ e.1) := by
  induction rs generalizing seen past with
  | nil => rfl
  | cons r rs ih =>
    have hpast (e : List NodeRecord × NodeRecord) :
        e.2.fateAfter (past ++ r :: e.1) = e.2.fateAfter ((past ++ [r]) ++ e.1) := by
      rw [List.append_assoc, List.singleton_append]
    rw [withPast_cons, List.map_cons, List.map_map, List.append_nil]
    simp only [Function.comp_def, hpast]
    cases hid : r.id with
    | none =>
      have hnext : ∀ id, id ∈ seen ↔ ∃ q ∈ past ++ [r], q.id = some id := by
        intro id
        simp [hseen id, hid]
      rw [← ih hnext]
      simp [nodeFates, NodeRecord.fateAfter, hid]
    | some id =>
      have hfirst : r.IsFirst past ↔ id ∉ seen := by
        simp [NodeRecord.IsFirst, hid, hseen id]
      by_cases hmem : id ∈ seen
      · have hnext : ∀ i, i ∈ seen ↔ ∃ q ∈ past ++ [r], q.id = some i := by
          intro i
          rw [hseen i]
          constructor
          · intro ⟨q, hq, hi⟩
            exact ⟨q, List.mem_append_left _ hq, hi⟩
          · intro ⟨q, hq, hi⟩
            rcases List.mem_append.1 hq with hq | hq
            · exact ⟨q, hq, hi⟩
            · -- the new record repeats an id, so that an earlier one has it as well
              rw [List.mem_singleton.1 hq, hid] at hi
              exact Option.some.inj hi ▸ (hseen id).1 hmem
        rw [← ih hnext]
        simp [nodeFates, NodeRecord.fateAfter, hid, hfirst, hmem]
      · have hnext : ∀ i, i ∈ id :: seen ↔ ∃ q ∈ past ++ [r], q.id = some i := by
          intro i
          rw [List.mem_cons, hseen i]
          simp only [List.mem_append, List.mem_singleton, or_and_right, exists_or, exists_eq_left,
            hid, Option.some.injEq]
          rw [or_comm, eq_comm]
        rw [← ih hnext]
        simp [nodeFates, NodeRecord.fateAfter, hid, hfirst, hmem]

theorem nodeFates_nil (rs : List NodeRecord) :
    nodeFates [] rs = (withPast rs).map fun e => e.2.fateAfter e.1 := by
  have hseen : ∀ id, id ∈ ([] : List NodeId) ↔ ∃ q ∈ ([] : List NodeRecord), q.id = some id := by
    simp
  exact nodeFates_eq_fateAfter hseen

theorem nonEmpty?_of_ne {s : String} (h : s ≠ "") : nonEmpty? (some s) = some s := by
  have hs : s.isEmpty = false := by simpa using h
  simp [nonEmpty?, Option.filter, hs]

theorem nonEmpty?_of_blank {s : Option String} (h : s = none ∨ s = some "") :
    nonEmpty? s = none := by
  rcases h with rfl | rfl
  · rfl
  · rfl

namespace NodeRecord

variable {past : List NodeRecord} {r : NodeRecord}

theorem toNode_shows {id : NodeId} (hid : r.id = some id) : (r.toNode id).Shows r where
  id := hid
  label := by
    intro l hl hne
    simp [toNode, hl, nonEmpty?_of_ne hne]
  noLabel := by
    intro h
    simp [toNode, nonEmpty?_of_blank h]
  fqname := by
    intro q hq hne
    simp [toNode, hq, nonEmpty?_of_ne hne]
  noFqname := by
    intro h
    simp [toNode, nonEmpty?_of_blank h]
  kind := rfl
  fileAndLine := by
    intro f k hf hk
    simp [toNode, hf, hk]
  file := by
    intro f hf hk
    simp [toNode, hf, hk]
  noFile := by
    intro hf
    simp [toNode, hf]

theorem node?_fateAfter_of_isFirst (h : r.IsFirst past) :
    ∃ n, (r.fateAfter past).node? = some n ∧ n.Shows r := by
  obtain ⟨id, hid⟩ := Option.ne_none_iff_exists'.1 h.1
  exact ⟨r.toNode id, by simp [fateAfter, hid, h, NodeFate.node?], toNode_shows hid⟩

theorem node?_fateAfter_of_not_isFirst (h : ¬r.IsFirst past) :
    (r.fateAfter past).node? = none := by
  cases hid : r.id <;> simp [fateAfter, hid, h, NodeFate.node?]

theorem repeated?_fateAfter (past : List NodeRecord) (r : NodeRecord) :
    (r.fateAfter past).repeated?.map some =
      if r.id.isSome && !decide (r.IsFirst past) then some r.id else none := by
  cases hid : r.id with
  | none => simp [fateAfter, hid, NodeFate.repeated?]
  | some id => by_cases h : r.IsFirst past <;> simp [fateAfter, hid, h, NodeFate.repeated?]

theorem isWithoutId_fateAfter (past : List NodeRecord) (r : NodeRecord) :
    (r.fateAfter past).isWithoutId = r.id.isNone := by
  cases hid : r.id with
  | none => simp [fateAfter, hid, NodeFate.isWithoutId]
  | some id => by_cases h : r.IsFirst past <;> simp [fateAfter, hid, h, NodeFate.isWithoutId]

theorem warning?_fateAfter (past : List NodeRecord) (r : NodeRecord) :
    (r.fateAfter past).warning? =
      if !decide (r.IsFirst past) then some r.dropWarning else none := by
  cases hid : r.id with
  | none =>
    have h : ¬r.IsFirst past := fun h => h.1 hid
    simp [fateAfter, dropWarning, hid, h, NodeFate.warning?]
  | some id =>
    by_cases h : r.IsFirst past <;> simp [fateAfter, dropWarning, hid, h, NodeFate.warning?]

end NodeRecord

namespace EdgeRecord

variable (g : Graph) (e : EdgeRecord)

theorem link?_edgeFate :
    (edgeFate g.ids e).link?.map (fun l => between l.source l.target) =
      if e.joins g then some e else none := by
  obtain ⟨_ | s, _ | t⟩ := e
  · rfl
  · rfl
  · simp [edgeFate, EdgeFate.link?, joins]
  · by_cases h : s ∈ g.ids ∧ t ∈ g.ids <;> simp [edgeFate, EdgeFate.link?, joins, between, h]

theorem dangling?_edgeFate :
    (edgeFate g.ids e).dangling?.map (fun l => between l.1 l.2) =
      if e.isComplete && !e.joins g then some e else none := by
  obtain ⟨_ | s, _ | t⟩ := e
  · rfl
  · rfl
  · rfl
  · by_cases h : s ∈ g.ids ∧ t ∈ g.ids <;>
      simp [edgeFate, EdgeFate.dangling?, isComplete, joins, between, h]

theorem isIncomplete_edgeFate : (edgeFate g.ids e).isIncomplete = !e.isComplete := by
  obtain ⟨_ | s, _ | t⟩ := e
  · rfl
  · rfl
  · rfl
  · by_cases h : s ∈ g.ids ∧ t ∈ g.ids <;> simp [edgeFate, EdgeFate.isIncomplete, isComplete, h]

theorem warning?_edgeFate :
    (edgeFate g.ids e).warning? = if !e.joins g then some e.dropWarning else none := by
  obtain ⟨_ | s, _ | t⟩ := e
  · rfl
  · rfl
  · simp [edgeFate, EdgeFate.warning?, joins, dropWarning]
  · by_cases h : s ∈ g.ids ∧ t ∈ g.ids <;>
      simp [edgeFate, EdgeFate.warning?, joins, dropWarning, h]

end EdgeRecord

theorem filterMap_eq_map_filter {α γ : Type} {f : α → Option γ} {p : α → Bool} {h : α → γ}
    (hf : ∀ a, f a = if p a then some (h a) else none) (l : List α) :
    l.filterMap f = (l.filter p).map h := by
  rw [← List.filterMap_eq_map, List.filterMap_filter]
  exact List.filterMap_congr fun a _ => hf a

/-- Three ways out that exclude each other and leave nothing over. -/
theorem length_of_classes {α β γ : Type} {f : α → Option β} {g : α → Option γ} {p : α → Bool}
    (h : ∀ a, (f a).isSome.toNat + (g a).isSome.toNat + (p a).toNat = 1) (l : List α) :
    (l.filterMap f).length + (l.filterMap g).length + l.countP p = l.length := by
  have hone (b : Bool) : (if b = true then 1 else 0) = b.toNat := by cases b <;> rfl
  simp only [List.length_filterMap_eq_countP]
  induction l with
  | nil => rfl
  | cons a l ih =>
    have ha := h a
    simp only [List.countP_cons, List.length_cons, hone]
    omega

theorem NodeFate.classes (f : NodeFate) :
    f.node?.isSome.toNat + f.repeated?.isSome.toNat + f.isWithoutId.toNat = 1 := by
  cases f <;> rfl

theorem EdgeFate.classes (f : EdgeFate) :
    f.link?.isSome.toNat + f.dangling?.isSome.toNat + f.isIncomplete.toNat = 1 := by
  cases f <;> rfl

theorem length_withPast (rs : List NodeRecord) : (withPast rs).length = rs.length := by
  simp [withPast]

theorem map_snd_withPast (rs : List NodeRecord) : (withPast rs).map Prod.snd = rs := by
  simp [withPast, Function.comp_def]

/-- The nodes that are kept show the first records, one for one. -/
theorem forall₂_shows_firstRecords (rs : List NodeRecord) :
    List.Forall₂ Node.Shows ((nodeFates [] rs).filterMap NodeFate.node?) (firstRecords rs) := by
  rw [nodeFates_nil, List.filterMap_map, firstRecords, List.forall₂_map_right_iff]
  induction withPast rs with
  | nil => exact .nil
  | cons e l ih =>
    by_cases h : e.2.IsFirst e.1
    · obtain ⟨n, hn, hshows⟩ := NodeRecord.node?_fateAfter_of_isFirst h
      rw [List.filterMap_cons_some (by exact hn), List.filter_cons_of_pos (by simpa using h)]
      exact .cons hshows ih
    · have hn := NodeRecord.node?_fateAfter_of_not_isFirst h
      rw [List.filterMap_cons_none (by exact hn), List.filter_cons_of_neg (by simpa using h)]
      exact ih

namespace GraphRecords

variable (records : GraphRecords)

/-- What becomes of the edge records, judged by the nodes of the finished graph. -/
def edgeFates : List EdgeFate := records.edges.map (edgeFate records.normalize.graph.ids)

theorem normalize_links :
    records.normalize.graph.links.map (fun l => EdgeRecord.between l.source l.target) =
      records.edges.filter fun e => e.joins records.normalize.graph := by
  have hlinks : records.normalize.graph.links = records.edgeFates.filterMap EdgeFate.link? := rfl
  rw [hlinks, edgeFates, List.map_filterMap, List.filterMap_map]
  exact (filterMap_eq_map_filter (EdgeRecord.link?_edgeFate _) _).trans (List.map_id' _)

theorem normalize_danglingLinks :
    records.normalize.report.danglingLinks.map (fun l => EdgeRecord.between l.1 l.2) =
      records.edges.filter fun e => e.isComplete && !e.joins records.normalize.graph := by
  have hlinks : records.normalize.report.danglingLinks =
      records.edgeFates.filterMap EdgeFate.dangling? := rfl
  rw [hlinks, edgeFates, List.map_filterMap, List.filterMap_map]
  exact (filterMap_eq_map_filter (EdgeRecord.dangling?_edgeFate _) _).trans (List.map_id' _)

theorem normalize_malformedLinks :
    records.normalize.report.malformedLinks = records.edges.countP fun e => !e.isComplete := by
  have hlinks : records.normalize.report.malformedLinks =
      records.edgeFates.countP EdgeFate.isIncomplete := rfl
  rw [hlinks, edgeFates, List.countP_map]
  congr 1
  funext e
  exact EdgeRecord.isIncomplete_edgeFate _ e

theorem normalize_duplicateNodes :
    records.normalize.report.duplicateNodes.map some =
      ((laterRecords records.nodes).filter fun r => r.id.isSome).map NodeRecord.id := by
  have hnodes : records.normalize.report.duplicateNodes =
      (nodeFates [] records.nodes).filterMap NodeFate.repeated? := rfl
  rw [hnodes, nodeFates_nil, List.map_filterMap, List.filterMap_map, laterRecords, List.filter_map,
    List.filter_filter, List.map_map]
  exact filterMap_eq_map_filter (fun e => NodeRecord.repeated?_fateAfter e.1 e.2) _

theorem normalize_malformedNodes :
    records.normalize.report.malformedNodes = records.nodes.countP fun r => r.id.isNone := by
  have hnodes : records.normalize.report.malformedNodes =
      (nodeFates [] records.nodes).countP NodeFate.isWithoutId := rfl
  have hall : records.nodes.countP (fun r => r.id.isNone) =
      (withPast records.nodes).countP fun e => e.2.id.isNone := by
    conv_lhs => rw [← map_snd_withPast records.nodes]
    rw [List.countP_map]
    rfl
  rw [hnodes, hall, nodeFates_nil, List.countP_map]
  congr 1
  funext e
  exact NodeRecord.isWithoutId_fateAfter e.1 e.2

theorem normalize_log :
    records.normalize.log =
      (laterRecords records.nodes).map NodeRecord.dropWarning ++
      (records.edges.filter fun e => !e.joins records.normalize.graph).map EdgeRecord.dropWarning ++
      [normalizedSummary records.normalize.graph records.normalize.report] := by
  have hlog : records.normalize.log =
      (nodeFates [] records.nodes).filterMap NodeFate.warning? ++
      records.edgeFates.filterMap EdgeFate.warning? ++
      [normalizedSummary records.normalize.graph records.normalize.report] := rfl
  have hnodes : (nodeFates [] records.nodes).filterMap NodeFate.warning? =
      (laterRecords records.nodes).map NodeRecord.dropWarning := by
    rw [nodeFates_nil, List.filterMap_map, laterRecords, List.map_map]
    exact filterMap_eq_map_filter (fun e => NodeRecord.warning?_fateAfter e.1 e.2) _
  have hedges : records.edgeFates.filterMap EdgeFate.warning? =
      (records.edges.filter fun e => !e.joins records.normalize.graph).map
        EdgeRecord.dropWarning := by
    rw [edgeFates, List.filterMap_map]
    exact filterMap_eq_map_filter (EdgeRecord.warning?_edgeFate _) _
  rw [hlog, hnodes, hedges]

theorem normalize_node_count :
    records.normalize.graph.nodes.length + records.normalize.report.duplicateNodes.length +
      records.normalize.report.malformedNodes = records.nodes.length := by
  have h := length_of_classes NodeFate.classes (nodeFates [] records.nodes)
  have hlen : (nodeFates [] records.nodes).length = records.nodes.length := by
    rw [nodeFates_nil, List.length_map, length_withPast]
  exact h.trans hlen

theorem normalize_link_count :
    records.normalize.graph.links.length + records.normalize.report.danglingLinks.length +
      records.normalize.report.malformedLinks = records.edges.length :=
  (length_of_classes EdgeFate.classes records.edgeFates).trans (List.length_map _)

/-- A clean report says that every record is in the graph. -/
theorem normalize_isClean_iff :
    records.normalize.report.isClean = true ↔
      records.normalize.graph.nodes.length = records.nodes.length ∧
        records.normalize.graph.links.length = records.edges.length := by
  have hnodes := records.normalize_node_count
  have hlinks := records.normalize_link_count
  simp only [DropReport.isClean, Bool.and_eq_true, beq_iff_eq, List.isEmpty_iff_length_eq_zero]
  omega

/-- Every record is in the graph, or in the report with its warning in the log. -/
theorem normalize_accounts_for_records : records.normalize.AccountsFor records where
  nodes := forall₂_shows_firstRecords records.nodes
  links := records.normalize_links
  duplicateNodes := records.normalize_duplicateNodes
  danglingLinks := records.normalize_danglingLinks
  malformedNodes := records.normalize_malformedNodes
  malformedLinks := records.normalize_malformedLinks
  nodeCount := records.normalize_node_count
  linkCount := records.normalize_link_count
  clean := records.normalize_isClean_iff
  log := records.normalize_log

end GraphRecords

end CodeGraph
