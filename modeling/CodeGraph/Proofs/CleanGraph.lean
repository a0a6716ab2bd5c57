import CodeGraph.Analysis.Session
import CodeGraph.Proofs.ViewBuild
import Mathlib.Data.List.Basic

namespace CodeGraph

structure Graph.Clean (g : Graph) : Prop where
  ids : g.ids.Nodup
  links : ∀ l ∈ g.links, l.source ∈ g.ids ∧ l.target ∈ g.ids

theorem Graph.node_at_idxOf {g : Graph} {id : NodeId} (h : id ∈ g.ids) :
    ∃ n, g.nodes[g.ids.idxOf id]? = some n ∧ n.id = id := by
  have hlt := List.idxOf_lt_length_of_mem h
  have hget : (g.nodes.map Node.id)[g.ids.idxOf id]? = some id := by
    rw [← Graph.ids, List.getElem?_eq_getElem hlt, List.getElem_idxOf hlt]
  rwa [List.getElem?_map, Option.map_eq_some_iff] at hget

theorem nodeFates_fresh (seen : List NodeId) (records : List NodeRecord) :
    View.Fresh seen (((nodeFates seen records).filterMap NodeFate.node?).map Node.id) := by
  fun_induction nodeFates seen records with
  | case1 => simp [View.Fresh]
  | case2 seen r rest h ih => rwa [List.filterMap_cons_none rfl]
  | case3 seen r rest id h hs ih => rwa [List.filterMap_cons_none rfl]
  | case4 seen r rest id h hs ih =>
    rw [List.filterMap_cons_some (rfl : NodeFate.node? (.kept (r.toNode id)) = some _)]
    exact View.fresh_cons.2 ⟨hs, ih⟩

theorem edgeFate_link? {ids : List NodeId} {e : EdgeRecord} {l : Link}
    (h : (edgeFate ids e).link? = some l) : l.source ∈ ids ∧ l.target ∈ ids := by
  unfold edgeFate at h
  split at h
  · split at h
    · next hmem =>
      cases h
      exact hmem
    · cases h
  · cases h

theorem GraphRecords.normalize_clean (records : GraphRecords) : records.normalize.graph.Clean where
  ids := View.fresh_nil_iff.1 (nodeFates_fresh [] records.nodes)
  links := by
    intro l hl
    obtain ⟨fate, hfate, hl⟩ := List.mem_filterMap.1 hl
    obtain ⟨e, -, rfl⟩ := List.mem_map.1 hfate
    exact edgeFate_link? hl

theorem Analysis.run_clean {server : String → Reply} {input : String} {g : Graph}
    (h : (Analysis.run server input).outcome.result = .ok g) : g.Clean := by
  unfold Analysis.run at h
  split at h
  · cases h
  · unfold understand at h
    split at h
    · cases h
    · split at h
      · cases h
      · next records _ =>
        cases h
        exact records.normalize_clean

theorem View.duplicateWarnings_eq_nil {seen : List NodeId} {ns : List Node}
    (hns : Fresh seen (ns.map Node.id)) : duplicateWarnings seen ns = [] := by
  fun_induction View.duplicateWarnings seen ns with
  | case1 => rfl
  | case2 seen n rest h => exact absurd h (fresh_cons.1 hns).1
  | case3 seen n rest h ih => exact ih (fresh_cons.1 hns).2

namespace Graph.Clean

variable {g : Graph} (hg : g.Clean)
include hg

theorem resolveLink {l : Link} (hl : l ∈ g.links) :
    View.resolveLink g.nodes l = some (g.ids.idxOf l.source, g.ids.idxOf l.target) := by
  have hindex {id : NodeId} (hid : id ∈ g.ids) :
      View.indexIn g.nodes id = some (g.ids.idxOf id) :=
    (View.indexIn_eq_some_iff hg.ids).2 (node_at_idxOf hid)
  exact View.resolveLink_eq_some_iff.2 ⟨hindex (hg.links l hl).1, hindex (hg.links l hl).2⟩

/-- Every link has an edge, between the places of its ends. -/
theorem filterMap_resolveLink :
    g.links.filterMap (View.resolveLink (View.nodesOf g)) =
      g.links.map fun l => (g.ids.idxOf l.source, g.ids.idxOf l.target) := by
  rw [View.nodesOf_eq_nodes hg.ids, List.filterMap_eq_map_iff_forall_eq_some]
  exact fun l hl => hg.resolveLink hl

/-- Building a view of a clean graph gives no warning. -/
theorem buildLog_level {line : LogLine} (hline : line ∈ View.buildLog g) : line.level ≠ .warn := by
  have hlinks : (g.links.filter fun l => (View.resolveLink (View.nodesOf g) l).isNone) = [] := by
    rw [View.nodesOf_eq_nodes hg.ids, List.filter_eq_nil_iff]
    intro l hl
    simp [hg.resolveLink hl]
  rw [View.buildLog, View.duplicateWarnings_eq_nil (View.fresh_nil_iff.2 hg.ids), ← View.nodesOf,
    hlinks, List.map_nil, List.nil_append, List.nil_append, List.mem_singleton] at hline
  rw [hline]
  exact Level.noConfusion

end Graph.Clean

end CodeGraph
