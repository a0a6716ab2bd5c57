import CodeGraph.Proofs.ViewRun
import CodeGraph.Scene
import Mathlib.Data.List.Nodup

namespace CodeGraph

theorem View.Coherent.body_of_node {α β : Type} {v : View α β} (hv : v.Coherent) {i : Nat}
    {n : Node} (hn : v.nodes[i]? = some n) : ∃ b, v.layout.bodies[i]? = some b := by
  have hi : i < v.layout.bodies.size := hv.bodies ▸ (List.getElem?_eq_some_iff.1 hn).1
  exact ⟨_, Array.getElem?_eq_getElem hi⟩

namespace Scene

theorem getElem?_filterMap_of_isSome {γ δ : Type} {f : γ → Option δ} {l : List γ}
    (h : ∀ a ∈ l, (f a).isSome = true) (k : Nat) : (l.filterMap f)[k]? = l[k]?.bind f := by
  induction l generalizing k with
  | nil => simp
  | cons a l ih =>
    obtain ⟨b, hb⟩ := Option.isSome_iff_exists.1 (h a List.mem_cons_self)
    rw [List.filterMap_cons_some hb]
    cases k with
    | zero => exact hb.symm
    | succ k => exact ih (fun c hc => h c (List.mem_cons_of_mem _ hc)) k

variable {α β : Type} [Scalar α] [Graded α β]

def shapesInOrder (v : View α β) (theme : Theme α) : List (NodeShape α) :=
  (placedNodes v).map fun p => nodeShape v theme p.2 p.1.1 p.1.2

theorem build_nodes_perm (v : View α β) (theme : Theme α) :
    (build v theme).nodes.Perm (shapesInOrder v theme) := by
  have h := List.filter_append_perm (fun p => !raises v p.2) (placedNodes v)
  simp only [Bool.not_not] at h
  simp only [build, ← List.map_append, shapesInOrder]
  exact h.map _

theorem fill_of_mem_build {v : View α β} {theme : Theme α} {n : NodeShape α}
    (hn : n ∈ (build v theme).nodes) : n.fill = .gradient ↔ theme.gradient.isSome = true := by
  obtain ⟨p, -, rfl⟩ := List.mem_map.1 ((build_nodes_perm v theme).mem_iff.1 hn)
  cases h : theme.gradient.isSome <;> simp [nodeShape, h]

/-- What the shape `s` of edge `k` from node `e.1` to node `e.2` takes from the view and the theme.
-/
structure DrawsEdge (v : View α β) (theme : Theme α) (k : Nat) (e : Nat × Nat) (s : EdgeShape α) :
    Prop where
  source : v.position? e.1 = some s.source
  target : v.position? e.2 = some s.target
  sourceRadius : s.sourceRadius = styleRadius v theme e.1
  targetRadius : s.targetRadius = styleRadius v theme e.2
  highlighted : s.highlighted = (v.hover.isActive && v.hover.lightsEdge k)
  stroke : s.stroke = if s.highlighted then theme.edgeHighlightColor else theme.edgeColor
  arrow : s.arrow = theme.arrowheads

theorem edgeShape?_draws {v : View α β} {theme : Theme α} {k : Nat} {e : Nat × Nat}
    {s : EdgeShape α} (h : edgeShape? v theme k e = some s) : DrawsEdge v theme k e s := by
  simp only [edgeShape?, Option.bind_eq_bind, Option.bind_eq_some_iff, Option.pure_def,
    Option.some_inj] at h
  obtain ⟨source, hsource, target, htarget, rfl⟩ := h
  exact ⟨hsource, htarget, rfl, rfl, rfl, rfl, rfl⟩

theorem arrow_of_mem_build {v : View α β} {theme : Theme α} {e : EdgeShape α}
    (he : e ∈ (build v theme).edges) : e.arrow = theme.arrowheads := by
  obtain ⟨p, -, hshape⟩ := List.mem_filterMap.1 he
  exact (edgeShape?_draws hshape).arrow

variable {v : View α β} (hv : v.Coherent) (theme : Theme α)
include hv

theorem shapesInOrder_ids : (shapesInOrder v theme).map NodeShape.id = v.nodes.map Node.id := by
  have hfst : (v.nodes.zip v.layout.bodies.toList).map Prod.fst = v.nodes :=
    List.map_fst_zip (by simp [hv.bodies])
  calc (shapesInOrder v theme).map NodeShape.id
      = (((placedNodes v).map Prod.fst).map Prod.fst).map Node.id := by
        simp only [shapesInOrder, List.map_map]
        rfl
    _ = v.nodes.map Node.id := by rw [placedNodes, List.zipIdx_map_fst, hfst]

theorem build_ids_perm :
    ((build v theme).nodes.map NodeShape.id).Perm (v.nodes.map Node.id) :=
  shapesInOrder_ids hv theme ▸ (build_nodes_perm v theme).map _

/-- No two shapes of a scene have one id. -/
theorem node?_of_mem_build {s : NodeShape α} (hs : s ∈ (build v theme).nodes) :
    (build v theme).node? s.id = some s := by
  have hdistinct : ((build v theme).nodes.map NodeShape.id).Nodup :=
    (build_ids_perm hv theme).nodup_iff.2 hv.ids
  have hfound : ((build v theme).node? s.id).isSome = true :=
    List.find?_isSome.2 ⟨s, hs, by simp⟩
  obtain ⟨r, hr⟩ := Option.isSome_iff_exists.1 hfound
  have hid : r.id = s.id := by simpa using List.find?_some hr
  rw [hr, List.inj_on_of_nodup_map hdistinct (List.mem_of_find?_eq_some hr) hs hid]

/-- The shape that a scene has for the id of a node is that of the node. -/
theorem node?_build_eq {i : Nat} {n : Node} {b : Body β} (hn : v.nodes[i]? = some n)
    (hb : v.layout.bodies[i]? = some b) :
    (build v theme).node? n.id = some (nodeShape v theme i n b) := by
  have hmem : nodeShape v theme i n b ∈ (build v theme).nodes := by
    refine (build_nodes_perm v theme).mem_iff.2 (List.mem_map.2 ⟨((n, b), i), ?_, rfl⟩)
    rw [placedNodes, List.mem_zipIdx_iff_getElem?, List.getElem?_zip_eq_some]
    exact ⟨hn, by rw [Array.getElem?_toList, hb]⟩
  exact node?_of_mem_build hv theme hmem

/-- The shape that a scene has for the id of a node stands at the place of the node. -/
theorem node?_build {i : Nat} {n : Node} (hn : v.nodes[i]? = some n) :
    ∃ s, (build v theme).node? n.id = some s ∧ v.position? i = some s.center := by
  obtain ⟨b, hb⟩ := hv.body_of_node hn
  refine ⟨_, node?_build_eq hv theme hn hb, ?_⟩
  rw [View.position?, hb]
  rfl

theorem edgeShape?_isSome {e : Nat × Nat} (he : e ∈ v.edges) (k : Nat) :
    (edgeShape? v theme k e).isSome = true := by
  obtain ⟨hs, ht⟩ := hv.edges e he
  rw [← hv.bodies] at hs ht
  simp [edgeShape?, View.position?, Array.getElem?_eq_getElem hs, Array.getElem?_eq_getElem ht]

theorem edgeShapes_isSome :
    ∀ p ∈ v.edges.zipIdx, (edgeShape? v theme p.2 p.1).isSome = true :=
  fun p hp => edgeShape?_isSome hv theme (List.fst_mem_of_mem_zipIdx hp) p.2

theorem build_edges_length : (build v theme).edges.length = v.edges.length :=
  (List.filterMap_length_eq_length.2 (edgeShapes_isSome hv theme)).trans List.length_zipIdx

theorem getElem?_build_edges (k : Nat) :
    (build v theme).edges[k]? = v.edges[k]?.bind (edgeShape? v theme k) := by
  have h := getElem?_filterMap_of_isSome (edgeShapes_isSome hv theme) k
  rw [List.getElem?_zipIdx, Option.bind_map, Nat.zero_add] at h
  exact h

theorem build_edge_draws {k : Nat} {s : EdgeShape α} (h : (build v theme).edges[k]? = some s) :
    ∃ e, v.edges[k]? = some e ∧ DrawsEdge v theme k e s := by
  rw [getElem?_build_edges hv] at h
  obtain ⟨e, he, hshape⟩ := Option.bind_eq_some_iff.1 h
  exact ⟨e, he, edgeShape?_draws hshape⟩

/-- An edge shape joins the shapes of the nodes at the ends of its edge. -/
theorem edge_joins_shapes {k : Nat} {e : Nat × Nat} {n m : Node} (he : v.edges[k]? = some e)
    (hn : v.nodes[e.1]? = some n) (hm : v.nodes[e.2]? = some m) :
    ∃ shape s t, (build v theme).edges[k]? = some shape ∧
      (build v theme).node? n.id = some s ∧ (build v theme).node? m.id = some t ∧
      shape.source = s.center ∧ shape.target = t.center := by
  obtain ⟨s, hs, hsource⟩ := node?_build hv theme hn
  obtain ⟨t, ht, htarget⟩ := node?_build hv theme hm
  have hshape := getElem?_build_edges hv theme k
  rw [he, Option.bind_some, edgeShape?, hsource, htarget] at hshape
  exact ⟨_, s, t, hshape, hs, ht, rfl, rfl⟩

end Scene

end CodeGraph
