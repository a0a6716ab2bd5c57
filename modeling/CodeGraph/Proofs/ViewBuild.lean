import CodeGraph.Proofs.Adjacency
import CodeGraph.View.Basic

namespace CodeGraph.View

/-- Ids that are distinct, and none of them among those seen before. -/
def Fresh (seen ids : List NodeId) : Prop := ids.Nodup ∧ ∀ id ∈ ids, id ∉ seen

theorem fresh_cons {seen ids : List NodeId} {id : NodeId} :
    Fresh seen (id :: ids) ↔ id ∉ seen ∧ Fresh (id :: seen) ids := by
  simp only [Fresh, List.nodup_cons, List.mem_cons, forall_eq_or_imp, not_or]
  constructor
  · rintro ⟨⟨hid, hn⟩, hs, hall⟩
    exact ⟨hs, hn, fun j hj => ⟨fun he => hid (he ▸ hj), hall j hj⟩⟩
  · rintro ⟨hs, hn, hall⟩
    exact ⟨⟨fun hm => (hall id hm).1 rfl, hn⟩, hs, fun j hj => (hall j hj).2⟩

theorem fresh_nil_iff {ids : List NodeId} : Fresh [] ids ↔ ids.Nodup := by
  simp [Fresh]

theorem firstNodes_fresh (seen : List NodeId) (ns : List (Node × Nat)) :
    Fresh seen ((firstNodes seen ns).map fun p => p.1.id) := by
  fun_induction firstNodes seen ns with
  | case1 => simp [Fresh]
  | case2 seen n i rest h ih => exact ih
  | case3 seen n i rest h ih => exact fresh_cons.2 ⟨h, ih⟩

theorem mem_firstNodes_ids (seen : List NodeId) (ns : List (Node × Nat)) (id : NodeId) :
    id ∈ (firstNodes seen ns).map (fun p => p.1.id) ↔
      id ∈ ns.map (fun p => p.1.id) ∧ id ∉ seen := by
  fun_induction firstNodes seen ns with
  | case1 => simp
  | case2 seen n i rest h ih =>
    rw [ih, List.map_cons, List.mem_cons]
    constructor
    · rintro ⟨hid, hs⟩
      exact ⟨.inr hid, hs⟩
    · rintro ⟨rfl | hid, hs⟩
      · exact absurd h hs
      · exact ⟨hid, hs⟩
  | case3 seen n i rest h ih =>
    simp only [List.map_cons, List.mem_cons, ih]
    constructor
    · rintro (rfl | ⟨hid, hs⟩)
      · exact ⟨.inl rfl, h⟩
      · exact ⟨.inr hid, fun hm => hs (.inr hm)⟩
    · rintro ⟨rfl | hid, hs⟩
      · exact .inl rfl
      · by_cases he : id = n.id
        · exact .inl he
        · exact .inr ⟨hid, fun hm => hm.elim he hs⟩

theorem firstNodes_eq_self {seen : List NodeId} {ns : List (Node × Nat)}
    (hns : Fresh seen (ns.map fun p => p.1.id)) : firstNodes seen ns = ns := by
  fun_induction firstNodes seen ns with
  | case1 => rfl
  | case2 seen n i rest h => exact absurd h (fresh_cons.1 hns).1
  | case3 seen n i rest h ih => rw [ih (fresh_cons.1 hns).2]

/-- The nodes that a view of a graph has. -/
def nodesOf (g : Graph) : List Node := (firstNodes [] g.nodes.zipIdx).map Prod.fst

theorem zipIdx_ids (g : Graph) : (g.nodes.zipIdx.map fun p => p.1.id) = g.ids := by
  have h := congrArg (List.map Node.id) (List.zipIdx_map_fst 0 g.nodes)
  rwa [List.map_map] at h

theorem nodesOf_ids (g : Graph) :
    (nodesOf g).map Node.id = (firstNodes [] g.nodes.zipIdx).map fun p => p.1.id := by
  rw [nodesOf, List.map_map]
  rfl

theorem nodesOf_nodup (g : Graph) : ((nodesOf g).map Node.id).Nodup := by
  rw [nodesOf_ids]
  exact fresh_nil_iff.1 (firstNodes_fresh [] _)

theorem mem_nodesOf_ids (g : Graph) (id : NodeId) : id ∈ (nodesOf g).map Node.id ↔ id ∈ g.ids := by
  rw [nodesOf_ids, mem_firstNodes_ids, zipIdx_ids]
  simp

theorem nodesOf_eq_nodes {g : Graph} (h : g.ids.Nodup) : nodesOf g = g.nodes := by
  rw [nodesOf, firstNodes_eq_self (fresh_nil_iff.2 (by rwa [zipIdx_ids])), List.zipIdx_map_fst]

theorem indexIn_eq_some_iff {nodes : List Node} (hn : (nodes.map Node.id).Nodup) {id : NodeId}
    {i : Nat} : indexIn nodes id = some i ↔ ∃ n, nodes[i]? = some n ∧ n.id = id := by
  unfold indexIn
  rw [List.findIdx?_eq_some_iff_getElem]
  constructor
  · rintro ⟨hi, he, -⟩
    exact ⟨nodes[i], List.getElem?_eq_getElem hi, by simpa using he⟩
  · rintro ⟨n, hn', rfl⟩
    obtain ⟨hi, rfl⟩ := List.getElem?_eq_some_iff.1 hn'
    refine ⟨hi, by simp, fun j hj he => ?_⟩
    -- an earlier place with that id would be a second one
    have hij : (nodes.map Node.id)[j]? = (nodes.map Node.id)[i]? := by
      have hj' : j < nodes.length := by omega
      simpa [hi, hj'] using he
    have := (List.getElem?_inj (by simp; omega) hn).1 hij
    omega

theorem resolveLink_eq_some_iff {nodes : List Node} {l : Link} {e : Nat × Nat} :
    resolveLink nodes l = some e ↔
      indexIn nodes l.source = some e.1 ∧ indexIn nodes l.target = some e.2 := by
  unfold resolveLink
  obtain ⟨s, t⟩ := e
  cases indexIn nodes l.source <;> cases indexIn nodes l.target <;> simp

variable {α β : Type}

/-- What holds of the graph of a view whatever happens to the view. -/
structure Coherent (v : View α β) : Prop where
  ids : (v.nodes.map Node.id).Nodup
  bodies : v.layout.bodies.size = v.nodes.length
  edges : ∀ e ∈ v.edges, e.1 < v.nodes.length ∧ e.2 < v.nodes.length
  adjacent : ∀ (i j : Nat) (n m : Node), v.nodes[i]? = some n → v.nodes[j]? = some m →
    (v.neighbors.adjacent n.id m.id = true ↔ (i, j) ∈ v.edges ∨ (j, i) ∈ v.edges)

theorem addSpring_bodies (l : Layout β) (a b : Nat) : (l.addSpring a b).bodies = l.bodies := by
  unfold Layout.addSpring
  split <;> rfl

theorem addSprings_bodies (edges : List (Nat × Nat)) (l : Layout β) :
    (edges.foldl (fun l e => if e.1 = e.2 then l else l.addSpring e.1 e.2) l).bodies =
      l.bodies := by
  induction edges generalizing l with
  | nil => rfl
  | cons e edges ih =>
    rw [List.foldl_cons, ih]
    split
    · rfl
    · exact addSpring_bodies l e.1 e.2

variable [Scalar α] [Scalar β] [Graded α β]

variable (g : Graph) (sim : Simulation α β) (zoom : Zoom α) (width height : α)

@[simp] theorem ofGraph_nodes : (ofGraph g sim zoom width height).nodes = nodesOf g := rfl

@[simp] theorem ofGraph_edges :
    (ofGraph g sim zoom width height).edges = g.links.filterMap (resolveLink (nodesOf g)) := rfl

@[simp] theorem ofGraph_neighbors :
    (ofGraph g sim zoom width height).neighbors = .ofGraph g := rfl

theorem ofGraph_bodies :
    (ofGraph g sim zoom width height).layout.bodies =
      ((firstNodes [] g.nodes.zipIdx).map fun p =>
        let q : Point β := startPlace (α := α) (max g.nodes.length 1) p.2
        Body.atRest q.x q.y sim.mass).toArray :=
  addSprings_bodies _ _

theorem mem_ofGraph_edges {i j : Nat} {n m : Node} (hi : (nodesOf g)[i]? = some n)
    (hj : (nodesOf g)[j]? = some m) :
    (i, j) ∈ (ofGraph g sim zoom width height).edges ↔
      ∃ l ∈ g.links, l.source = n.id ∧ l.target = m.id := by
  simp only [ofGraph_edges, List.mem_filterMap, resolveLink_eq_some_iff,
    indexIn_eq_some_iff (nodesOf_nodup g), hi, hj, Option.some.injEq, exists_eq_left']
  simp only [eq_comm]

theorem ofGraph_coherent : (ofGraph g sim zoom width height).Coherent where
  ids := nodesOf_nodup g
  bodies := by simp [ofGraph_bodies, nodesOf]
  edges := by
    intro e he
    rw [ofGraph_edges] at he
    obtain ⟨l, -, hl⟩ := List.mem_filterMap.1 he
    rw [resolveLink_eq_some_iff, indexIn_eq_some_iff (nodesOf_nodup g),
      indexIn_eq_some_iff (nodesOf_nodup g)] at hl
    obtain ⟨⟨n, hn, -⟩, m, hm, -⟩ := hl
    exact ⟨(List.getElem?_eq_some_iff.1 hn).1, (List.getElem?_eq_some_iff.1 hm).1⟩
  adjacent := by
    intro i j n m hi hj
    have hn : n.id ∈ g.ids :=
      (mem_nodesOf_ids g _).1 (List.mem_map_of_mem (List.mem_of_getElem? hi))
    have hm : m.id ∈ g.ids :=
      (mem_nodesOf_ids g _).1 (List.mem_map_of_mem (List.mem_of_getElem? hj))
    rw [mem_ofGraph_edges g sim zoom width height hi hj,
      mem_ofGraph_edges g sim zoom width height hj hi, ofGraph_neighbors,
      NeighborMap.adjacent_ofGraph]
    simp only [hn, hm, true_and, NeighborMap.Joins]
    constructor
    · rintro ⟨l, hl, h | h⟩
      · exact .inl ⟨l, hl, h⟩
      · exact .inr ⟨l, hl, h⟩
    · rintro (⟨l, hl, h⟩ | ⟨l, hl, h⟩)
      · exact ⟨l, hl, .inl h⟩
      · exact ⟨l, hl, .inr h⟩

end CodeGraph.View
