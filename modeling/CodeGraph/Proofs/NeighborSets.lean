import CodeGraph.Proofs.ViewBuild
import Mathlib.Data.Finset.Card
import Mathlib.Logic.Relation

namespace CodeGraph

def Link.reversed (l : Link) : Link := ⟨l.target, l.source⟩

namespace Graph

/-- Nodes or links in another order, a node with an id that is there already or a link once more, or
a link turned around. -/
inductive Reshuffled : Graph → Graph → Prop
  | nodes {ns ns' : List Node} {ls : List Link} (h : ns.Perm ns') : Reshuffled ⟨ns, ls⟩ ⟨ns', ls⟩
  | repeatNode {ns : List Node} {ls : List Link} {n : Node} (h : n.id ∈ ns.map Node.id) :
      Reshuffled ⟨ns, ls⟩ ⟨n :: ns, ls⟩
  | links {ns : List Node} {ls ls' : List Link} (h : ls.Perm ls') : Reshuffled ⟨ns, ls⟩ ⟨ns, ls'⟩
  | repeatLink {ns : List Node} {ls : List Link} {l : Link} (h : l ∈ ls) :
      Reshuffled ⟨ns, ls⟩ ⟨ns, l :: ls⟩
  | reverseLink {ns : List Node} {ls : List Link} {l : Link} :
      Reshuffled ⟨ns, l :: ls⟩ ⟨ns, l.reversed :: ls⟩

def Joined (g : Graph) (a b : NodeId) : Prop := ∃ l ∈ g.links, NeighborMap.Joins l a b

/-- The same ids, and the same of them joined. -/
structure SameJoins (g g' : Graph) : Prop where
  ids : ∀ id, id ∈ g.ids ↔ id ∈ g'.ids
  joined : ∀ a b, g.Joined a b ↔ g'.Joined a b

theorem SameJoins.symm {g g' : Graph} (h : g.SameJoins g') : g'.SameJoins g :=
  ⟨fun id => (h.ids id).symm, fun a b => (h.joined a b).symm⟩

theorem SameJoins.trans {g g' g'' : Graph} (h : g.SameJoins g') (h' : g'.SameJoins g'') :
    g.SameJoins g'' :=
  ⟨fun id => (h.ids id).trans (h'.ids id), fun a b => (h.joined a b).trans (h'.joined a b)⟩

theorem joins_reversed (l : Link) (a b : NodeId) :
    NeighborMap.Joins l.reversed a b ↔ NeighborMap.Joins l a b := by
  unfold NeighborMap.Joins Link.reversed
  grind

theorem joined_symm (g : Graph) (a b : NodeId) : g.Joined a b ↔ g.Joined b a := by
  simp only [Joined, NeighborMap.Joins, or_comm]

theorem joined_self (g : Graph) (a : NodeId) : g.Joined a a ↔ (⟨a, a⟩ : Link) ∈ g.links := by
  simp only [Joined, NeighborMap.Joins, or_self]
  constructor
  · rintro ⟨⟨source, target⟩, hl, hsource, htarget⟩
    cases hsource
    cases htarget
    exact hl
  · intro h
    exact ⟨_, h, rfl, rfl⟩

theorem Reshuffled.sameJoins {g g' : Graph} (h : Reshuffled g g') : g.SameJoins g' := by
  cases h with
  | nodes h => exact ⟨fun id => (h.map Node.id).mem_iff, fun a b => Iff.rfl⟩
  | repeatNode h =>
    refine ⟨fun id => ?_, fun a b => Iff.rfl⟩
    simp only [ids, List.map_cons, List.mem_cons]
    exact ⟨.inr, fun hid => hid.elim (fun he => he ▸ h) fun hmem => hmem⟩
  | links h =>
    refine ⟨fun id => Iff.rfl, fun a b => ?_⟩
    simp only [Joined, h.mem_iff]
  | repeatLink h =>
    refine ⟨fun id => Iff.rfl, fun a b => ?_⟩
    simp only [Joined, List.mem_cons, exists_eq_or_imp]
    exact ⟨.inr, fun hjoined => hjoined.elim (fun hl => ⟨_, h, hl⟩) fun hmem => hmem⟩
  | reverseLink =>
    refine ⟨fun id => Iff.rfl, fun a b => ?_⟩
    simp only [Joined, List.mem_cons, exists_eq_or_imp, joins_reversed]

theorem sameJoins_of_reshuffled {g g' : Graph} (h : Relation.EqvGen Reshuffled g g') :
    g.SameJoins g' := by
  induction h with
  | rel g g' h => exact h.sameJoins
  | refl g => exact ⟨fun _ => Iff.rfl, fun _ _ => Iff.rfl⟩
  | symm g g' _ ih => exact ih.symm
  | trans g g' g'' _ _ ih ih' => exact ih.trans ih'

end Graph

namespace NeighborMap

theorem distinct_nodup (ids : List NodeId) : (distinct ids).Nodup := by
  have hfold (ids seen : List NodeId) (hseen : seen.Nodup) :
      (ids.foldl (fun seen id => if id ∈ seen then seen else seen ++ [id]) seen).Nodup := by
    induction ids generalizing seen with
    | nil => exact hseen
    | cons id ids ih =>
      rw [List.foldl_cons]
      apply ih
      split
      · exact hseen
      · next hid => exact List.nodup_append_comm.2 (List.nodup_cons.2 ⟨hid, hseen⟩)
  exact hfold ids [] List.nodup_nil

theorem keys_addNeighbor (a b : NodeId) (entries : List (NodeId × List NodeId)) :
    (addNeighbor a b entries).map Prod.fst = entries.map Prod.fst := by
  rw [addNeighbor, List.map_map]
  refine List.map_congr_left fun e _ => ?_
  rw [Function.comp_apply]
  split <;> rfl

theorem keys_addLink (entries : List (NodeId × List NodeId)) (l : Link) :
    (addLink entries l).map Prod.fst = entries.map Prod.fst := by
  unfold addLink
  split
  · rw [keys_addNeighbor, keys_addNeighbor]
  · rfl

theorem keys_ofGraph (g : Graph) : (ofGraph g).entries.map Prod.fst = distinct g.ids := by
  have hfold (links : List Link) (entries : List (NodeId × List NodeId)) :
      (links.foldl addLink entries).map Prod.fst = entries.map Prod.fst := by
    induction links generalizing entries with
    | nil => rfl
    | cons l links ih => rw [List.foldl_cons, ih, keys_addLink]
  rw [ofGraph, hfold, List.map_map]
  exact List.map_id _

def SetsOnly (entries : List (NodeId × List NodeId)) : Prop := ∀ e ∈ entries, e.2.Nodup

theorem SetsOnly.addNeighbor {entries : List (NodeId × List NodeId)} (h : SetsOnly entries)
    (a b : NodeId) : SetsOnly (addNeighbor a b entries) := by
  intro e he
  obtain ⟨d, hd, rfl⟩ := List.mem_map.1 he
  have hd := h d hd
  split
  · split
    · exact hd
    · next hb => exact List.nodup_append_comm.2 (List.nodup_cons.2 ⟨hb, hd⟩)
  · exact hd

theorem SetsOnly.addLink {entries : List (NodeId × List NodeId)} (h : SetsOnly entries)
    (l : Link) : SetsOnly (addLink entries l) := by
  unfold NeighborMap.addLink
  split
  · exact (h.addNeighbor _ _).addNeighbor _ _
  · exact h

theorem ofGraph_setsOnly (g : Graph) : SetsOnly (ofGraph g).entries := by
  have hfold (links : List Link) (entries : List (NodeId × List NodeId)) (h : SetsOnly entries) :
      SetsOnly (links.foldl addLink entries) := by
    induction links generalizing entries with
    | nil => exact h
    | cons l links ih => exact ih _ (h.addLink l)
  apply hfold
  intro e he
  obtain ⟨id, -, rfl⟩ := List.mem_map.1 he
  exact List.nodup_nil

/-- An entry for each distinct id, and in it the set of the ids joined with it. -/
structure Describes (m : NeighborMap) (g : Graph) : Prop where
  entry : ∀ id, (m.neighbors? id).isSome = true ↔ id ∈ g.ids
  size : m.size = g.ids.toFinset.card
  neighbors : ∀ a ids, m.neighbors? a = some ids →
    ids.Nodup ∧ ∀ b, b ∈ ids ↔ b ∈ g.ids ∧ g.Joined a b

/-- Two maps that answer every question alike. The neighbours of an id are a set, so their order is
no answer. -/
structure Same (m m' : NeighborMap) : Prop where
  neighbors : ∀ id, Option.Rel List.Perm (m.neighbors? id) (m'.neighbors? id)
  adjacent : ∀ a b, m.adjacent a b = m'.adjacent a b
  size : m.size = m'.size
  isEmpty : m.isEmpty = m'.isEmpty

theorem ofGraph_describes (g : Graph) : (ofGraph g).Describes g where
  entry id := by
    rw [← hasEntry_eq, ofGraph, hasEntry_foldl, hasEntry_blank, mem_distinct]
  size := by
    have hset : (distinct g.ids).toFinset = g.ids.toFinset := by
      ext id
      simp
    calc (ofGraph g).size = ((ofGraph g).entries.map Prod.fst).length := (List.length_map _).symm
      _ = (distinct g.ids).length := by rw [keys_ofGraph]
      _ = (distinct g.ids).toFinset.card := (List.toFinset_card_of_nodup (distinct_nodup _)).symm
      _ = g.ids.toFinset.card := by rw [hset]
  neighbors a ids hids := by
    obtain ⟨e, he, rfl⟩ := Option.map_eq_some_iff.1 hids
    refine ⟨ofGraph_setsOnly g e (List.mem_of_find?_eq_some he), fun b => ?_⟩
    have ha : a ∈ g.ids := by
      rw [← mem_distinct, ← keys_ofGraph]
      have hkey : e.1 = a := by simpa using List.find?_some he
      exact hkey ▸ List.mem_map_of_mem (List.mem_of_find?_eq_some he)
    have hadjacent := adjacent_iff_mem (ofGraph g) a b
    rw [hids, adjacent_ofGraph] at hadjacent
    simpa [ha, Graph.Joined] using hadjacent.symm

theorem Describes.adjacent_iff {m : NeighborMap} {g : Graph} (h : m.Describes g) {a b : NodeId} :
    m.adjacent a b = true ↔ a ∈ g.ids ∧ b ∈ g.ids ∧ g.Joined a b := by
  rw [adjacent_iff_mem, ← h.entry, Option.isSome_iff_exists]
  constructor
  · rintro ⟨ids, hids, hb⟩
    exact ⟨⟨ids, hids⟩, ((h.neighbors a ids hids).2 b).1 hb⟩
  · rintro ⟨⟨ids, hids⟩, hb⟩
    exact ⟨ids, hids, ((h.neighbors a ids hids).2 b).2 hb⟩

/-- The ids and the joined pairs determine all answers. -/
theorem Describes.same {m m' : NeighborMap} {g g' : Graph} (h : m.Describes g)
    (h' : m'.Describes g') (hg : g.SameJoins g') : m.Same m' := by
  have hneighbors (id : NodeId) :
      Option.Rel List.Perm (m.neighbors? id) (m'.neighbors? id) := by
    have hentry : (m.neighbors? id).isSome = true ↔ (m'.neighbors? id).isSome = true := by
      rw [h.entry, h'.entry, hg.ids]
    cases hm : m.neighbors? id with
    | none =>
      cases hm' : m'.neighbors? id with
      | none => exact .none
      | some ids' => simp [hm, hm'] at hentry
    | some ids =>
      cases hm' : m'.neighbors? id with
      | none => simp [hm, hm'] at hentry
      | some ids' =>
        obtain ⟨hnodup, hmem⟩ := h.neighbors id ids hm
        obtain ⟨hnodup', hmem'⟩ := h'.neighbors id ids' hm'
        refine .some ((List.perm_ext_iff_of_nodup hnodup hnodup').2 fun b => ?_)
        rw [hmem, hmem', hg.ids, hg.joined]
  have hsize : m.size = m'.size := by
    rw [h.size, h'.size]
    congr 1
    ext id
    simp [hg.ids id]
  refine ⟨hneighbors, fun a b => ?_, hsize, ?_⟩
  · rw [Bool.eq_iff_iff, h.adjacent_iff, h'.adjacent_iff, hg.ids, hg.ids, hg.joined]
  · have hlength : m.entries.length = m'.entries.length := hsize
    rw [isEmpty, isEmpty, Bool.eq_iff_iff, List.isEmpty_iff_length_eq_zero,
      List.isEmpty_iff_length_eq_zero, hlength]

/-- The neighbours of every graph are the ids that its links join, in both directions, whatever else
is in it, and a view of it joins the same nodes. -/
theorem neighbors_follow_links {α β : Type} [Scalar α] [Scalar β] [Graded α β] (g : Graph)
    (sim : Simulation α β) (zoom : Zoom α) (width height : α) :
    (ofGraph g).Describes g ∧
      (∀ a b, (ofGraph g).adjacent a b = true ↔ a ∈ g.ids ∧ b ∈ g.ids ∧ g.Joined a b) ∧
      (∀ a b, (ofGraph g).adjacent a b = (ofGraph g).adjacent b a) ∧
      (∀ a, (ofGraph g).adjacent a a = true ↔ a ∈ g.ids ∧ (⟨a, a⟩ : Link) ∈ g.links) ∧
      (∀ g', Relation.EqvGen Graph.Reshuffled g g' → (ofGraph g).Same (ofGraph g')) ∧
      (∀ id, ((View.ofGraph g sim zoom width height).nodeIndex? id).isSome =
        ((ofGraph g).neighbors? id).isSome) ∧
      ∀ (i j : Nat) (n m : Node), (View.ofGraph g sim zoom width height).nodes[i]? = some n →
        (View.ofGraph g sim zoom width height).nodes[j]? = some m →
        ((ofGraph g).adjacent n.id m.id = true ↔
          (i, j) ∈ (View.ofGraph g sim zoom width height).edges ∨
            (j, i) ∈ (View.ofGraph g sim zoom width height).edges) := by
  have hg := ofGraph_describes g
  refine ⟨hg, fun a b => hg.adjacent_iff, fun a b => ?_, fun a => ?_, fun g' h => ?_, fun id => ?_,
    (View.ofGraph_coherent g sim zoom width height).adjacent⟩
  · rw [Bool.eq_iff_iff, hg.adjacent_iff, hg.adjacent_iff, Graph.joined_symm]
    exact and_left_comm
  · rw [hg.adjacent_iff, Graph.joined_self, and_self_left]
  · exact hg.same (ofGraph_describes g') (Graph.sameJoins_of_reshuffled h)
  · rw [Bool.eq_iff_iff, hg.entry, ← View.mem_nodesOf_ids, View.nodeIndex?, View.indexIn,
      List.findIdx?_isSome]
    simp

def bareNode (id : String) : Node := ⟨⟨id⟩, id, id, .unknown, none⟩

/-- Two nodes, one of them twice, with a link between them, one of a node with itself, and one that
leads nowhere. -/
def tangledGraph : Graph :=
  ⟨[bareNode "a", bareNode "b", bareNode "a"],
    [⟨⟨"a"⟩, ⟨"b"⟩⟩, ⟨⟨"b"⟩, ⟨"b"⟩⟩, ⟨⟨"a"⟩, ⟨"z"⟩⟩]⟩

def untangledGraph : Graph :=
  ⟨[bareNode "b", bareNode "a"], [⟨⟨"b"⟩, ⟨"a"⟩⟩, ⟨⟨"b"⟩, ⟨"b"⟩⟩, ⟨⟨"a"⟩, ⟨"z"⟩⟩]⟩

theorem tangledGraph_reshuffled :
    Relation.EqvGen Graph.Reshuffled tangledGraph untangledGraph := by
  have hback : Graph.Reshuffled
      ⟨untangledGraph.nodes, tangledGraph.links⟩ untangledGraph := .reverseLink
  have hagain : Graph.Reshuffled ⟨untangledGraph.nodes, tangledGraph.links⟩
      ⟨bareNode "a" :: untangledGraph.nodes, tangledGraph.links⟩ := .repeatNode (by decide)
  have horder : Graph.Reshuffled ⟨bareNode "a" :: untangledGraph.nodes, tangledGraph.links⟩
      tangledGraph := .nodes (by decide)
  exact .trans _ _ _ (.trans _ _ _ (.symm _ _ (.rel _ _ horder)) (.symm _ _ (.rel _ _ hagain)))
    (.rel _ _ hback)

/-- Both maps have two entries. In both the linked nodes are neighbours, of the nodes only the
second is its own, and the missing one is nobody's. -/
theorem tangled_neighbors :
    (ofGraph tangledGraph).Same (ofGraph untangledGraph) ∧ (ofGraph tangledGraph).size = 2 ∧
      (ofGraph tangledGraph).adjacent ⟨"b"⟩ ⟨"a"⟩ = true ∧
      (ofGraph tangledGraph).adjacent ⟨"b"⟩ ⟨"b"⟩ = true ∧
      (ofGraph tangledGraph).adjacent ⟨"a"⟩ ⟨"a"⟩ = false ∧
      (ofGraph tangledGraph).neighbors? ⟨"z"⟩ = none := by
  obtain ⟨hdescribes, -, hsymm, hself, hsame, -⟩ :=
    neighbors_follow_links tangledGraph (.standard : Simulation Float Float32) .standard 800 600
  have hone : (ofGraph tangledGraph).adjacent ⟨"a"⟩ ⟨"b"⟩ = true := by decide
  refine ⟨hsame _ tangledGraph_reshuffled, hdescribes.size.trans (by decide),
    (hsymm ⟨"b"⟩ ⟨"a"⟩).trans hone, (hself ⟨"b"⟩).2 (by decide), ?_, ?_⟩
  · rw [← Bool.not_eq_true, hself]
    decide
  · rw [← Option.not_isSome_iff_eq_none, hdescribes.entry]
    decide

end NeighborMap

end CodeGraph
