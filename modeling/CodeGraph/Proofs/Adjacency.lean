import CodeGraph.Graph.Basic

namespace CodeGraph.NeighborMap

/-- The link leads from one of the two ids to the other. -/
def Joins (l : Link) (a b : NodeId) : Prop :=
  (l.source = a ∧ l.target = b) ∨ (l.source = b ∧ l.target = a)

theorem mem_foldl_distinct (ids seen : List NodeId) (id : NodeId) :
    id ∈ ids.foldl (fun seen id => if id ∈ seen then seen else seen ++ [id]) seen ↔
      id ∈ seen ∨ id ∈ ids := by
  induction ids generalizing seen with
  | nil => simp
  | cons a ids ih =>
    rw [List.foldl_cons, ih]
    by_cases ha : a ∈ seen
    · simp only [if_pos ha, List.mem_cons]
      constructor
      · rintro (h | h)
        · exact .inl h
        · exact .inr (.inr h)
      · rintro (h | rfl | h)
        · exact .inl h
        · exact .inl ha
        · exact .inr h
    · simp [ha, or_assoc]

@[simp] theorem mem_distinct (ids : List NodeId) (id : NodeId) : id ∈ distinct ids ↔ id ∈ ids := by
  simp [distinct, mem_foldl_distinct]

/-- Adding a neighbour changes one entry and makes none. -/
theorem neighbors?_addNeighbor (a b id : NodeId) (entries : List (NodeId × List NodeId)) :
    neighbors? ⟨addNeighbor a b entries⟩ id =
      (neighbors? ⟨entries⟩ id).map fun ids =>
        if id = a then (if b ∈ ids then ids else ids ++ [b]) else ids := by
  induction entries with
  | nil => rfl
  | cons e rest ih =>
    have hkey : (if e.1 = a then (e.1, if b ∈ e.2 then e.2 else e.2 ++ [b]) else e).1 = e.1 := by
      split <;> rfl
    simp only [neighbors?, addNeighbor, List.map_cons, List.find?_cons, hkey] at ih ⊢
    by_cases he : e.1 = id
    · subst he
      by_cases ha : e.1 = a <;> simp [ha]
    · simpa [he] using ih

theorem hasEntry_eq (entries : List (NodeId × List NodeId)) (id : NodeId) :
    hasEntry entries id = (neighbors? ⟨entries⟩ id).isSome := by
  rw [neighbors?, Option.isSome_map, List.isSome_find?, hasEntry]

theorem hasEntry_addNeighbor (a b id : NodeId) (entries : List (NodeId × List NodeId)) :
    hasEntry (addNeighbor a b entries) id = hasEntry entries id := by
  simp [hasEntry_eq, neighbors?_addNeighbor]

theorem hasEntry_addLink (entries : List (NodeId × List NodeId)) (l : Link) (id : NodeId) :
    hasEntry (addLink entries l) id = hasEntry entries id := by
  unfold addLink
  split
  · rw [hasEntry_addNeighbor, hasEntry_addNeighbor]
  · rfl

theorem adjacent_iff_mem (m : NeighborMap) (a b : NodeId) :
    m.adjacent a b = true ↔ ∃ ids, m.neighbors? a = some ids ∧ b ∈ ids := by
  unfold adjacent
  cases m.neighbors? a <;> simp

theorem adjacent_addNeighbor (a b c d : NodeId) (entries : List (NodeId × List NodeId)) :
    adjacent ⟨addNeighbor a b entries⟩ c d = true ↔
      adjacent ⟨entries⟩ c d = true ∨ (hasEntry entries a = true ∧ c = a ∧ d = b) := by
  simp only [adjacent_iff_mem, neighbors?_addNeighbor, hasEntry_eq]
  by_cases hc : c = a
  · subst hc
    cases neighbors? ⟨entries⟩ c with
    | none => simp
    | some ids =>
      by_cases hb : b ∈ ids
      · simp [hb]
        grind
      · simp [hb]
  · cases neighbors? ⟨entries⟩ c <;> simp [hc]

theorem adjacent_addLink (entries : List (NodeId × List NodeId)) (l : Link) (a b : NodeId) :
    adjacent ⟨addLink entries l⟩ a b = true ↔
      adjacent ⟨entries⟩ a b = true ∨
        (hasEntry entries a = true ∧ hasEntry entries b = true ∧ Joins l a b) := by
  unfold addLink Joins
  split
  · next h =>
    rw [Bool.and_eq_true] at h
    rw [adjacent_addNeighbor, adjacent_addNeighbor, hasEntry_addNeighbor]
    grind
  · next h =>
    rw [Bool.and_eq_true] at h
    grind

theorem adjacent_foldl (links : List Link) (entries : List (NodeId × List NodeId)) (a b : NodeId) :
    adjacent ⟨links.foldl addLink entries⟩ a b = true ↔
      adjacent ⟨entries⟩ a b = true ∨
        (hasEntry entries a = true ∧ hasEntry entries b = true ∧ ∃ l ∈ links, Joins l a b) := by
  induction links generalizing entries with
  | nil => simp
  | cons l links ih =>
    rw [List.foldl_cons, ih, adjacent_addLink, hasEntry_addLink, hasEntry_addLink]
    simp only [List.mem_cons, exists_eq_or_imp]
    grind

theorem hasEntry_foldl (links : List Link) (entries : List (NodeId × List NodeId)) (id : NodeId) :
    hasEntry (links.foldl addLink entries) id = hasEntry entries id := by
  induction links generalizing entries with
  | nil => rfl
  | cons l links ih => rw [List.foldl_cons, ih, hasEntry_addLink]

theorem hasEntry_blank (ids : List NodeId) (id : NodeId) :
    hasEntry (ids.map fun id => (id, [])) id = true ↔ id ∈ ids := by
  simp [hasEntry]

theorem adjacent_blank (ids : List NodeId) (a b : NodeId) :
    adjacent ⟨ids.map fun id => (id, [])⟩ a b = false := by
  rw [Bool.eq_false_iff, ne_eq, adjacent_iff_mem]
  rintro ⟨bs, hbs, hb⟩
  obtain ⟨e, he, rfl⟩ := Option.map_eq_some_iff.1 hbs
  obtain ⟨id, -, rfl⟩ := List.mem_map.1 (List.mem_of_find?_eq_some he)
  simp at hb

theorem adjacent_ofGraph (g : Graph) (a b : NodeId) :
    (ofGraph g).adjacent a b = true ↔ a ∈ g.ids ∧ b ∈ g.ids ∧ ∃ l ∈ g.links, Joins l a b := by
  rw [ofGraph, adjacent_foldl, adjacent_blank, hasEntry_blank, hasEntry_blank, mem_distinct,
    mem_distinct]
  simp

end CodeGraph.NeighborMap
