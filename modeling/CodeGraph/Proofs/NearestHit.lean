import CodeGraph.Proofs.DragPins
import CodeGraph.Proofs.NumberOrder

namespace CodeGraph.View

variable {α β : Type}

def Ascending (ds : List (Nat × α)) : Prop := ds.Pairwise fun x y => x.1 < y.1

theorem Ascending.eq_of_fst {ds : List (Nat × α)} (h : Ascending ds) {x y : Nat × α}
    (hx : x ∈ ds) (hy : y ∈ ds) (hxy : x.1 = y.1) : x = y := by
  have hdistinct : (ds.map Prod.fst).Nodup := by
    rw [List.Nodup, List.pairwise_map]
    exact h.imp fun hlt => Nat.ne_of_lt hlt
  exact List.inj_on_of_nodup_map hdistinct hx hy hxy

theorem zipIdx_pairwise {γ : Type} (l : List γ) : l.zipIdx.Pairwise fun a b => a.2 < b.2 := by
  rw [← List.pairwise_map (f := Prod.snd) (R := (· < ·)), List.zipIdx_map_snd]
  exact List.pairwise_lt_range'

variable [Scalar α]

section Distances

variable [Graded α β] {v : View α β} {p : Point α}

def nodeDistance? (v : View α β) (p : Point α) (i : Nat) : Option α :=
  (v.position? i).map fun q => (q.minus (v.toGraph p)).length

def edgeDistance? (v : View α β) (p : Point α) (k : Nat) : Option α := do
  let e ← v.edges[k]?
  return Segment.distance (v.toGraph p) (← v.position? e.1) (← v.position? e.2)

theorem mem_nodeDistances (i : Nat) (d : α) :
    (i, d) ∈ v.nodeDistances (v.toGraph p) ↔ v.nodeDistance? p i = some d := by
  rw [nodeDistance?, nodeDistances, List.mem_map, Option.map_eq_some_iff]
  constructor
  · rintro ⟨⟨q, j⟩, hq, hd⟩
    cases hd
    rw [List.mem_zipIdx_iff_getElem?, positions_getElem?] at hq
    exact ⟨q, hq, rfl⟩
  · rintro ⟨q, hq, rfl⟩
    exact ⟨(q, i), by rwa [List.mem_zipIdx_iff_getElem?, positions_getElem?], rfl⟩

theorem mem_edgeDistances (k : Nat) (d : α) :
    (k, d) ∈ v.edgeDistances (v.toGraph p) ↔ v.edgeDistance? p k = some d := by
  simp only [edgeDistance?, edgeDistances, List.mem_filterMap, Option.bind_eq_bind,
    Option.bind_eq_some_iff, Option.pure_def, Option.some_inj]
  constructor
  · rintro ⟨⟨e, j⟩, he, a, ha, b, hb, hd⟩
    cases hd
    exact ⟨e, List.mem_zipIdx_iff_getElem?.1 he, a, ha, b, hb, rfl⟩
  · rintro ⟨e, he, a, ha, b, hb, rfl⟩
    exact ⟨(e, k), List.mem_zipIdx_iff_getElem?.2 he, a, ha, b, hb, rfl⟩

theorem nodeDistances_ascending (v : View α β) (q : Point α) : Ascending (v.nodeDistances q) :=
  List.pairwise_map.2 (zipIdx_pairwise v.positions)

theorem edgeDistances_ascending (v : View α β) (q : Point α) : Ascending (v.edgeDistances q) := by
  apply (zipIdx_pairwise v.edges).filterMap
  intro a b hab x hx y hy
  simp only [Option.bind_eq_bind, Option.bind_eq_some_iff, Option.pure_def, Option.some_inj]
    at hx hy
  obtain ⟨-, -, -, -, rfl⟩ := hx
  obtain ⟨-, -, -, -, rfl⟩ := hy
  exact hab

end Distances

/-- The entry is within reach, none is nearer, and every earlier one is farther away. -/
structure FirstNearest (reach : α) (ds : List (Nat × α)) (x : Nat × α) : Prop where
  mem : x ∈ ds
  within : x.2 < reach
  least : ∀ y ∈ ds, ¬y.2 < x.2
  first : ∀ y ∈ ds, y.1 < x.1 → (y.2 == y.2) = true → x.2 < y.2

/-- What a search has to have found among the entries it has seen. -/
def Finds (reach : α) (ds : List (Nat × α)) : Option (Nat × α) → Prop
  | none => ∀ y ∈ ds, ¬y.2 < reach
  | some x => FirstNearest reach ds x

theorem nearest_append (reach : α) (ds : List (Nat × α)) (x : Nat × α) :
    nearest reach (ds ++ [x]) =
      if x.2 < reach && (nearest reach ds).all (fun b => decide (x.2 < b.2)) then some x
      else nearest reach ds := by
  rw [nearest, List.foldl_append]
  rfl

variable {reach : α} {ds : List (Nat × α)} {x : Nat × α}

theorem FirstNearest.append {b : Nat × α} (h : FirstNearest reach ds b)
    (hafter : ∀ y ∈ ds, y.1 < x.1) (hx : ¬x.2 < b.2) : FirstNearest reach (ds ++ [x]) b where
  mem := List.mem_append_left _ h.mem
  within := h.within
  least := List.forall_mem_append.2 ⟨h.least, List.forall_mem_singleton.2 hx⟩
  first := by
    refine List.forall_mem_append.2 ⟨h.first, List.forall_mem_singleton.2 fun hbefore => ?_⟩
    have hbehind := hafter b h.mem
    omega

variable [WeaklyOrdered α]

/-- A new entry below a bound that no earlier one is below is the only nearest one. -/
theorem FirstNearest.of_below {bound : α} (hall : ∀ y ∈ ds, ¬y.2 < bound) (hbound : x.2 < bound)
    (hreach : x.2 < reach) : FirstNearest reach (ds ++ [x]) x where
  mem := by simp
  within := hreach
  least := by
    refine List.forall_mem_append.2 ⟨fun y hy hlt => ?_, List.forall_mem_singleton.2 ?_⟩
    · exact hall y hy (WeaklyOrdered.trans hlt hbound)
    · exact WeaklyOrdered.irrefl x.2
  first := by
    refine List.forall_mem_append.2 ⟨fun y hy _ hself => ?_, List.forall_mem_singleton.2 ?_⟩
    · exact (WeaklyOrdered.splits hself hbound).resolve_right (hall y hy)
    · intro hbefore
      omega

/-- One step of the search: it finds among one more entry what it has to. -/
theorem Finds.step (hafter : ∀ y ∈ ds, y.1 < x.1) {best : Option (Nat × α)}
    (h : Finds reach ds best) :
    Finds reach (ds ++ [x])
      (if x.2 < reach && best.all (fun b => decide (x.2 < b.2)) then some x else best) := by
  cases best with
  | none =>
    by_cases hx : x.2 < reach
    · simpa [Finds, hx] using FirstNearest.of_below h hx hx
    · simp only [hx, decide_false, Bool.false_and, Bool.false_eq_true, if_false]
      exact List.forall_mem_append.2 ⟨h, List.forall_mem_singleton.2 hx⟩
  | some b =>
    by_cases hx : x.2 < b.2
    · -- what is nearer than the best one is within reach as well
      have hreach : x.2 < reach := WeaklyOrdered.trans hx h.within
      simpa [Finds, hx, hreach] using FirstNearest.of_below h.least hx hreach
    · simpa [Finds, hx] using FirstNearest.append h hafter hx

theorem nearest_finds (reach : α) (h : Ascending ds) : Finds reach ds (nearest reach ds) := by
  induction ds using List.reverseRecOn with
  | nil =>
    intro y hy
    cases hy
  | append_singleton ds x ih =>
    obtain ⟨hds, -, hafter⟩ := List.pairwise_append.1 h
    rw [nearest_append]
    exact (ih hds).step fun y hy => hafter y hy x (List.mem_singleton.2 rfl)

theorem FirstNearest.unique (h : Ascending ds) {y : Nat × α} (hx : FirstNearest reach ds x)
    (hy : FirstNearest reach ds y) : x = y := by
  apply h.eq_of_fst hx.mem hy.mem
  have hxself := (WeaklyOrdered.comparable hx.within).1
  have hyself := (WeaklyOrdered.comparable hy.within).1
  -- of two different ones the later would be nearer than the earlier
  rcases Nat.lt_trichotomy x.1 y.1 with hlt | heq | hgt
  · exact absurd (hy.first x hx.mem hlt hxself) (hx.least y hy.mem)
  · exact heq
  · exact absurd (hx.first y hy.mem hgt hyself) (hy.least x hx.mem)

theorem nearest_eq_some_iff (h : Ascending ds) :
    nearest reach ds = some x ↔ FirstNearest reach ds x := by
  have hfound := nearest_finds reach h
  constructor
  · intro hx
    rw [hx] at hfound
    exact hfound
  · intro hx
    cases hn : nearest reach ds with
    | none =>
      rw [hn] at hfound
      exact absurd hx.within (hfound x hx.mem)
    | some y =>
      rw [hn] at hfound
      exact congrArg some (FirstNearest.unique h hfound hx)

theorem nearest_eq_none_iff (h : Ascending ds) :
    nearest reach ds = none ↔ ∀ y ∈ ds, ¬y.2 < reach := by
  have hfound := nearest_finds reach h
  constructor
  · intro hn
    rw [hn] at hfound
    exact hfound
  · intro hall
    cases hn : nearest reach ds with
    | none => rfl
    | some y =>
      rw [hn] at hfound
      exact absurd hfound.within (hall y hfound.mem)

/-- What has number `i` is within reach, nothing is nearer, and of what has a smaller number nothing
is as near. -/
def IsHit (reach : α) (distance? : Nat → Option α) (i : Nat) : Prop :=
  ∃ d, distance? i = some d ∧ d < reach ∧ (∀ j e, distance? j = some e → ¬e < d) ∧
    ∀ j e, j < i → distance? j = some e → (e == e) = true → d < e

theorem IsHit.ne_of_lt {distance? : Nat → Option α} {i j : Nat} (h : IsHit reach distance? i)
    (hj : j < i) : distance? j ≠ distance? i := by
  obtain ⟨d, hd, hwithin, -, hfirst⟩ := h
  intro htie
  have hself := (WeaklyOrdered.comparable hwithin).1
  exact WeaklyOrdered.irrefl d (hfirst j d hj (htie.trans hd) hself)

theorem nearest_fst (reach : α) (h : Ascending ds) {distance? : Nat → Option α}
    (hmem : ∀ i d, (i, d) ∈ ds ↔ distance? i = some d) :
    (∀ i, (nearest reach ds).map Prod.fst = some i ↔ IsHit reach distance? i) ∧
      ((nearest reach ds).map Prod.fst = none ↔ ∀ i d, distance? i = some d → ¬d < reach) := by
  constructor
  · intro i
    rw [Option.map_eq_some_iff]
    constructor
    · rintro ⟨⟨i, d⟩, hx, rfl⟩
      rw [nearest_eq_some_iff h] at hx
      exact ⟨d, (hmem i d).1 hx.mem, hx.within, fun j e he => hx.least (j, e) ((hmem j e).2 he),
        fun j e hj he => hx.first (j, e) ((hmem j e).2 he) hj⟩
    · rintro ⟨d, hd, hwithin, hleast, hfirst⟩
      refine ⟨(i, d), (nearest_eq_some_iff h).2 ⟨(hmem i d).2 hd, hwithin, ?_, ?_⟩, rfl⟩
      · intro y hy
        exact hleast y.1 y.2 ((hmem y.1 y.2).1 hy)
      · intro y hy hbefore
        exact hfirst y.1 y.2 hbefore ((hmem y.1 y.2).1 hy)
  · rw [Option.map_eq_none_iff, nearest_eq_none_iff h]
    constructor
    · intro hall i d hd
      exact hall (i, d) ((hmem i d).2 hd)
    · intro hall y hy
      exact hall y.1 y.2 ((hmem y.1 y.2).1 hy)

variable [Graded α β]

/-- The pointer hits a node exactly if the node is within reach, none is nearer, and none of smaller
index is as near, and hits no node exactly if none is within reach. The same holds of the edges,
with a reach that is measured on the screen. A node that is hit is the target, else the edge that
is. -/
theorem pointer_hits_nearest (v : View α β) (p : Point α) :
    (∀ i, v.nodeAt? p = some i ↔ IsHit nodeReach (v.nodeDistance? p) i) ∧
      (v.nodeAt? p = none ↔ ∀ i d, v.nodeDistance? p i = some d → ¬d < nodeReach) ∧
      (∀ k, v.edgeAt? p = some k ↔
        IsHit (edgeReach / v.transform.k) (v.edgeDistance? p) k) ∧
      (v.edgeAt? p = none ↔
        ∀ k d, v.edgeDistance? p k = some d → ¬d < edgeReach / v.transform.k) ∧
      (∀ i, v.targetAt? p = some (.node i) ↔ v.nodeAt? p = some i) ∧
      (∀ k, v.targetAt? p = some (.edge k) ↔ v.nodeAt? p = none ∧ v.edgeAt? p = some k) ∧
      (v.targetAt? p = none ↔ v.nodeAt? p = none ∧ v.edgeAt? p = none) := by
  obtain ⟨hnode, hnone⟩ := nearest_fst nodeReach
    (nodeDistances_ascending v (v.toGraph p)) mem_nodeDistances
  obtain ⟨hedge, hnoedge⟩ := nearest_fst (edgeReach / v.transform.k)
    (edgeDistances_ascending v (v.toGraph p)) mem_edgeDistances
  refine ⟨hnode, hnone, hedge, hnoedge, ?_⟩
  unfold targetAt?
  cases v.nodeAt? p with
  | some i => simp
  | none => simp

def twins : View Float Float32 :=
  { ofGraph ⟨pair.nodes, [⟨⟨"a"⟩, ⟨"b"⟩⟩, ⟨⟨"b"⟩, ⟨"a"⟩⟩]⟩ .standard .standard 800 600 with
    layout := ⟨⟨150, 0.05, 100, 3000, 0.9⟩, #[.atRest 3 4 10, .atRest 3 4 10], []⟩ }

/-- Of two nodes at one place the pointer does not hit the second, nor the second of the edges
between them. Of two nodes apart it hits the one that it is at. -/
theorem second_twin_not_hit :
    twins.nodeAt? ⟨403, 304⟩ ≠ some 1 ∧ twins.edgeAt? ⟨403, 304⟩ ≠ some 1 ∧
      IsHit nodeReach (pairView.nodeDistance? ⟨500, 300⟩) 0 ∧
      pairView.targetAt? ⟨500, 300⟩ = some (.node 0) := by
  obtain ⟨hnode, -, hedge, -⟩ := pointer_hits_nearest twins ⟨403, 304⟩
  obtain ⟨hhit, -, -, -, htarget, -⟩ := pointer_hits_nearest pairView ⟨500, 300⟩
  have hnodes : twins.nodeDistance? ⟨403, 304⟩ 0 = twins.nodeDistance? ⟨403, 304⟩ 1 := rfl
  have hedges : twins.edgeDistance? ⟨403, 304⟩ 0 = twins.edgeDistance? ⟨403, 304⟩ 1 := rfl
  rw [ne_eq, hnode, ne_eq, hedge]
  exact ⟨fun h => h.ne_of_lt Nat.zero_lt_one hnodes, fun h => h.ne_of_lt Nat.zero_lt_one hedges,
    (hhit 0).1 pairView_hit, (htarget 0).2 pairView_hit⟩

end CodeGraph.View
