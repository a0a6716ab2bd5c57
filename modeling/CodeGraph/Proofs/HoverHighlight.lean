import CodeGraph.Proofs.ViewRun
import Mathlib.Data.Set.Basic

namespace CodeGraph

/-- The set of nodes and the set of edges that a target lights up in a list of edges. -/
def lightsOf (edges : List (Nat × Nat)) : Option Target → Set Nat × Set Nat
  | none => (∅, ∅)
  | some (.node i) =>
    ({j | j = i ∨ (i, j) ∈ edges ∨ (j, i) ∈ edges},
      {k | ∃ e, edges[k]? = some e ∧ (e.1 = i ∨ e.2 = i)})
  | some (.edge k) =>
    ({j | ∃ e, edges[k]? = some e ∧ (j = e.1 ∨ j = e.2)}, {m | m = k ∧ k < edges.length})

theorem lightsOf_or (edges : List (Nat × Nat)) {target previous : Option Target}
    (h : target = none ∨ previous = none) :
    (lightsOf edges (target.or previous)).1
        = (lightsOf edges target).1 ∪ (lightsOf edges previous).1 ∧
      (lightsOf edges (target.or previous)).2
        = (lightsOf edges target).2 ∪ (lightsOf edges previous).2 := by
  rcases h with rfl | rfl
  · simp [lightsOf]
  · simp [lightsOf]

def Highlight.sets (h : Highlight) : Set Nat × Set Nat := ({i | i ∈ h.nodes}, {k | k ∈ h.edges})

theorem Highlight.sets_eq_iff {h : Highlight} {s : Set Nat × Set Nat} :
    h.sets = s ↔ (∀ i, i ∈ h.nodes ↔ i ∈ s.1) ∧ ∀ k, k ∈ h.edges ↔ k ∈ s.2 := by
  rw [Prod.ext_iff, Set.ext_iff, Set.ext_iff]
  rfl

theorem mem_insertAscending (n j : Nat) (s : List Nat) :
    j ∈ insertAscending n s ↔ j = n ∨ j ∈ s := by
  fun_induction insertAscending n s with
  | case1 => simp
  | case2 m rest h => simp
  | case3 rest h => simp
  | case4 m rest h h' ih =>
    rw [List.mem_cons, ih, List.mem_cons]
    exact or_left_comm

theorem mem_foldl_insertAscending (ns s : List Nat) (j : Nat) :
    j ∈ ns.foldl (fun s n => insertAscending n s) s ↔ j ∈ s ∨ j ∈ ns := by
  induction ns generalizing s with
  | nil => simp
  | cons n ns ih =>
    rw [List.foldl_cons, ih, mem_insertAscending, List.mem_cons, or_assoc]
    exact or_left_comm

/-- The highlights that a hover keeps are those of its targets, of which there is at most one. -/
structure Hover.Fits {α : Type} (light : Option Target → Highlight) (h : Hover α) : Prop where
  alone : h.target = .none ∨ h.previous = .none
  lit : h.lit = light h.target
  fading : h.fading = light h.previous

namespace Hover

variable {α : Type} {light : Option Target → Highlight} {h : Hover α}

theorem lightsNode_iff (h : Hover α) (i : Nat) :
    h.lightsNode i = true ↔ i ∈ h.lit.sets.1 ∪ h.fading.sets.1 := by
  simp [lightsNode, Highlight.sets]

theorem lightsEdge_iff (h : Hover α) (k : Nat) :
    h.lightsEdge k = true ↔ k ∈ h.lit.sets.2 ∪ h.fading.sets.2 := by
  simp [lightsEdge, Highlight.sets]

theorem target_or_previous_of_isOn (hf : h.Fits light) {i : Nat} (hi : h.isOn i = true) :
    h.target.or h.previous = some (.node i) := by
  have hon : h.target = some (.node i) ∨ h.previous = some (.node i) := by simpa [isOn] using hi
  rcases hon with hon | hon
  · rw [hon, Option.some_or]
  · rcases hf.alone with hnone | hnone
    · rw [hnone, hon, Option.none_or]
    · rw [hnone] at hon
      cases hon

variable [Scalar α]

theorem turnTo_target (h : Hover α) (target : Option Target) (lit : Highlight) :
    (h.turnTo target lit).target = target := by
  unfold turnTo
  split
  · assumption
  · rfl

theorem ease_target (h : Hover α) (dt : α) : (h.ease dt).target = h.target := by
  unfold ease
  split
  · rfl
  · dsimp only
    split <;> rfl

theorem Fits.turnTo (hempty : light .none = .empty) (hf : h.Fits light) (target : Option Target) :
    (h.turnTo target (light target)).Fits light := by
  rw [Hover.turnTo]
  split
  · exact hf
  · -- only a target left for nothing hands its highlight on to fade
    cases target with
    | none =>
      cases hh : h.target with
      | none => exact ⟨.inl rfl, rfl, hempty.symm⟩
      | some was => exact ⟨.inl rfl, rfl, hf.lit.trans (congrArg light hh)⟩
    | some _ =>
      simp only [Option.isNone_some, Bool.and_false, Bool.false_eq_true, if_false]
      exact ⟨.inr rfl, rfl, hempty.symm⟩

theorem Fits.ease (hempty : light .none = .empty) (hf : h.Fits light) (dt : α) :
    (h.ease dt).Fits light := by
  rw [Hover.ease]
  split
  · exact ⟨hf.alone, hf.lit, hf.fading⟩
  · next hnone =>
    have htarget : h.target = .none := by simpa using hnone
    dsimp only
    split
    · exact ⟨.inl htarget, hf.lit, hempty.symm⟩
    · exact ⟨.inl htarget, hf.lit, hf.fading⟩

end Hover

namespace View

variable {α β : Type} {v w : View α β}

/-- The neighbours of a node that are found by their ids are its neighbours along the edges. -/
theorem Coherent.mem_neighborIndices (hv : v.Coherent) (i j : Nat) :
    j ∈ ((v.nodes[i]?.bind fun n => v.neighbors.neighbors? n.id).getD []).filterMap
        v.nodeIndex? ↔ (i, j) ∈ v.edges ∨ (j, i) ∈ v.edges := by
  have hrange (h : (i, j) ∈ v.edges ∨ (j, i) ∈ v.edges) :
      i < v.nodes.length ∧ j < v.nodes.length := by
    rcases h with h | h
    · exact hv.edges _ h
    · exact (hv.edges _ h).symm
  simp only [List.mem_filterMap, nodeIndex?, indexIn_eq_some_iff hv.ids]
  constructor
  · rintro ⟨id, hid, m, hm, rfl⟩
    cases hn : v.nodes[i]? with
    | none => simp [hn] at hid
    | some n =>
      rw [← hv.adjacent i j n m hn hm, NeighborMap.adjacent_iff_mem]
      cases hids : v.neighbors.neighbors? n.id with
      | none => simp [hn, hids] at hid
      | some ids => exact ⟨ids, rfl, by simpa [hn, hids] using hid⟩
  · intro h
    -- an edge has both its ends, so that both have ids to be found by
    obtain ⟨hi, hj⟩ := hrange h
    have hn := List.getElem?_eq_getElem hi
    have hm := List.getElem?_eq_getElem hj
    rw [← hv.adjacent i j _ _ hn hm, NeighborMap.adjacent_iff_mem] at h
    obtain ⟨ids, hids, hmem⟩ := h
    exact ⟨_, by simpa [hn, hids] using hmem, _, hm, rfl⟩

theorem mem_edgesTouching (edges : List (Nat × Nat)) (i k : Nat) :
    k ∈ edges.zipIdx.filterMap (fun (e, k) => if e.1 = i ∨ e.2 = i then some k else none) ↔
      ∃ e, edges[k]? = some e ∧ (e.1 = i ∨ e.2 = i) := by
  rw [List.mem_filterMap]
  constructor
  · rintro ⟨⟨e, m⟩, hm, hk⟩
    rw [List.mem_zipIdx_iff_getElem?] at hm
    obtain ⟨h, rfl⟩ : (e.1 = i ∨ e.2 = i) ∧ m = k := by simpa using hk
    exact ⟨e, hm, h⟩
  · rintro ⟨e, he, h⟩
    exact ⟨(e, k), List.mem_zipIdx_iff_getElem?.2 he, if_pos h⟩

theorem Coherent.highlightOf_sets (hv : v.Coherent) (target : Option Target) :
    (v.highlightOf target).sets = lightsOf v.edges target := by
  rw [Highlight.sets_eq_iff]
  match target with
  | none => simp [highlightOf, lightsOf, Highlight.empty]
  | some (.node i) =>
    refine ⟨fun j => ?_, mem_edgesTouching v.edges i⟩
    rw [highlightOf, mem_insertAscending, mem_foldl_insertAscending, hv.mem_neighborIndices]
    simp [lightsOf]
  | some (.edge k) =>
    cases he : v.edges[k]? with
    | none =>
      have hk := List.getElem?_eq_none_iff.1 he
      simp [highlightOf, lightsOf, Highlight.empty, hk]
    | some e =>
      have hk := (List.getElem?_eq_some_iff.1 he).1
      simp [highlightOf, lightsOf, mem_insertAscending, hk]

theorem SameGraph.highlightOf (h : v.SameGraph w) (target : Option Target) :
    w.highlightOf target = v.highlightOf target := by
  have hindex : w.nodeIndex? = v.nodeIndex? := by
    funext id
    rw [nodeIndex?, nodeIndex?, h.nodes]
  match target with
  | none => rfl
  | some (.node i) => simp only [View.highlightOf, h.nodes, h.neighbors, h.edges, hindex]
  | some (.edge k) => simp only [View.highlightOf, h.edges]

variable [Scalar α]

theorem setHover_target (v : View α β) (target : Option Target) :
    (v.setHover target).hover.target = target :=
  v.hover.turnTo_target target _

theorem pointerUp_hover (v : View α β) : v.pointerUp.hover = v.hover := by
  unfold pointerUp
  split <;> rfl

variable [Graded α β] [Scalar β]

theorem moveLayout_hover (v : View α β) (dt : β) : (v.moveLayout dt).hover = v.hover := by
  unfold moveLayout
  split <;> rfl

theorem tick_hover (v : View α β) (dt : β) :
    (v.tick dt).hover = v.hover.ease (Graded.widen dt) :=
  congrArg (Hover.ease · (Graded.widen dt)) (moveLayout_hover v dt)

theorem tick_target (v : View α β) (dt : β) : (v.tick dt).hover.target = v.hover.target := by
  rw [tick_hover, Hover.ease_target]

/-- What an event does to the hover: nothing, a turn to a target, or a step of fading. -/
theorem act?_hover {a : Action α β} (h : v.act? a = some w) :
    w.hover = v.hover ∨ (∃ target, w.hover = v.hover.turnTo target (v.highlightOf target)) ∨
      ∃ dt, w.hover = v.hover.ease dt := by
  cases a with
  | down p =>
    cases h
    rw [pointerDown]
    split
    · split
      · exact .inr (.inl ⟨none, rfl⟩)
      · exact .inl rfl
    · exact .inl rfl
  | move p =>
    cases h
    rw [pointerMove]
    split
    · exact .inl rfl
    · exact .inl rfl
    · exact .inr (.inl ⟨_, rfl⟩)
  | up =>
    cases h
    exact .inl (pointerUp_hover v)
  | leave =>
    cases h
    refine .inr (.inl ⟨none, ?_⟩)
    rw [pointerLeave, setHover, pointerUp_hover]
    rfl
  | wheel p delta alt =>
    obtain ⟨⟨used, w'⟩, hw, rfl⟩ := Option.map_eq_some_iff.1 h
    exact .inl (by rw [wheel?_transform hw])
  | hover target =>
    cases h
    exact .inr (.inl ⟨target, rfl⟩)
  | reheat target =>
    cases h
    exact .inl rfl
  | resize width height =>
    cases h
    exact .inl rfl
  | tick dt =>
    cases h
    exact .inr (.inr ⟨_, tick_hover v dt⟩)

theorem act?_fits {a : Action α β} (h : v.act? a = some w) (hf : v.hover.Fits v.highlightOf) :
    w.hover.Fits w.highlightOf := by
  have hlight : w.highlightOf = v.highlightOf := funext (act?_same h).highlightOf
  rw [hlight]
  rcases act?_hover h with hh | ⟨target, hh⟩ | ⟨dt, hh⟩
  · exact hh ▸ hf
  · exact hh ▸ hf.turnTo rfl target
  · exact hh ▸ hf.ease rfl dt

theorem run?_fits {g : Graph} {sim : Simulation α β} {zoom : Zoom α} {width height : α}
    {actions : List (Action α β)}
    (h : (ofGraph g sim zoom width height).run? actions = some w) :
    w.hover.Fits w.highlightOf :=
  run?_induction (fun _ _ _ hu ha => act?_fits ha hu) ⟨.inl rfl, rfl, rfl⟩ h

/-- Behind every run of events from a fresh view, at most one target is active, both highlights
are those of their targets, and what is lit is what the active target lights up. -/
theorem highlight_follows_target {g : Graph} {sim : Simulation α β} {zoom : Zoom α}
    {width height : α} {actions : List (Action α β)}
    (h : (ofGraph g sim zoom width height).run? actions = some w) :
    w.edges = (ofGraph g sim zoom width height).edges ∧
      (w.hover.target = none ∨ w.hover.previous = none) ∧
      w.hover.lit.sets = lightsOf w.edges w.hover.target ∧
      w.hover.fading.sets = lightsOf w.edges w.hover.previous ∧
      (∀ i, w.hover.lightsNode i = true ↔
        i ∈ (lightsOf w.edges (w.hover.target.or w.hover.previous)).1) ∧
      (∀ k, w.hover.lightsEdge k = true ↔
        k ∈ (lightsOf w.edges (w.hover.target.or w.hover.previous)).2) ∧
      (w.hover.isActive = false →
        ∀ i, w.hover.lightsNode i = false ∧ w.hover.lightsEdge i = false) ∧
      ∀ i, w.hover.isOn i = true → w.hover.lightsNode i = true := by
  have hv : w.Coherent := run?_coherent h (ofGraph_coherent g sim zoom width height)
  have hf := run?_fits h
  have hlit : w.hover.lit.sets = lightsOf w.edges w.hover.target := by
    rw [hf.lit, hv.highlightOf_sets]
  have hfading : w.hover.fading.sets = lightsOf w.edges w.hover.previous := by
    rw [hf.fading, hv.highlightOf_sets]
  obtain ⟨hnodes, hedges⟩ := lightsOf_or w.edges hf.alone
  have hnode (i : Nat) : w.hover.lightsNode i = true ↔
      i ∈ (lightsOf w.edges (w.hover.target.or w.hover.previous)).1 := by
    rw [Hover.lightsNode_iff, hlit, hfading, hnodes]
  have hedge (k : Nat) : w.hover.lightsEdge k = true ↔
      k ∈ (lightsOf w.edges (w.hover.target.or w.hover.previous)).2 := by
    rw [Hover.lightsEdge_iff, hlit, hfading, hedges]
  refine ⟨(run?_same h).edges, hf.alone, hlit, hfading, hnode, hedge, fun hidle i => ?_,
    fun i hi => ?_⟩
  · have hnone : w.hover.target.or w.hover.previous = none := by
      simpa [Hover.isActive] using hidle
    rw [← Bool.not_eq_true, ← Bool.not_eq_true, hnode, hedge, hnone]
    exact ⟨id, id⟩
  · rw [hnode, Hover.target_or_previous_of_isOn hf hi]
    exact .inl rfl

def chain : Graph :=
  let node (id : String) : Node := ⟨⟨id⟩, id, id, .unknown, none⟩
  ⟨[node "a", node "b", node "c"], [⟨⟨"a"⟩, ⟨"b"⟩⟩, ⟨⟨"b"⟩, ⟨"c"⟩⟩]⟩

/-- The row after the pointer was over its first node for a tick. -/
def leftChain : View Float Float32 :=
  (((ofGraph chain .standard .standard 800 600).setHover (some (.node 0))).tick 0.016).setHover none

/-- The highlight of the node that was left fades, and the far end of the row has no part in it. -/
theorem fading_highlight_of_chain :
    (ofGraph chain .standard .standard 800 600).run?
        [.hover (some (.node 0)), .tick 0.016, .hover none] = some leftChain ∧
      leftChain.hover.previous = some (.node 0) ∧ leftChain.hover.lightsNode 1 = true ∧
      leftChain.hover.lightsNode 2 = false := by
  have hrun : (ofGraph chain .standard .standard 800 600).run?
      [.hover (some (.node 0)), .tick 0.016, .hover none] = some leftChain := rfl
  obtain ⟨hsame, -, -, -, hnode, -⟩ := highlight_follows_target hrun
  have hedges : leftChain.edges = [(0, 1), (1, 2)] := hsame.trans rfl
  have hactive : leftChain.hover.target.or leftChain.hover.previous = some (.node 0) := rfl
  rw [hedges, hactive] at hnode
  refine ⟨hrun, rfl, (hnode 1).2 (by simp [lightsOf]), ?_⟩
  rw [← Bool.not_eq_true, hnode]
  simp [lightsOf]

end View

end CodeGraph
