import Mathlib.Analysis.SpecialFunctions.Trigonometric.Basic
import CodeGraph.Proofs.NumberOrder
import CodeGraph.Proofs.SceneHighlight

namespace CodeGraph

namespace View

variable {α β : Type} {v : View α β}

theorem Lit.isOn_iff (hv : v.Lit) (i : Nat) :
    v.hover.isOn i = true ↔ v.activeTarget = some (.node i) := by
  constructor
  · exact Hover.target_or_previous_of_isOn hv.fits
  · intro h
    rw [Hover.isOn, Bool.or_eq_true, beq_iff_eq, beq_iff_eq]
    rcases Option.or_eq_some_iff.1 h with htarget | ⟨-, hprevious⟩
    · exact .inl htarget
    · exact .inr hprevious

variable [Scalar α]

def growth (v : View α β) (i : Nat) : α :=
  if v.activeTarget = some (.node i) then 0.35 else 0.2

def grown (v : View α β) (i : Nat) (r : α) : α :=
  r * (1.0 + v.growth i * Scene.easeOutCubic v.hover.t)

end View

namespace Scene

variable {α β : Type} {v : View α β} [Scalar α]

theorem nodeRadius_of_notMem (hv : v.Lit) {i : Nat} (hi : i ∉ v.lights.1) (r : α) :
    nodeRadius v r (easeOutCubic v.hover.t) i = r := by
  rw [nodeRadius, if_neg (by rwa [raises_iff hv])]

theorem nodeRadius_of_mem (hv : v.Lit) {i : Nat} (hi : i ∈ v.lights.1) (r : α) :
    nodeRadius v r (easeOutCubic v.hover.t) i = v.grown i r := by
  rw [nodeRadius, if_pos ((raises_iff hv i).2 hi), View.grown, View.growth]
  simp only [hv.isOn_iff]
  split <;> rfl

variable [Graded α β]

/-- An edge is given `r` for node `i`, whose shape is `s`: the radius of the node at rest, while the
shape has the one at rest only outside the highlight. -/
structure EndsAtRest (v : View α β) (theme : Theme α) (i : Nat) (r : α) (s : NodeShape α) :
    Prop where
  node : ∃ n, v.nodes[i]? = some n ∧ (build v theme).node? n.id = some s ∧
    r = (theme.nodeStyle n.kind).radius
  outside : i ∉ v.lights.1 → s.radius = r
  lit : i ∈ v.lights.1 → s.radius = v.grown i r

theorem EndsAtRest.meets_iff {theme : Theme α} {i : Nat} {r : α} {s : NodeShape α}
    (h : EndsAtRest v theme i r s) : r = s.radius ↔ i ∉ v.lights.1 ∨ r = v.grown i r := by
  by_cases hi : i ∈ v.lights.1
  · simp [h.lit hi, hi]
  · simp [h.outside hi, hi]

theorem styleRadius_endsAtRest (hv : v.Lit) (theme : Theme α) {i : Nat} (hi : i < v.nodes.length) :
    ∃ s, EndsAtRest v theme i (styleRadius v theme i) s := by
  have hn := List.getElem?_eq_getElem hi
  obtain ⟨b, hb⟩ := hv.coherent.body_of_node hn
  have hrest : styleRadius v theme i = (theme.nodeStyle v.nodes[i].kind).radius := by
    rw [styleRadius, hn]
  refine ⟨_, ⟨_, hn, node?_build_eq hv.coherent theme hn hb, hrest⟩, fun hout => ?_, fun hlit => ?_⟩
  · rw [hrest]
    exact nodeRadius_of_notMem hv hout _
  · rw [hrest]
    exact nodeRadius_of_mem hv hlit _

/-- Behind every run of events and in every theme, an edge ends at the radii of its nodes at rest.
It ends at the rim of a node as it is drawn exactly if the node is outside the highlight or does not
grow in it. -/
theorem edge_ends_at_rim_iff [Scalar β] {g : Graph} {sim : Simulation α β} {zoom : Zoom α}
    {width height : α} {actions : List (Action α β)}
    (h : (View.ofGraph g sim zoom width height).run? actions = some v) (theme : Theme α) {k : Nat}
    {shape : EdgeShape α} (hshape : (build v theme).edges[k]? = some shape) :
    ∃ e s t, v.edges[k]? = some e ∧ EndsAtRest v theme e.1 shape.sourceRadius s ∧
      EndsAtRest v theme e.2 shape.targetRadius t ∧
      (shape.sourceRadius = s.radius ↔
        e.1 ∉ v.lights.1 ∨ shape.sourceRadius = v.grown e.1 shape.sourceRadius) ∧
      (shape.targetRadius = t.radius ↔
        e.2 ∉ v.lights.1 ∨ shape.targetRadius = v.grown e.2 shape.targetRadius) := by
  have hv := View.run?_lit h
  obtain ⟨e, he, hdraws⟩ := build_edge_draws hv.coherent theme hshape
  obtain ⟨hfirst, hsecond⟩ := hv.coherent.edges e (List.mem_of_getElem? he)
  obtain ⟨s, hs⟩ := styleRadius_endsAtRest hv theme hfirst
  obtain ⟨t, ht⟩ := styleRadius_endsAtRest hv theme hsecond
  rw [← hdraws.sourceRadius] at hs
  rw [← hdraws.targetRadius] at ht
  exact ⟨e, s, t, he, hs, ht, hs.meets_iff, ht.meets_iff⟩

theorem edge_meets_far_end :
    (View.ofGraph View.chain .standard .standard 800 600).run?
        [.hover (some (.node 0)), .tick 0.016, .hover none] = some View.leftChain ∧
      ∃ shape s, (build View.leftChain .aurora).edges[1]? = some shape ∧
        (build View.leftChain .aurora).node? ⟨"c"⟩ = some s ∧ shape.targetRadius = s.radius := by
  have hrun : (View.ofGraph View.chain .standard .standard 800 600).run?
      [.hover (some (.node 0)), .tick 0.016, .hover none] = some View.leftChain := rfl
  have hlength : (build View.leftChain .aurora).edges.length = 2 :=
    build_edges_length (View.run?_lit hrun).coherent _
  have hshape := List.getElem?_eq_getElem (show 1 < (build View.leftChain .aurora).edges.length by
    omega)
  obtain ⟨e, -, t, he, -, ht, -, hmeets⟩ := edge_ends_at_rim_iff hrun .aurora hshape
  cases he
  obtain ⟨n, hn, hfound, -⟩ := ht.node
  cases hn
  refine ⟨hrun, _, t, hshape, hfound, hmeets.2 (.inl ?_)⟩
  rw [leftChain_lights]
  decide

theorem easeOutCubic_eq_zero_iff {t : ℝ} : easeOutCubic t = 0 ↔ t = 0 := by
  have hfactor : easeOutCubic t = t * ((t - 3 / 2) ^ 2 + 3 / 4) := by
    norm_num [easeOutCubic]
    ring
  have hpositive : (t - 3 / 2) ^ 2 + 3 / 4 ≠ 0 := by positivity
  rw [hfactor, mul_eq_zero, or_iff_left hpositive]

/-- A node of the highlight grows unless it is a point or the highlight has not begun to fade in. -/
theorem eq_grown_iff (v : View ℝ ℝ) (i : Nat) (r : ℝ) :
    r = v.grown i r ↔ r = 0 ∨ v.hover.t = 0 := by
  have hgrowth : v.growth i ≠ 0 := by
    unfold View.growth
    split <;> norm_num
  have hsplit : r = v.grown i r ↔ r * (v.growth i * easeOutCubic v.hover.t) = 0 := by
    have hone : (1.0 : ℝ) = 1 := by norm_num
    rw [View.grown, hone, mul_add, mul_one, left_eq_add]
  rw [hsplit, mul_eq_zero, mul_eq_zero, easeOutCubic_eq_zero_iff, or_iff_right hgrowth]

/-- The pointer is over the first of three nodes in a row for a tenth of a second. The node is drawn
larger than at rest, and the edge from it begins where its rim was at rest. -/
theorem edge_begins_inside_hovered_node :
    ∃ v shape s, (View.ofGraph View.chain .standard .standard 640 480 : View ℝ ℝ).run?
        [.hover (some (.node 0)), .tick 0.1] = some v ∧ v.edges[0]? = some (0, 1) ∧
      (build v .aurora).edges[0]? = some shape ∧ (build v .aurora).node? ⟨"a"⟩ = some s ∧
      shape.sourceRadius = 6 ∧ shape.sourceRadius ≠ s.radius := by
  have hrun : (View.ofGraph View.chain .standard .standard 640 480 : View ℝ ℝ).run?
      [.hover (some (.node 0)), .tick 0.1] = some (hoveredChain.tick 0.1) := rfl
  have hv := View.run?_lit hrun
  have hedges : (hoveredChain.tick 0.1).edges = [(0, 1), (1, 2)] :=
    (View.tick_same hoveredChain 0.1).edges
  have hsome : 0 < (build (hoveredChain.tick 0.1) .aurora).edges.length := by
    rw [build_edges_length hv.coherent, hedges]
    decide
  have hshape := List.getElem?_eq_getElem hsome
  obtain ⟨e, he, hdraws⟩ := build_edge_draws hv.coherent .aurora hshape
  rw [hedges] at he
  cases he
  -- the first node is the target, and the highlight has begun to fade in
  obtain ⟨s, hs⟩ := styleRadius_endsAtRest hv .aurora (i := 0) (by decide)
  obtain ⟨n, hn, hfound, hrest⟩ := hs.node
  cases hn
  have hlit : 0 ∈ (hoveredChain.tick 0.1).lights.1 := (hoveredChain_tick_lights 0).2 (.inl rfl)
  have hsix : styleRadius (hoveredChain.tick 0.1) .aurora 0 = 6 := by
    rw [hrest]
    norm_num [Theme.nodeStyle, Theme.aurora]
  refine ⟨_, _, s, hrun, by rw [hedges]; rfl, hshape, hfound, ?_, ?_⟩
  · exact hdraws.sourceRadius.trans hsix
  · rw [hdraws.sourceRadius, ne_eq, hs.meets_iff, eq_grown_iff, hsix, hoveredChain_tick_t, not_or]
    exact ⟨not_not.2 hlit, by norm_num⟩

end Scene

end CodeGraph
