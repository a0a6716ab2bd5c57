import Mathlib.Analysis.SpecialFunctions.Trigonometric.Basic
import Mathlib.Data.List.Forall2
import CodeGraph.Proofs.HoverHighlight
import CodeGraph.Proofs.NumberOrder
import CodeGraph.Proofs.SceneShapes

namespace CodeGraph

namespace View

variable {α β : Type} {v : View α β}

/-- The target whose highlight is shown: the one under the pointer, else the one that fades. -/
def activeTarget (v : View α β) : Option Target := v.hover.target.or v.hover.previous

def lights (v : View α β) : Set Nat × Set Nat := lightsOf v.edges v.activeTarget

theorem isActive_eq (v : View α β) : v.hover.isActive = v.activeTarget.isSome := by
  rw [Hover.isActive, activeTarget, Option.isSome_or]

theorem activeTarget_isSome_of_mem {i : Nat} (h : i ∈ v.lights.1 ∨ i ∈ v.lights.2) :
    v.activeTarget.isSome = true := by
  cases ht : v.activeTarget with
  | none => simp [lights, ht, lightsOf] at h
  | some target => rfl

/-- A view whose highlights are those of its targets. -/
structure Lit (v : View α β) : Prop where
  coherent : v.Coherent
  fits : v.hover.Fits v.highlightOf

namespace Lit

theorem sets_union (hv : v.Lit) :
    v.hover.lit.sets.1 ∪ v.hover.fading.sets.1 = v.lights.1 ∧
      v.hover.lit.sets.2 ∪ v.hover.fading.sets.2 = v.lights.2 := by
  rw [hv.fits.lit, hv.fits.fading, hv.coherent.highlightOf_sets, hv.coherent.highlightOf_sets]
  exact (lightsOf_or v.edges hv.fits.alone).imp Eq.symm Eq.symm

theorem lightsNode_iff (hv : v.Lit) (i : Nat) : v.hover.lightsNode i = true ↔ i ∈ v.lights.1 := by
  rw [Hover.lightsNode_iff, hv.sets_union.1]

theorem lightsEdge_iff (hv : v.Lit) (k : Nat) : v.hover.lightsEdge k = true ↔ k ∈ v.lights.2 := by
  rw [Hover.lightsEdge_iff, hv.sets_union.2]

end Lit

theorem run?_lit [Scalar α] [Scalar β] [Graded α β] {g : Graph} {sim : Simulation α β}
    {zoom : Zoom α} {width height : α} {actions : List (Action α β)}
    (h : (ofGraph g sim zoom width height).run? actions = some v) : v.Lit :=
  ⟨run?_coherent h (ofGraph_coherent g sim zoom width height), run?_fits h⟩

end View

namespace Scene

variable {α β : Type} {v : View α β}

theorem raises_iff (hv : v.Lit) (i : Nat) : raises v i = true ↔ i ∈ v.lights.1 := by
  rw [raises, Bool.and_eq_true, hv.lightsNode_iff, View.isActive_eq]
  exact and_iff_right_of_imp fun h => View.activeTarget_isSome_of_mem (.inl h)

theorem placedNodes_indices (hv : v.Coherent) :
    (placedNodes v).map Prod.snd = List.range v.nodes.length := by
  rw [placedNodes, List.zipIdx_map_snd, List.range_eq_range', List.length_zip,
    Array.length_toList, hv.bodies, Nat.min_self]

variable [Scalar α]

/-- How far the highlight has faded in, quickly at first: what is missing is the cube of what the
time still misses. -/
def fadedIn (v : View α β) : α :=
  1.0 - (1.0 - v.hover.t) * (1.0 - v.hover.t) * (1.0 - v.hover.t)

variable [Graded α β]

/-- What a scene shows of node `i`: in full if it belongs to the highlight, else dimmed beside a
highlight, as far as that has faded in. -/
structure ShowsNode (v : View α β) (theme : Theme α) (i : Nat) (s : NodeShape α) : Prop where
  node : ∃ n, v.nodes[i]? = some n ∧ s.id = n.id ∧ s.kind = n.kind ∧ s.label = n.label
  center : v.position? i = some s.center
  lit : i ∈ v.lights.1 → s.opacity = 1.0 ∧ s.emphasis = fadedIn v
  dim : i ∉ v.lights.1 → s.emphasis = 0.0 ∧
    s.opacity =
      if v.activeTarget.isSome then 1.0 * (1.0 - fadedIn v) + theme.dimNodeOpacity * fadedIn v
      else 1.0

/-- What a scene shows of edge `k`: marked and in the colour of the highlight if it belongs to it,
else in its own. -/
structure ShowsEdge (v : View α β) (theme : Theme α) (k : Nat) (s : EdgeShape α) : Prop where
  ends : ∃ e, v.edges[k]? = some e ∧ v.position? e.1 = some s.source ∧
    v.position? e.2 = some s.target
  highlighted : s.highlighted = true ↔ k ∈ v.lights.2
  stroke : s.stroke = if s.highlighted then theme.edgeHighlightColor else theme.edgeColor

theorem nodeShape_shows (hv : v.Lit) (theme : Theme α) {i : Nat} {n : Node} {b : Body β}
    (hn : v.nodes[i]? = some n) (hb : v.layout.bodies[i]? = some b) :
    ShowsNode v theme i (nodeShape v theme i n b) where
  node := ⟨n, hn, rfl, rfl, rfl⟩
  center := by
    rw [View.position?, hb]
    rfl
  lit hi := by
    have hraised := (raises_iff hv i).2 hi
    simp [nodeShape, nodeOpacity, hraised, fadedIn, easeOutCubic]
  dim hi := by
    have hflat : raises v i = false := by
      rw [← Bool.not_eq_true, raises_iff hv]
      exact hi
    simp [nodeShape, nodeOpacity, hflat, View.isActive_eq, fadedIn, easeOutCubic, lerp]

theorem build_edge_shows (hv : v.Lit) (theme : Theme α) {k : Nat} {s : EdgeShape α}
    (h : (build v theme).edges[k]? = some s) : ShowsEdge v theme k s := by
  obtain ⟨e, he, hdraws⟩ := build_edge_draws hv.coherent theme h
  refine ⟨⟨e, he, hdraws.source, hdraws.target⟩, ?_, hdraws.stroke⟩
  rw [hdraws.highlighted, Bool.and_eq_true, hv.lightsEdge_iff, View.isActive_eq]
  exact and_iff_right_of_imp fun h => View.activeTarget_isSome_of_mem (.inr h)

theorem shapes_show (hv : v.Lit) (theme : Theme α) (q : Nat → Bool) :
    List.Forall₂ (ShowsNode v theme) ((List.range v.nodes.length).filter q)
      (((placedNodes v).filter fun p => q p.2).map fun p => nodeShape v theme p.2 p.1.1 p.1.2) := by
  rw [← placedNodes_indices hv.coherent, List.filter_map, List.forall₂_map_left_iff,
    List.forall₂_map_right_iff]
  apply List.forall₂_same.2
  intro p hp
  have hplaced := List.mem_of_mem_filter hp
  rw [placedNodes, List.mem_zipIdx_iff_getElem?, List.getElem?_zip_eq_some,
    Array.getElem?_toList] at hplaced
  exact nodeShape_shows hv theme hplaced.1 hplaced.2

theorem node?_build_eq_none (hv : v.Coherent) (theme : Theme α) {id : NodeId}
    (hid : id ∉ v.nodes.map Node.id) : (build v theme).node? id = none := by
  rw [node?, List.find?_eq_none]
  intro s hs hfound
  refine hid ((build_ids_perm hv theme).mem_iff.1 (List.mem_map.2 ⟨s, hs, ?_⟩))
  simpa using hfound

variable [Scalar β]

/-- Behind every run of events, a scene draws first the nodes outside the highlight and then those
in it, both in the order of their indices, and shows each as its place in the highlight says. By its
id the scene finds the shape of a node and of nothing else. The shapes of the edges stand at the
places of their edges, and those of the highlight are marked and in its colour. -/
theorem scene_draws_highlight_last {g : Graph} {sim : Simulation α β} {zoom : Zoom α}
    {width height : α} {actions : List (Action α β)}
    (h : (View.ofGraph g sim zoom width height).run? actions = some v) (theme : Theme α) :
    (∃ dim lit : List Nat, dim.Pairwise (· < ·) ∧ lit.Pairwise (· < ·) ∧
      (∀ i, i ∈ dim ↔ i < v.nodes.length ∧ i ∉ v.lights.1) ∧
      (∀ i, i ∈ lit ↔ i < v.nodes.length ∧ i ∈ v.lights.1) ∧
      (dim ++ lit).Perm (List.range v.nodes.length) ∧
      List.Forall₂ (ShowsNode v theme) (dim ++ lit) (build v theme).nodes) ∧
    (∀ i n, v.nodes[i]? = some n →
      ∃ s, (build v theme).node? n.id = some s ∧ ShowsNode v theme i s) ∧
    (∀ id, id ∉ v.nodes.map Node.id → (build v theme).node? id = none) ∧
    (build v theme).edges.length = v.edges.length ∧
    ∀ k s, (build v theme).edges[k]? = some s → ShowsEdge v theme k s := by
  have hv := View.run?_lit h
  refine ⟨⟨(List.range v.nodes.length).filter (fun i => !raises v i),
    (List.range v.nodes.length).filter (raises v), ?_, ?_, ?_, ?_, ?_, ?_⟩, ?_, ?_, ?_, ?_⟩
  · exact List.pairwise_lt_range.filter _
  · exact List.pairwise_lt_range.filter _
  · intro i
    rw [List.mem_filter, List.mem_range, Bool.not_eq_true', ← Bool.not_eq_true, raises_iff hv]
  · intro i
    rw [List.mem_filter, List.mem_range, raises_iff hv]
  · have hparts := List.filter_append_perm (fun i => !raises v i) (List.range v.nodes.length)
    simpa only [Bool.not_not] using hparts
  · exact List.rel_append (shapes_show hv theme _) (shapes_show hv theme _)
  · intro i n hn
    obtain ⟨b, hb⟩ := hv.coherent.body_of_node hn
    exact ⟨_, node?_build_eq hv.coherent theme hn hb, nodeShape_shows hv theme hn hb⟩
  · intro id hid
    exact node?_build_eq_none hv.coherent theme hid
  · exact build_edges_length hv.coherent theme
  · intro k s hs
    exact build_edge_shows hv theme hs

theorem leftChain_lights (j : Nat) : j ∈ View.leftChain.lights.1 ↔ j = 0 ∨ j = 1 := by
  have hactive : View.leftChain.activeTarget = some (.node 0) := rfl
  have hedges : View.leftChain.edges = [(0, 1), (1, 2)] := rfl
  rw [View.lights, hactive, hedges]
  simp [lightsOf]

noncomputable def hoveredChain : View ℝ ℝ :=
  (View.ofGraph View.chain .standard .standard 640 480).setHover (some (.node 0))

theorem hoveredChain_tick_t : (hoveredChain.tick 0.1).hover.t = 0.18 := by
  have hease : (hoveredChain.tick 0.1).hover = hoveredChain.hover.ease 0.1 :=
    congrArg (Hover.ease · (0.1 : ℝ)) (View.moveLayout_hover hoveredChain (0.1 : ℝ))
  have htarget : hoveredChain.hover.target = some (.node 0) := View.setHover_target _ _
  have ht : hoveredChain.hover.t = 0.0 := rfl
  have hwaited : hoveredChain.hover.waited = 0.0 := rfl
  simp only [hease, Hover.ease, htarget, ht, hwaited, Hover.delay, Scalar.min]
  norm_num

theorem hoveredChain_tick_activeTarget :
    (hoveredChain.tick 0.1).activeTarget = some (.node 0) := by
  rw [View.activeTarget, View.tick_target]
  rfl

theorem hoveredChain_tick_lights (j : Nat) :
    j ∈ (hoveredChain.tick 0.1).lights.1 ↔ j = 0 ∨ j = 1 := by
  have hedges : (hoveredChain.tick 0.1).edges = [(0, 1), (1, 2)] :=
    (View.tick_same hoveredChain 0.1).edges
  rw [View.lights, hoveredChain_tick_activeTarget, hedges]
  simp [lightsOf]

/-- The pointer is over the first of three nodes in a row for a tenth of a second. The far end of
the row is drawn below the two others, and dimmed almost by half of what it will be. -/
theorem far_end_drawn_first :
    (View.ofGraph View.chain .standard .standard 640 480 : View ℝ ℝ).run?
        [.hover (some (.node 0)), .tick 0.1] = some (hoveredChain.tick 0.1) ∧
      ∃ s rest, (build (hoveredChain.tick 0.1) .aurora).nodes = s :: rest ∧ s.id = ⟨"c"⟩ ∧
        s.emphasis = 0 ∧ s.opacity = 0.60520384 := by
  have hrun : (View.ofGraph View.chain .standard .standard 640 480 : View ℝ ℝ).run?
      [.hover (some (.node 0)), .tick 0.1] = some (hoveredChain.tick 0.1) := rfl
  obtain ⟨⟨dim, lit, -, -, hdim, -, -, hshow⟩, -⟩ := scene_draws_highlight_last hrun .aurora
  have hnodes : (hoveredChain.tick 0.1).nodes = hoveredChain.nodes :=
    (View.tick_same hoveredChain 0.1).nodes
  have hlength : hoveredChain.nodes.length = 3 := rfl
  simp only [hnodes, hlength, hoveredChain_tick_lights] at hdim
  have hfar : 2 ∈ dim := (hdim 2).2 (by decide)
  refine ⟨hrun, ?_⟩
  -- the far end alone is outside the highlight, and so the first one drawn
  cases dim with
  | nil => cases hfar
  | cons i dim =>
    obtain rfl : i = 2 := by
      have hi := (hdim i).1 List.mem_cons_self
      omega
    obtain ⟨s, rest, hs, -, hshapes⟩ := List.forall₂_cons_left_iff.1 hshow
    obtain ⟨hemphasis, hopacity⟩ := hs.dim (by rw [hoveredChain_tick_lights]; decide)
    obtain ⟨n, hn, hid, -⟩ := hs.node
    rw [hnodes] at hn
    cases hn
    rw [hoveredChain_tick_activeTarget] at hopacity
    refine ⟨s, rest, hshapes, hid, by rw [hemphasis]; norm_num, ?_⟩
    rw [hopacity, fadedIn, hoveredChain_tick_t]
    norm_num [Theme.aurora]

end Scene

end CodeGraph
