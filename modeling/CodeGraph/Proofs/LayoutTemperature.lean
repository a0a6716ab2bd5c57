import Mathlib.Analysis.SpecialFunctions.Trigonometric.Basic
import CodeGraph.Proofs.DragPins

namespace CodeGraph

def Action.isReheat {α β : Type} : Action α β → Bool
  | .reheat _ => true
  | _ => false

namespace Layout

variable {β : Type}

theorem modify_position {l : Layout β} {i : Nat} {f : Body β → Body β}
    (hf : ∀ b, l.bodies[i]? = some b → (f b).position = b.position) (j : Nat) :
    (l.modify i f).bodies[j]?.map Body.position = l.bodies[j]?.map Body.position := by
  rw [modify_body]
  split
  · next hij =>
    subst hij
    rw [Option.map_map]
    exact Option.map_congr fun b hb => hf b (Option.mem_def.1 hb)
  · rfl

theorem release_position (l : Layout β) (i j : Nat) :
    (l.release i).bodies[j]?.map Body.position = l.bodies[j]?.map Body.position := by
  apply modify_position
  intro b _
  rfl

/-- A body pinned where it is stays there. -/
theorem pin_own_position {l : Layout β} {i : Nat} {b : Body β} (hb : l.bodies[i]? = some b)
    (j : Nat) : (l.pin i b.position).bodies[j]?.map Body.position =
      l.bodies[j]?.map Body.position := by
  apply modify_position
  intro c hc
  cases hb.symm.trans hc
  rfl

theorem pin_position_of_ne {l : Layout β} {i j : Nat} (hij : i ≠ j) (p : Point β) :
    (l.pin i p).bodies[j]?.map Body.position = l.bodies[j]?.map Body.position := by
  rw [pin, modify_body, if_neg hij]

end Layout

namespace View

variable {α β : Type} {v w : View α β}

section Heat

variable [Scalar α]

/-- The temperature that the layout tends to is that of a drag while a node is held and zero
otherwise, and the layout is at rest only below its least temperature. -/
structure HeatedByDrag (v : View α β) : Prop where
  target : v.temperature.target = if v.drag.isSome then v.simulation.dragAlphaTarget else 0.0
  cold : v.temperature.running = false → v.temperature.alpha < v.simulation.alphaMin

theorem HeatedByDrag.congr (h : v.HeatedByDrag) (ht : w.temperature = v.temperature)
    (hd : w.drag = v.drag) (hs : w.simulation = v.simulation) : w.HeatedByDrag where
  target := by
    rw [ht, hd, hs]
    exact h.target
  cold := by
    rw [ht, hs]
    exact h.cold

theorem pointerUp_heatedByDrag (h : v.HeatedByDrag) : v.pointerUp.HeatedByDrag := by
  unfold pointerUp
  split
  · exact ⟨rfl, h.cold⟩
  · exact h.congr rfl rfl rfl

variable [Graded α β]

theorem pointerDown_heatedByDrag (h : v.HeatedByDrag) (p : Point α) :
    (v.pointerDown p).HeatedByDrag := by
  cases hp : v.nodeAt? p with
  | none =>
    rw [pointerDown_begins_pan hp]
    exact h.congr rfl rfl rfl
  | some i =>
    obtain ⟨b, -, hdown⟩ := pointerDown_begins_drag hp
    rw [hdown]
    exact ⟨rfl, fun hrest => (Bool.false_ne_true hrest.symm).elim⟩

variable [Scalar β]

theorem ofGraph_heatedByDrag (g : Graph) (sim : Simulation α β) (zoom : Zoom α)
    (width height : α) : (ofGraph g sim zoom width height).HeatedByDrag :=
  ⟨rfl, fun hrest => (Bool.false_ne_true hrest.symm).elim⟩

theorem pointerMove_heatedByDrag (h : v.HeatedByDrag) (p : Point α) :
    (v.pointerMove p).HeatedByDrag := by
  refine h.congr ?_ (pointerMove_drag v p) (pointerMove_same v p).simulation
  unfold pointerMove
  split <;> rfl

theorem tick_heatedByDrag (h : v.HeatedByDrag) (dt : β) : (v.tick dt).HeatedByDrag := by
  unfold tick moveLayout
  split
  · -- a tick that ends the run of the layout has just found it cold
    next hrun =>
    refine ⟨h.target, fun hrest => ?_⟩
    have hcools : v.cools = true := by simpa using hrest
    simpa [cools, hrun] using hcools
  · exact h.congr rfl rfl rfl

theorem tick_of_cools (h : v.cools = true) (dt : β) :
    (v.tick dt).temperature.running = false := by
  have hrun : v.temperature.running = true := (Bool.and_eq_true_iff.1 h).1
  rw [tick, moveLayout, if_pos hrun]
  exact congrArg Bool.not h

theorem act?_heatedByDrag {a : Action α β} (hv : v.HeatedByDrag) (ha : a.isReheat = false)
    (h : v.act? a = some w) : w.HeatedByDrag := by
  cases a with
  | down p => exact Option.some.inj h ▸ pointerDown_heatedByDrag hv p
  | move p => exact Option.some.inj h ▸ pointerMove_heatedByDrag hv p
  | up => exact Option.some.inj h ▸ pointerUp_heatedByDrag hv
  | leave => exact Option.some.inj h ▸ (pointerUp_heatedByDrag hv).congr rfl rfl rfl
  | wheel p delta alt =>
    obtain ⟨⟨used, u⟩, hu, rfl⟩ := Option.map_eq_some_iff.1 h
    rw [wheel?_transform hu]
    exact hv.congr rfl rfl rfl
  | hover target => exact Option.some.inj h ▸ hv.congr rfl rfl rfl
  | reheat target => exact (Bool.false_ne_true ha.symm).elim
  | resize width height => exact Option.some.inj h ▸ hv.congr rfl rfl rfl
  | tick dt => exact Option.some.inj h ▸ tick_heatedByDrag hv dt

theorem run?_heatedByDrag {actions : List (Action α β)} (hv : v.HeatedByDrag)
    (ha : ∀ a ∈ actions, a.isReheat = false) (h : v.run? actions = some w) : w.HeatedByDrag := by
  -- not by `run?_induction`, since the step asks that its event is one of the list
  induction actions generalizing v with
  | nil => exact Option.some.inj h ▸ hv
  | cons a as ih =>
    rw [run?_cons] at h
    obtain ⟨u, hu, hw⟩ := Option.bind_eq_some_iff.1 h
    exact ih (act?_heatedByDrag hv (ha a List.mem_cons_self) hu)
      (fun b hb => ha b (List.mem_cons_of_mem a hb)) hw

end Heat

def SamePlace (v w : View α β) (j : Nat) : Prop :=
  w.layout.bodies[j]?.map Body.position = v.layout.bodies[j]?.map Body.position

theorem SamePlace.position? [Graded α β] {j : Nat} (h : v.SamePlace w j) :
    w.position? j = v.position? j := by
  have hwide (u : View α β) : u.position? j =
      (u.layout.bodies[j]?.map Body.position).map fun q =>
        ⟨Graded.widen q.x, Graded.widen q.y⟩ := by
    rw [View.position?, Option.map_map]
    rfl
  rw [hwide, hwide, h]

variable [Scalar α]

/-- What a release does to a layout and its temperature: it never moves a node. -/
theorem pointerUp_rest (v : View α β) :
    v.pointerUp.temperature.alpha = v.temperature.alpha ∧
      v.pointerUp.temperature.running = v.temperature.running ∧
      ∀ j, v.SamePlace v.pointerUp j := by
  unfold pointerUp
  split
  · exact ⟨rfl, rfl, Layout.release_position _ _⟩
  · exact ⟨rfl, rfl, fun _ => rfl⟩

variable [Graded α β]

/-- What an event makes of a layout at rest: the temperature stays, only taking hold of a node
wakes the layout, and only a node that is being dragged can move. -/
structure LeavesAtRest (v : View α β) (a : Action α β) (w : View α β) : Prop where
  alpha : w.temperature.alpha = v.temperature.alpha
  wakes : w.temperature.running = true ↔ ∃ p i, a = .down p ∧ v.nodeAt? p = some i
  place : ∀ j, v.SamePlace w j ∨ ∃ p d, a = .move p ∧ v.drag = some d ∧ d.node = j

namespace LeavesAtRest

/-- What is no press, and moves nothing, leaves the layout at rest. -/
theorem of_same {a : Action α β} (hrest : v.temperature.running = false)
    (ha : ∀ p, a ≠ .down p) (halpha : w.temperature.alpha = v.temperature.alpha)
    (hrun : w.temperature.running = v.temperature.running) (hplace : ∀ j, v.SamePlace w j) :
    v.LeavesAtRest a w where
  alpha := halpha
  wakes := by
    rw [hrun, hrest]
    constructor
    · exact fun h => (Bool.false_ne_true h).elim
    · rintro ⟨p, -, hp, -⟩
      exact (ha p hp).elim
  place j := .inl (hplace j)

theorem pointerDown (hrest : v.temperature.running = false) (p : Point α) :
    v.LeavesAtRest (.down p) (v.pointerDown p) := by
  cases hp : v.nodeAt? p with
  | none =>
    rw [pointerDown_begins_pan hp]
    refine ⟨rfl, ?_, fun _ => .inl rfl⟩
    constructor
    · exact fun h => (Bool.false_ne_true (hrest.symm.trans h)).elim
    · rintro ⟨q, i, hq, hi⟩
      cases hq
      cases hp.symm.trans hi
  | some i =>
    obtain ⟨b, hb, hdown⟩ := pointerDown_begins_drag hp
    rw [hdown]
    exact ⟨rfl, ⟨fun _ => ⟨p, i, rfl, hp⟩, fun _ => rfl⟩,
      fun j => .inl (Layout.pin_own_position hb j)⟩

variable [Scalar β]

theorem pointerMove (hrest : v.temperature.running = false) (p : Point α) :
    v.LeavesAtRest (.move p) (v.pointerMove p) := by
  have hpress : ∀ q, Action.move p ≠ (.down q : Action α β) := fun q h => by cases h
  unfold View.pointerMove
  split
  · next _ _ d hdrag =>
    -- the pin goes with the pointer, and no other node has moved
    have hstay := of_same (w := v) hrest hpress rfl rfl fun _ => rfl
    refine ⟨rfl, hstay.wakes, fun j => ?_⟩
    by_cases hj : d.node = j
    · exact .inr ⟨p, d, rfl, hdrag, hj⟩
    · exact .inl (Layout.pin_position_of_ne hj _)
  · exact of_same hrest hpress rfl rfl fun _ => rfl
  · exact of_same hrest hpress rfl rfl fun _ => rfl

theorem tick (hrest : v.temperature.running = false) (dt : β) :
    v.LeavesAtRest (.tick dt) (v.tick dt) := by
  have hlayout : v.moveLayout dt = v := by
    rw [moveLayout, if_neg (by rw [hrest]; exact Bool.false_ne_true)]
  have htick : v.tick dt = { v with hover := v.hover.ease (Graded.widen dt) } := by
    rw [View.tick, hlayout]
  rw [htick]
  exact of_same hrest (fun p h => by cases h) rfl rfl fun _ => rfl

end LeavesAtRest

variable [Scalar β]

theorem act?_leavesAtRest {a : Action α β} (hrest : v.temperature.running = false)
    (ha : a.isReheat = false) (h : v.act? a = some w) : v.LeavesAtRest a w := by
  obtain ⟨halpha, hrun, hplace⟩ := pointerUp_rest v
  cases a with
  | down p => exact Option.some.inj h ▸ .pointerDown hrest p
  | move p => exact Option.some.inj h ▸ .pointerMove hrest p
  | up => exact Option.some.inj h ▸ .of_same hrest (fun p h => by cases h) halpha hrun hplace
  | leave => exact Option.some.inj h ▸ .of_same hrest (fun p h => by cases h) halpha hrun hplace
  | wheel p delta alt =>
    obtain ⟨⟨used, u⟩, hu, rfl⟩ := Option.map_eq_some_iff.1 h
    rw [wheel?_transform hu]
    exact .of_same hrest (fun p h => by cases h) rfl rfl fun _ => rfl
  | hover target =>
    exact Option.some.inj h ▸ .of_same hrest (fun p h => by cases h) rfl rfl fun _ => rfl
  | reheat target => exact (Bool.false_ne_true ha.symm).elim
  | resize width height =>
    exact Option.some.inj h ▸ .of_same hrest (fun p h => by cases h) rfl rfl fun _ => rfl
  | tick dt => exact Option.some.inj h ▸ .tick hrest dt

/-- Behind every run of events that do not heat the layout from outside, the temperature it tends to
is that of a drag exactly while a node is held, and the layout is at rest only below its least
temperature. From rest no event changes the temperature, only taking hold of a node wakes the
layout, and no node moves but the one that a drag moves along. -/
theorem temperature_follows_drag {g : Graph} {sim : Simulation α β} {zoom : Zoom α}
    {width height : α} {actions : List (Action α β)}
    (hactions : ∀ a ∈ actions, a.isReheat = false)
    (h : (ofGraph g sim zoom width height).run? actions = some v) :
    v.temperature.target = (if v.drag.isSome then sim.dragAlphaTarget else 0.0) ∧
      (v.temperature.running = false → v.temperature.alpha < sim.alphaMin) ∧
      (v.temperature.running = false → ∀ a w, a.isReheat = false → v.act? a = some w →
        w.temperature.alpha = v.temperature.alpha ∧
        (w.temperature.running = true ↔ ∃ p i, a = .down p ∧ v.nodeAt? p = some i) ∧
        ∀ j, w.position? j = v.position? j ∨
          ∃ p d, a = .move p ∧ v.drag = some d ∧ d.node = j) := by
  have hheat := run?_heatedByDrag (ofGraph_heatedByDrag g sim zoom width height) hactions h
  have hsim : v.simulation = sim := (run?_same h).simulation
  refine ⟨hsim ▸ hheat.target, hsim ▸ hheat.cold, fun hrest a w ha hw => ?_⟩
  have hkept := act?_leavesAtRest hrest ha hw
  refine ⟨hkept.alpha, hkept.wakes, fun j => ?_⟩
  rcases hkept.place j with hplace | hdragged
  · exact .inl hplace.position?
  · exact .inr hdragged

noncomputable def coldSimulation : Simulation ℝ ℝ := { Simulation.standard with alphaMin := 1 }

/-- The first node is held until the layout is at rest, and then moved: the layout stays at rest,
and the other node where it is. -/
theorem drag_at_rest_moves_one :
    ∃ v w : View ℝ ℝ,
      (ofGraph pair coldSimulation .standard 800 600).run? [.down ⟨500, 300⟩, .tick 0.016] =
        some v ∧
      v.temperature.running = false ∧ v.temperature.target = 0.3 ∧ v.temperature.alpha < 1 ∧
      v.act? (.move ⟨600, 300⟩) = some w ∧ w.temperature.alpha = v.temperature.alpha ∧
      w.temperature.running = false ∧ w.position? 1 = v.position? 1 := by
  have hhit : (ofGraph pair coldSimulation .standard 800 600).nodeAt? ⟨500, 300⟩ = some 0 :=
    pairView_hit
  obtain ⟨b, -, hdown⟩ := pointerDown_begins_drag hhit
  generalize hu :
    (ofGraph pair coldSimulation .standard 800 600).pointerDown ⟨500, 300⟩ = u at hdown
  have hdrag : (u.tick 0.016).drag = some ⟨0, ⟨500, 300⟩, b.position⟩ := by
    rw [tick_drag, hdown]
    rfl
  have hcools : u.cools = true := by
    have htemperature : u.temperature = ⟨1.0, 0.3, true⟩ := by
      rw [hdown]
      rfl
    have hsim : u.simulation = coldSimulation := by
      rw [hdown]
      rfl
    simp only [cools, nextAlpha, htemperature, hsim, coldSimulation, Simulation.standard]
    norm_num
  have hrest : (u.tick 0.016).temperature.running = false := tick_of_cools hcools 0.016
  have hrun : (ofGraph pair coldSimulation .standard 800 600).run?
      [.down ⟨500, 300⟩, .tick 0.016] = some (u.tick 0.016) := by
    rw [← hu]
    rfl
  have hplain : ∀ a ∈ [Action.down (⟨500, 300⟩ : Point ℝ), .tick (0.016 : ℝ)],
      a.isReheat = false := by simp [Action.isReheat]
  obtain ⟨htarget, hcold, hkept⟩ := temperature_follows_drag hplain hrun
  obtain ⟨halpha, hwakes, hplace⟩ := hkept hrest (.move ⟨600, 300⟩) _ rfl rfl
  rw [hdrag] at htarget
  refine ⟨_, _, hrun, hrest, htarget, hcold hrest, rfl, halpha, ?_, ?_⟩
  · rw [← Bool.not_eq_true, hwakes]
    rintro ⟨p, i, hp, -⟩
    cases hp
  · rcases hplace 1 with h | ⟨p, d, -, hd, hnode⟩
    · exact h
    · cases hdrag.symm.trans hd
      cases hnode

end View

end CodeGraph
