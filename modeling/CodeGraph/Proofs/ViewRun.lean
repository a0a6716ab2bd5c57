import CodeGraph.Proofs.LayoutUpdate
import CodeGraph.Proofs.ViewBuild
import CodeGraph.View.Action

namespace CodeGraph.View

variable {α β : Type}

/-- Two views of one graph with one body for each node. -/
structure SameGraph (v w : View α β) : Prop where
  nodes : w.nodes = v.nodes
  edges : w.edges = v.edges
  neighbors : w.neighbors = v.neighbors
  simulation : w.simulation = v.simulation
  zoom : w.zoom = v.zoom
  size : w.layout.bodies.size = v.layout.bodies.size

theorem SameGraph.refl (v : View α β) : v.SameGraph v := ⟨rfl, rfl, rfl, rfl, rfl, rfl⟩

theorem SameGraph.trans {u v w : View α β} (h : u.SameGraph v) (h' : v.SameGraph w) :
    u.SameGraph w where
  nodes := h'.nodes.trans h.nodes
  edges := h'.edges.trans h.edges
  neighbors := h'.neighbors.trans h.neighbors
  simulation := h'.simulation.trans h.simulation
  zoom := h'.zoom.trans h.zoom
  size := h'.size.trans h.size

theorem SameGraph.coherent {v w : View α β} (h : v.SameGraph w) (hv : v.Coherent) :
    w.Coherent where
  ids := by rw [h.nodes]; exact hv.ids
  bodies := by rw [h.size, h.nodes]; exact hv.bodies
  edges := by rw [h.edges, h.nodes]; exact hv.edges
  adjacent := by rw [h.nodes, h.neighbors, h.edges]; exact hv.adjacent

variable [Scalar α]

theorem setHover_same (v : View α β) (target : Option Target) : v.SameGraph (v.setHover target) :=
  ⟨rfl, rfl, rfl, rfl, rfl, rfl⟩

theorem pointerUp_same (v : View α β) : v.SameGraph v.pointerUp := by
  unfold pointerUp
  split
  · exact ⟨rfl, rfl, rfl, rfl, rfl, Layout.release_size _ _⟩
  · exact ⟨rfl, rfl, rfl, rfl, rfl, rfl⟩

/-- A wheel event changes at most the transform. -/
theorem wheel?_transform {v w : View α β} {p : Point α} {delta : α} {alt used : Bool}
    (h : v.wheel? p delta alt = some (used, w)) : w = { v with transform := w.transform } := by
  unfold wheel? at h
  split at h
  · cases h
    rfl
  · obtain ⟨k, -, hk⟩ := Option.bind_eq_some_iff.1 h
    cases hk
    rfl

variable [Graded α β]

theorem pointerDown_same (v : View α β) (p : Point α) : v.SameGraph (v.pointerDown p) := by
  unfold pointerDown
  split
  · split
    · exact ⟨rfl, rfl, rfl, rfl, rfl, Layout.pin_size _ _ _⟩
    · exact .refl v
  · exact ⟨rfl, rfl, rfl, rfl, rfl, rfl⟩

variable [Scalar β]

theorem pointerMove_same (v : View α β) (p : Point α) : v.SameGraph (v.pointerMove p) := by
  unfold pointerMove
  split
  · exact ⟨rfl, rfl, rfl, rfl, rfl, Layout.pin_size _ _ _⟩
  · exact ⟨rfl, rfl, rfl, rfl, rfl, rfl⟩
  · exact setHover_same v _

theorem moveLayout_same (v : View α β) (dt : β) : v.SameGraph (v.moveLayout dt) := by
  unfold moveLayout
  split
  · exact ⟨rfl, rfl, rfl, rfl, rfl, (Layout.update_kept _ _).size⟩
  · exact .refl v

theorem tick_same (v : View α β) (dt : β) : v.SameGraph (v.tick dt) :=
  (moveLayout_same v dt).trans ⟨rfl, rfl, rfl, rfl, rfl, rfl⟩

theorem pointerMove_drag (v : View α β) (p : Point α) : (v.pointerMove p).drag = v.drag := by
  unfold pointerMove
  split <;> rfl

theorem tick_drag (v : View α β) (dt : β) : (v.tick dt).drag = v.drag := by
  have h : (v.tick dt).drag = (v.moveLayout dt).drag := rfl
  rw [h, moveLayout]
  split <;> rfl

theorem act?_same {v w : View α β} {a : Action α β} (h : v.act? a = some w) : v.SameGraph w := by
  cases a with
  | down p => exact Option.some.inj h ▸ pointerDown_same v p
  | move p => exact Option.some.inj h ▸ pointerMove_same v p
  | up => exact Option.some.inj h ▸ pointerUp_same v
  | leave => exact Option.some.inj h ▸ (pointerUp_same v).trans (setHover_same _ none)
  | wheel p delta alt =>
    obtain ⟨⟨used, u⟩, hu, rfl⟩ := Option.map_eq_some_iff.1 h
    rw [wheel?_transform hu]
    exact ⟨rfl, rfl, rfl, rfl, rfl, rfl⟩
  | hover target => exact Option.some.inj h ▸ setHover_same v target
  | reheat target => exact Option.some.inj h ▸ ⟨rfl, rfl, rfl, rfl, rfl, rfl⟩
  | resize width height => exact Option.some.inj h ▸ ⟨rfl, rfl, rfl, rfl, rfl, rfl⟩
  | tick dt => exact Option.some.inj h ▸ tick_same v dt

@[simp] theorem run?_nil (v : View α β) : v.run? [] = some v := rfl

theorem run?_cons (v : View α β) (a : Action α β) (as : List (Action α β)) :
    v.run? (a :: as) = (v.act? a).bind fun u => u.run? as := rfl

theorem run?_append (v : View α β) (as bs : List (Action α β)) :
    v.run? (as ++ bs) = (v.run? as).bind fun u => u.run? bs := by
  simp only [run?, List.foldlM_append]
  rfl

theorem run?_singleton (v : View α β) (a : Action α β) : v.run? [a] = v.act? a :=
  bind_pure (v.act? a)

/-- What holds at first and is kept by every event holds behind every run. -/
theorem run?_induction {P : View α β → Prop}
    (step : ∀ (u u' : View α β) (a : Action α β), P u → u.act? a = some u' → P u')
    {v w : View α β} {actions : List (Action α β)} (first : P v)
    (h : v.run? actions = some w) : P w := by
  induction actions generalizing v with
  | nil => exact Option.some.inj h ▸ first
  | cons a as ih =>
    rw [run?_cons] at h
    obtain ⟨u, hu, hw⟩ := Option.bind_eq_some_iff.1 h
    exact ih (step v u a first hu) hw

theorem run?_same {v w : View α β} {actions : List (Action α β)} (h : v.run? actions = some w) :
    v.SameGraph w :=
  run?_induction (fun _ _ _ hu ha => hu.trans (act?_same ha)) (.refl v) h

theorem run?_coherent {v w : View α β} {actions : List (Action α β)}
    (h : v.run? actions = some w) (hv : v.Coherent) : w.Coherent := (run?_same h).coherent hv

theorem act?_isSome {v : View α β} (hz : v.zoom.least ≤ v.zoom.greatest) (a : Action α β) :
    (v.act? a).isSome = true := by
  cases a with
  | wheel p delta alt =>
    simp only [act?, wheel?, Zoom.clamp?, if_pos hz, Option.isSome_map]
    split <;> rfl
  | _ => rfl

/-- Only a wheel without bounds in order stops a run. -/
theorem run?_isSome {v : View α β} (hz : v.zoom.least ≤ v.zoom.greatest)
    (actions : List (Action α β)) : (v.run? actions).isSome = true := by
  induction actions generalizing v with
  | nil => rfl
  | cons a as ih =>
    obtain ⟨u, hu⟩ := Option.isSome_iff_exists.1 (act?_isSome hz a)
    rw [run?_cons, hu, Option.bind_some]
    exact ih (by rw [(act?_same hu).zoom]; exact hz)

end CodeGraph.View
