import Mathlib.Analysis.SpecialFunctions.Trigonometric.Basic
import CodeGraph.Proofs.InterruptedGesture

namespace CodeGraph

theorem Layout.pin_body {β : Type} {l : Layout β} {i : Nat} {b : Body β}
    (hb : l.bodies[i]? = some b) (p : Point β) :
    (l.pin i p).bodies[i]? = some { b with x := p.x, y := p.y, pinned := true } := by
  rw [pin, modify_body, if_pos rfl, hb]
  rfl

namespace Action

variable {α β : Type}

/-- Whether the event leaves a drag as it is and the scale too: neither a press nor a release nor
the wheel. -/
def keepsDrag : Action α β → Bool
  | .move _ | .hover _ | .reheat _ | .resize _ _ | .tick _ => true
  | .down _ | .up | .leave | .wheel _ _ _ => false

def movesTo? : Action α β → Option (Point α)
  | .move p => some p
  | _ => none

def lastMove? (actions : List (Action α β)) : Option (Point α) :=
  (actions.filterMap movesTo?).getLast?

theorem lastMove?_append (actions : List (Action α β)) (a : Action α β) :
    lastMove? (actions ++ [a]) = a.movesTo?.or (lastMove? actions) := by
  rw [lastMove?, List.filterMap_append, List.getLast?_append]
  cases h : a.movesTo? <;> simp [h, lastMove?]

end Action

namespace View

variable {α β : Type} [Scalar β] [Graded α β]

def heldAt [Scalar α] (d : Drag α β) (k : α) : Option (Point α) → Point β
  | none => d.nodeStart
  | some p =>
    ⟨d.nodeStart.x + Graded.narrow ((p.x - d.start.x) / k),
      d.nodeStart.y + Graded.narrow ((p.y - d.start.y) / k)⟩

variable [Scalar α] {v w : View α β} {d : Drag α β} {k : α} {last : Option (Point α)}

/-- A drag at scale `k` whose node is pinned where the pointer was last. -/
structure Holds (d : Drag α β) (k : α) (last : Option (Point α)) (v : View α β) : Prop where
  drag : v.drag = some d
  scale : v.transform.k = k
  body : ∃ b, v.layout.bodies[d.node]? = some b ∧ b.pinned = true ∧ b.position = heldAt d k last

theorem Holds.of_kept (h : Holds d k last v) (hdrag : w.drag = v.drag)
    (hscale : w.transform.k = v.transform.k) (hlayout : v.layout.Kept w.layout) :
    Holds d k last w where
  drag := hdrag.trans h.drag
  scale := hscale.trans h.scale
  body := by
    obtain ⟨b, hb, hpinned, hplace⟩ := h.body
    obtain ⟨c, hc, hkept⟩ := hlayout.body _ b hb
    exact ⟨c, hc, hkept.pinned.trans hpinned, (hkept.place hpinned).trans hplace⟩

theorem Holds.pointerMove (h : Holds d k last v) (p : Point α) :
    Holds d k (some p) (v.pointerMove p) := by
  obtain ⟨b, hb, -, -⟩ := h.body
  rw [pointerMove_of_drag h.drag]
  refine ⟨h.drag, h.scale, _, Layout.pin_body hb _, rfl, ?_⟩
  simp only [Body.position, dragPlace, heldAt, h.scale]

theorem tick_layout_kept (v : View α β) (dt : β) : v.layout.Kept (v.tick dt).layout := by
  unfold tick moveLayout
  split
  · exact Layout.update_kept _ _
  · exact .refl _

/-- One event of a drag: only a move takes the node anywhere. -/
theorem Holds.act? (h : Holds d k last v) {a : Action α β} (ha : a.keepsDrag = true) :
    ∃ w, v.act? a = some w ∧ Holds d k (a.movesTo?.or last) w := by
  cases a with
  | move p => exact ⟨_, rfl, h.pointerMove p⟩
  | hover target => exact ⟨_, rfl, h.of_kept rfl rfl (.refl _)⟩
  | reheat target => exact ⟨_, rfl, h.of_kept rfl rfl (.refl _)⟩
  | resize width height => exact ⟨_, rfl, h.of_kept rfl rfl (.refl _)⟩
  | tick dt =>
    refine ⟨_, rfl, h.of_kept (tick_drag v dt) ?_ (tick_layout_kept v dt)⟩
    rw [tick_transform]
  | down p => cases ha
  | up => cases ha
  | leave => cases ha
  | wheel p delta alt => cases ha

theorem Holds.run? (h : Holds d k none v) {actions : List (Action α β)}
    (hkeep : ∀ a ∈ actions, a.keepsDrag = true) :
    ∃ w, v.run? actions = some w ∧ Holds d k (Action.lastMove? actions) w := by
  -- from the end, where the last move is
  induction actions using List.reverseRecOn with
  | nil => exact ⟨v, rfl, h⟩
  | append_singleton actions a ih =>
    obtain ⟨u, hu, hheld⟩ := ih fun b hb => hkeep b (List.mem_append_left _ hb)
    obtain ⟨w, hw, hnext⟩ := hheld.act? (hkeep a (by simp))
    refine ⟨w, ?_, ?_⟩
    · rw [run?_append, hu, Option.bind_some, run?_singleton, hw]
    · rwa [Action.lastMove?_append]

theorem pointerDown_holds {p : Point α} {i : Nat} (h : v.nodeAt? p = some i) :
    ∃ b, v.layout.bodies[i]? = some b ∧
      Holds ⟨i, p, b.position⟩ v.transform.k none (v.pointerDown p) := by
  obtain ⟨b, hb, hdown⟩ := pointerDown_begins_drag h
  refine ⟨b, hb, ?_⟩
  rw [hdown]
  exact ⟨rfl, rfl, _, Layout.pin_body hb _, rfl, rfl⟩

/-- Behind a press on node `i`, as long as there is neither another press nor a release nor the
wheel, the node is pinned, and is where it was at the press, moved by the way of the pointer to its
last place at the scale of the view. The events between, and their number, do not matter. A move of
the pointer moves no other node. -/
theorem drag_follows_pointer {p : Point α} {i : Nat} (hhit : v.nodeAt? p = some i)
    {actions : List (Action α β)} (hkeep : ∀ a ∈ actions, a.keepsDrag = true) :
    ∃ b c w, v.layout.bodies[i]? = some b ∧ v.run? (.down p :: actions) = some w ∧
      w.layout.bodies[i]? = some c ∧ c.pinned = true ∧
      (Action.lastMove? actions = none → c.position = b.position) ∧
      (∀ s, Action.lastMove? actions = some s →
        c.position = ⟨b.x + Graded.narrow ((s.x - p.x) / v.transform.k),
          b.y + Graded.narrow ((s.y - p.y) / v.transform.k)⟩) ∧
      ∀ q j, j ≠ i → (w.pointerMove q).layout.bodies[j]? = w.layout.bodies[j]? := by
  obtain ⟨b, hb, hdown⟩ := pointerDown_holds hhit
  obtain ⟨w, hw, hheld⟩ := hdown.run? hkeep
  obtain ⟨c, hc, hpinned, hplace⟩ := hheld.body
  refine ⟨b, c, w, hb, hw, hc, hpinned, fun hnone => ?_, fun s hs => ?_, fun q j hj => ?_⟩
  · rw [hplace, hnone]
    rfl
  · rw [hplace, hs]
    rfl
  · rw [pointerMove_of_drag hheld.drag, Layout.pin, Layout.modify_body, if_neg (Ne.symm hj)]

noncomputable def wander : List (Action ℝ ℝ) :=
  [.move ⟨510, 350⟩, .tick 0.016, .hover (some (.node 1)), .resize 1000 900, .move ⟨620, 340⟩,
    .reheat 1, .tick 0.016]

/-- Behind the detours the node that was pressed is as far from its place as the pointer is from the
press. -/
theorem wandering_node_at_pointer :
    pairView.nodeAt? ⟨500, 300⟩ = some 0 ∧
      ∃ c w, pairView.run? (.down ⟨500, 300⟩ :: wander) = some w ∧
        w.layout.bodies[0]? = some c ∧ c.pinned = true ∧ c.position = ⟨220, 40⟩ ∧
        (w.pointerMove ⟨700, 300⟩).layout.bodies[1]? = w.layout.bodies[1]? := by
  have hkeep : ∀ a ∈ wander, a.keepsDrag = true := by simp [wander, Action.keepsDrag]
  obtain ⟨b, c, w, hb, hw, hc, hpinned, -, hplace, hothers⟩ :=
    drag_follows_pointer pairView_hit hkeep
  have hstart : pairView.position? 0 = some ⟨100, 0⟩ := by
    rw [← positions_getElem?, pairView_positions]
    rfl
  obtain ⟨hx, hy⟩ : b.x = 100 ∧ b.y = 0 := by simpa [position?, hb, Graded.widen] using hstart
  refine ⟨pairView_hit, c, w, hw, hc, hpinned, ?_, hothers _ _ Nat.one_ne_zero⟩
  rw [hplace ⟨620, 340⟩ rfl, hx, hy, pairView_transform]
  norm_num [Graded.narrow]

end View

end CodeGraph
