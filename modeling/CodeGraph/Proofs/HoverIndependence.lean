import CodeGraph.Proofs.HoverHighlight
import Mathlib.Data.Option.Basic

namespace CodeGraph.View

variable {α β : Type} {u v w : View α β}

/-- Two views that differ in nothing but the highlight. -/
def SameButHover (v w : View α β) : Prop := ∃ h, w = { v with hover := h }

namespace SameButHover

theorem refl (v : View α β) : v.SameButHover v := ⟨v.hover, rfl⟩

theorem symm (h : v.SameButHover w) : w.SameButHover v := by
  obtain ⟨h, rfl⟩ := h
  exact ⟨v.hover, rfl⟩

theorem trans (h : u.SameButHover v) (h' : v.SameButHover w) : u.SameButHover w := by
  obtain ⟨h, rfl⟩ := h
  obtain ⟨h', rfl⟩ := h'
  exact ⟨h', rfl⟩

variable [Scalar α]

theorem setHover (h : v.SameButHover w) (target target' : Option Target) :
    (v.setHover target).SameButHover (w.setHover target') := by
  obtain ⟨h, rfl⟩ := h
  exact ⟨_, rfl⟩

theorem pointerUp (h : v.SameButHover w) : v.pointerUp.SameButHover w.pointerUp := by
  obtain ⟨h, rfl⟩ := h
  unfold View.pointerUp
  cases v.drag with
  | none => exact ⟨h, rfl⟩
  | some d => exact ⟨h, rfl⟩

theorem wheel? (h : v.SameButHover w) (p : Point α) (delta : α) (alt : Bool) :
    Option.Rel SameButHover ((v.wheel? p delta alt).map Prod.snd)
      ((w.wheel? p delta alt).map Prod.snd) := by
  obtain ⟨h, rfl⟩ := h
  unfold View.wheel?
  split
  · exact .some ⟨h, rfl⟩
  · -- the bounds of the zoom are in order for both or for none
    dsimp only
    cases v.zoom.clamp? _ with
    | none => exact .none
    | some k => exact .some ⟨h, rfl⟩

variable [Graded α β]

theorem targetAt? (h : v.SameButHover w) (p : Point α) :
    w.nodeAt? p = v.nodeAt? p ∧ w.edgeAt? p = v.edgeAt? p ∧ w.targetAt? p = v.targetAt? p := by
  obtain ⟨h, rfl⟩ := h
  exact ⟨rfl, rfl, rfl⟩

theorem pointerDown (h : v.SameButHover w) (p : Point α) :
    (v.pointerDown p).SameButHover (w.pointerDown p) := by
  have hhit := (h.targetAt? p).1
  unfold View.pointerDown
  rw [hhit]
  obtain ⟨h, rfl⟩ := h
  cases v.nodeAt? p with
  | none => exact ⟨h, rfl⟩
  | some i =>
    dsimp only
    cases v.layout.bodies[i]? with
    | none => exact ⟨h, rfl⟩
    | some b => exact ⟨_, rfl⟩

variable [Scalar β]

theorem pointerMove (h : v.SameButHover w) (p : Point α) :
    (v.pointerMove p).SameButHover (w.pointerMove p) := by
  obtain ⟨h, rfl⟩ := h
  unfold View.pointerMove
  dsimp only
  split
  · exact ⟨h, rfl⟩
  · exact ⟨h, rfl⟩
  · exact ⟨_, rfl⟩

theorem tick (h : v.SameButHover w) (dt : β) : (v.tick dt).SameButHover (w.tick dt) := by
  obtain ⟨h, rfl⟩ := h
  unfold View.tick moveLayout
  dsimp only
  cases v.temperature.running with
  | true => exact ⟨_, rfl⟩
  | false => exact ⟨_, rfl⟩

theorem act? (h : v.SameButHover w) (a : Action α β) :
    Option.Rel SameButHover (v.act? a) (w.act? a) := by
  cases a with
  | down p => exact .some (h.pointerDown p)
  | move p => exact .some (h.pointerMove p)
  | up => exact .some h.pointerUp
  | leave => exact .some (h.pointerUp.setHover none none)
  | wheel p delta alt => exact h.wheel? p delta alt
  | hover target => exact .some (h.setHover target target)
  | reheat target =>
    obtain ⟨h, rfl⟩ := h
    exact .some ⟨h, rfl⟩
  | resize width height =>
    obtain ⟨h, rfl⟩ := h
    exact .some ⟨h, rfl⟩
  | tick dt => exact .some (h.tick dt)

end SameButHover

/-- A hover, or a move while the pointer holds neither a node nor the background. -/
def OnlyHovers (v : View α β) : Action α β → Prop
  | .hover _ => True
  | .move _ => v.drag = none ∧ v.pan = none
  | _ => False

def unmarked (events : List (Action α β × Bool)) : List (Action α β) :=
  (events.filter fun e => !e.2).map Prod.fst

variable [Scalar α] [Scalar β] [Graded α β]

/-- Each marked event of the run only hovers in the view that it happens to. -/
def MarksHovers (v : View α β) (events : List (Action α β × Bool)) : Prop :=
  ∀ before a u, before ++ [(a, true)] <+: events → v.run? (before.map Prod.fst) = some u →
    u.OnlyHovers a

theorem marksHovers_nil (v : View α β) : v.MarksHovers [] := by
  intro before a u hprefix
  simp at hprefix

theorem marksHovers_cons {e : Action α β × Bool} {events : List (Action α β × Bool)} :
    v.MarksHovers (e :: events) ↔
      (e.2 = true → v.OnlyHovers e.1) ∧ ∀ u, v.act? e.1 = some u → u.MarksHovers events := by
  constructor
  · intro h
    refine ⟨fun hmark => h [] e.1 v (by simp [← hmark]) rfl, fun u hu before a t hb ht => ?_⟩
    refine h (e :: before) a t (by simpa using hb) ?_
    rw [List.map_cons, run?_cons, hu]
    exact ht
  · rintro ⟨hfirst, hrest⟩ before a u hb hu
    cases before with
    | nil =>
      obtain rfl : (a, true) = e := by simpa using hb
      cases hu
      exact hfirst rfl
    | cons d before =>
      obtain ⟨rfl, hbefore⟩ : d = e ∧ before ++ [(a, true)] <+: events := by simpa using hb
      rw [List.map_cons, run?_cons] at hu
      obtain ⟨t, ht, hu⟩ := Option.bind_eq_some_iff.1 hu
      exact hrest t ht before a u hbefore hu

theorem act?_of_onlyHovers {a : Action α β} (ha : v.OnlyHovers a) :
    ∃ w, v.act? a = some w ∧ v.SameButHover w := by
  cases a with
  | hover target => exact ⟨_, rfl, _, rfl⟩
  | move p =>
    obtain ⟨hdrag, hpan⟩ := ha
    refine ⟨_, rfl, ?_⟩
    rw [pointerMove, hdrag, hpan]
    exact ⟨_, rfl⟩
  | _ => exact ha.elim

/-- Of two runs side by side, the second skips what is marked, and stays with the first one. -/
theorem run?_unmarked {events : List (Action α β × Bool)} (hvw : v.SameButHover w)
    (hmarks : v.MarksHovers events) :
    Option.Rel SameButHover (v.run? (events.map Prod.fst)) (w.run? (unmarked events)) := by
  induction events generalizing v w with
  | nil => exact .some hvw
  | cons e events ih =>
    obtain ⟨a, mark⟩ := e
    obtain ⟨hfirst, hrest⟩ := marksHovers_cons.1 hmarks
    rw [List.map_cons, run?_cons]
    cases mark with
    | true =>
      -- the first run takes the step alone, and its highlight is all that changes
      obtain ⟨u, hu, hsame⟩ := act?_of_onlyHovers (hfirst rfl)
      rw [hu, Option.bind_some]
      exact ih (hsame.symm.trans hvw) (hrest u hu)
    | false =>
      have hcons : unmarked ((a, false) :: events) = a :: unmarked events := rfl
      have hstep := hvw.act? a
      rw [hcons, run?_cons]
      -- both take the step, or both are stopped by bounds of the zoom that are in no order
      generalize hu : v.act? a = next at hstep ⊢
      generalize w.act? a = next' at hstep ⊢
      cases hstep with
      | none => exact .none
      | some hsame => exact ih hsame (hrest _ hu)

/-- A run from a fresh view, and the same run without some of its hovers and some of the moves made
while nothing was held: both have an answer or neither has. They end with one layout, one transform,
one gesture, one temperature and one size, so that the pointer hits the same everywhere. Only the
highlight may differ. -/
theorem hovering_leaves_layout (g : Graph) (sim : Simulation α β) (zoom : Zoom α)
    (width height : α) (events : List (Action α β × Bool))
    (hmarks : (ofGraph g sim zoom width height).MarksHovers events) :
    ((ofGraph g sim zoom width height).run? (events.map Prod.fst) = none →
      (ofGraph g sim zoom width height).run? (unmarked events) = none) ∧
    ∀ u, (ofGraph g sim zoom width height).run? (events.map Prod.fst) = some u →
      ∃ w, (ofGraph g sim zoom width height).run? (unmarked events) = some w ∧
        w.layout = u.layout ∧ w.transform = u.transform ∧ w.drag = u.drag ∧ w.pan = u.pan ∧
        w.temperature = u.temperature ∧ w.width = u.width ∧ w.height = u.height ∧
        (∀ p, w.nodeAt? p = u.nodeAt? p ∧ w.edgeAt? p = u.edgeAt? p ∧
          w.targetAt? p = u.targetAt? p) ∧
        w = { u with hover := w.hover } := by
  have hruns := run?_unmarked (.refl (ofGraph g sim zoom width height)) hmarks
  constructor
  · intro hnone
    rw [hnone] at hruns
    generalize (ofGraph g sim zoom width height).run? (unmarked events) = second at hruns ⊢
    cases hruns
    rfl
  · intro u hu
    rw [hu] at hruns
    generalize (ofGraph g sim zoom width height).run? (unmarked events) = second at hruns ⊢
    cases hruns with
    | some hsame =>
      have hhits := hsame.targetAt?
      obtain ⟨h, rfl⟩ := hsame
      exact ⟨_, rfl, rfl, rfl, rfl, rfl, rfl, rfl, rfl, hhits, rfl⟩

def glance : List (Action Float Float32 × Bool) :=
  [(.move ⟨0, 0⟩, true), (.tick 0.016, false), (.hover (some (.node 0)), true),
    (.resize 1000 800, false)]

/-- With and without the glance the layout of the row is the same, and only with it the first node
is highlighted. -/
theorem glance_leaves_layout_of_chain :
    (ofGraph chain .standard .standard 800 600).MarksHovers glance ∧
      ∃ u w, (ofGraph chain .standard .standard 800 600).run? (glance.map Prod.fst) = some u ∧
        (ofGraph chain .standard .standard 800 600).run? [.tick 0.016, .resize 1000 800] = some w ∧
        w.layout = u.layout ∧ w.transform = u.transform ∧
        u.hover.target = some (.node 0) ∧ w.hover.target = none := by
  have hmarks : (ofGraph chain .standard .standard 800 600).MarksHovers glance := by
    refine marksHovers_cons.2 ⟨fun _ => ⟨rfl, rfl⟩, fun u _ => ?_⟩
    refine marksHovers_cons.2 ⟨fun h => (Bool.false_ne_true h).elim, fun u _ => ?_⟩
    refine marksHovers_cons.2 ⟨fun _ => trivial, fun u _ => ?_⟩
    exact marksHovers_cons.2 ⟨fun h => (Bool.false_ne_true h).elim, fun u _ => marksHovers_nil u⟩
  obtain ⟨-, hsome⟩ := hovering_leaves_layout chain .standard .standard 800 600 glance hmarks
  obtain ⟨w, hw, hlayout, htransform, -⟩ := hsome _ rfl
  refine ⟨hmarks, _, w, rfl, hw, hlayout, htransform, ?_, ?_⟩
  · exact setHover_target _ _
  · cases hw
    exact tick_target _ _

end CodeGraph.View
