import Mathlib.Analysis.SpecialFunctions.Trigonometric.Basic
import CodeGraph.Proofs.DragPins

namespace CodeGraph

theorem Point.eq_iff {α : Type} {p q : Point α} : p = q ↔ p.x = q.x ∧ p.y = q.y := by
  obtain ⟨x, y⟩ := p
  obtain ⟨x', y'⟩ := q
  simp

theorem Layout.pin_place {β : Type} {l : Layout β} {i : Nat} (hi : i < l.bodies.size)
    (p : Point β) : (l.pin i p).bodies[i]?.map Body.position = some p := by
  rw [pin, modify_body, if_pos rfl, Array.getElem?_eq_getElem hi]
  rfl

namespace View

section Held

variable {α β : Type} {v w : View α β} [Scalar α] [Scalar β] [Graded α β]

/-- What an event does to the drag: nothing, its end, or its beginning at a node under the pointer,
with the places of both noted. -/
theorem act?_drag {a : Action α β} (h : v.act? a = some w) :
    w.drag = v.drag ∨ w.drag = none ∨ ∃ p i b, a = .down p ∧ v.nodeAt? p = some i ∧
      v.layout.bodies[i]? = some b ∧ w.drag = some ⟨i, p, b.position⟩ := by
  cases a with
  | down p =>
    cases h
    cases hp : v.nodeAt? p with
    | none => exact .inl (pointerDown_miss hp).1
    | some i =>
      obtain ⟨b, hb, hdown⟩ := pointerDown_begins_drag hp
      refine .inr (.inr ⟨p, i, b, rfl, hp, hb, ?_⟩)
      rw [hdown]
      rfl
  | move p =>
    cases h
    exact .inl (pointerMove_drag v p)
  | up =>
    cases h
    exact .inr (.inl (pointerUp_drag v))
  | leave =>
    cases h
    exact .inr (.inl (pointerUp_drag v))
  | wheel p delta alt =>
    obtain ⟨⟨used, u⟩, hu, rfl⟩ := Option.map_eq_some_iff.1 h
    exact .inl (by rw [wheel?_transform hu])
  | hover target =>
    cases h
    exact .inl rfl
  | reheat target =>
    cases h
    exact .inl rfl
  | resize width height =>
    cases h
    exact .inl rfl
  | tick dt =>
    cases h
    exact .inl (tick_drag v dt)

def HoldsNode (v : View α β) : Prop := ∀ d, v.drag = some d → d.node < v.layout.bodies.size

theorem act?_holdsNode {a : Action α β} (hv : v.HoldsNode) (h : v.act? a = some w) :
    w.HoldsNode := by
  intro d hd
  rw [(act?_same h).size]
  rcases act?_drag h with hsame | hnone | ⟨p, i, b, -, hp, -, hdrag⟩
  · exact hv d (hsame.symm.trans hd)
  · cases hnone.symm.trans hd
  · cases hdrag.symm.trans hd
    exact nodeAt?_lt hp

theorem pointerMove_of_drag {d : Drag α β} (hd : v.drag = some d) (p : Point α) :
    v.pointerMove p = { v with layout := v.layout.pin d.node (v.dragPlace d p) } := by
  simp only [pointerMove, hd]

end Held

section Scale

variable {α β : Type} {v u w : View α β} [Scalar α]

/-- A wheel event leaves the view alone, or sets a scale within the bounds and moves the view so
that what is under the pointer stays there. -/
theorem wheel?_cases {p : Point α} {delta : α} {alt used : Bool}
    (h : v.wheel? p delta alt = some (used, u)) :
    u = v ∨ v.zoom.least ≤ v.zoom.greatest ∧ ∃ x, u = { v with transform :=
      let k := Scalar.clamp v.zoom.least v.zoom.greatest x
      ⟨p.x - (p.x - v.transform.x) * (k / v.transform.k),
        p.y - (p.y - v.transform.y) * (k / v.transform.k), k⟩ } := by
  unfold wheel? at h
  split at h
  · cases h
    exact .inl rfl
  · obtain ⟨k, hk, hu⟩ := Option.bind_eq_some_iff.1 h
    unfold Zoom.clamp? at hk
    split at hk
    · next hbounds =>
      cases hk
      cases hu
      exact .inr ⟨hbounds, _, rfl⟩
    · cases hk

theorem pointerUp_transform (v : View α β) : v.pointerUp.transform = v.transform := by
  unfold pointerUp
  split <;> rfl

variable [Graded α β]

theorem pointerDown_transform (v : View α β) (p : Point α) :
    (v.pointerDown p).transform = v.transform := by
  cases hp : v.nodeAt? p with
  | none => rw [pointerDown_begins_pan hp]
  | some i =>
    obtain ⟨b, -, hdown⟩ := pointerDown_begins_drag hp
    rw [hdown]
    rfl

variable [Scalar β]

theorem tick_transform (v : View α β) (dt : β) : (v.tick dt).transform = v.transform := by
  unfold tick moveLayout
  split <;> rfl

theorem pointerMove_scale (v : View α β) (p : Point α) :
    (v.pointerMove p).transform.k = v.transform.k := by
  unfold pointerMove
  split <;> rfl

theorem act?_scale {a : Action α β} (h : v.act? a = some w) :
    w.transform.k = v.transform.k ∨ v.zoom.least ≤ v.zoom.greatest ∧
      ∃ x, w.transform.k = Scalar.clamp v.zoom.least v.zoom.greatest x := by
  cases a with
  | down p =>
    cases h
    exact .inl (by rw [pointerDown_transform])
  | move p =>
    cases h
    exact .inl (pointerMove_scale v p)
  | up =>
    cases h
    exact .inl (by rw [pointerUp_transform])
  | leave =>
    cases h
    exact .inl (congrArg Transform.k (pointerUp_transform v))
  | wheel p delta alt =>
    obtain ⟨⟨used, u⟩, hu, rfl⟩ := Option.map_eq_some_iff.1 h
    rcases wheel?_cases hu with rfl | ⟨hbounds, x, rfl⟩
    · exact .inl rfl
    · exact .inr ⟨hbounds, x, rfl⟩
  | hover target =>
    cases h
    exact .inl rfl
  | reheat target =>
    cases h
    exact .inl rfl
  | resize width height =>
    cases h
    exact .inl rfl
  | tick dt =>
    cases h
    exact .inl (by rw [tick_transform])

end Scale

theorem clamp_pos {lo hi : ℝ} (hlo : 0 < lo) (hbounds : lo ≤ hi) (x : ℝ) :
    0 < Scalar.clamp lo hi x := by
  unfold Scalar.clamp
  split_ifs with hless hgreater
  · exact hlo
  · linarith
  · linarith

/-- What holds of a view at any time, if the bounds of its zoom are positive and in order. -/
structure InOrder (v : View ℝ ℝ) : Prop where
  held : v.HoldsNode
  scale : 0 < v.transform.k
  least : 0 < v.zoom.least
  bounds : v.zoom.least ≤ v.zoom.greatest

theorem InOrder.act? {v w : View ℝ ℝ} {a : Action ℝ ℝ} (hv : v.InOrder)
    (h : v.act? a = some w) : w.InOrder where
  held := act?_holdsNode hv.held h
  scale := by
    rcases act?_scale h with hk | ⟨hbounds, x, hk⟩
    · exact hk.symm ▸ hv.scale
    · exact hk.symm ▸ clamp_pos hv.least hbounds x
  least := by
    rw [(act?_same h).zoom]
    exact hv.least
  bounds := by
    rw [(act?_same h).zoom]
    exact hv.bounds

theorem run?_inOrder {g : Graph} {sim : Simulation ℝ ℝ} {zoom : Zoom ℝ} {width height : ℝ}
    {actions : List (Action ℝ ℝ)} {v : View ℝ ℝ} (hleast : 0 < zoom.least)
    (hbounds : zoom.least ≤ zoom.greatest)
    (h : (ofGraph g sim zoom width height).run? actions = some v) : v.InOrder := by
  refine run?_induction (fun _ _ _ hu ha => hu.act? ha) ⟨?_, ?_, hleast, hbounds⟩ h
  · intro d hd
    cases hd
  · have hone : (ofGraph g sim zoom width height).transform.k = (1.0 : ℝ) := rfl
    rw [hone]
    norm_num

variable {v u : View ℝ ℝ} {p : Point ℝ}

/-- A move to `p`, the event, and once more a move to `p`: the second move changes neither the
transform nor the place of a node that is held. -/
def KeepsUpdate (v : View ℝ ℝ) (p : Point ℝ) (a : Action ℝ ℝ) : Prop :=
  ∃ u w, v.run? [.move p, a] = some u ∧ v.run? [.move p, a, .move p] = some w ∧
    w.transform = u.transform ∧ ∀ d, v.drag = some d → w.position? d.node = u.position? d.node

def Zooms (v : View ℝ ℝ) (p : Point ℝ) (delta : ℝ) (alt : Bool) : Prop :=
  ∃ used u, v.wheel? p delta alt = some (used, u) ∧ u.transform.k ≠ v.transform.k

theorem keepsUpdate_iff {a : Action ℝ ℝ} (hu : (v.pointerMove p).act? a = some u) :
    v.KeepsUpdate p a ↔ (u.pointerMove p).transform = u.transform ∧
      ∀ d, v.drag = some d → (u.pointerMove p).position? d.node = u.position? d.node := by
  have htwo : v.run? [.move p, a] = some u := by
    rw [run?_cons, act?, Option.bind_some, run?_singleton, hu]
  have hthree : v.run? [.move p, a, .move p] = some (u.pointerMove p) := by
    rw [run?_cons, act?, Option.bind_some, run?_cons, hu]
    rfl
  constructor
  · rintro ⟨u', w', hu', hw', hkept⟩
    cases htwo.symm.trans hu'
    cases hthree.symm.trans hw'
    exact hkept
  · intro hkept
    exact ⟨u, _, htwo, hthree, hkept⟩

theorem pointerMove_of_pan {pan : Pan ℝ} (hd : v.drag = none) (hpan : v.pan = some pan)
    (p : Point ℝ) :
    v.pointerMove p = { v with transform := { v.transform with
      x := pan.transformStart.x + (p.x - pan.start.x)
      y := pan.transformStart.y + (p.y - pan.start.y) } } := by
  simp only [pointerMove, hd, hpan]

theorem position?_of_pin {i : Nat} {q : Point ℝ} {l : Layout ℝ} (hi : i < l.bodies.size)
    (hl : v.layout = l.pin i q) : v.position? i = some q := by
  have hplace := Layout.pin_place hi q
  rw [← hl] at hplace
  obtain ⟨b, hb, rfl⟩ := Option.map_eq_some_iff.1 hplace
  rw [position?, hb]
  rfl

/-- In a drag the second move keeps what the event left if the held node belongs where it is. -/
theorem keepsUpdate_of_drag {a : Action ℝ ℝ} {d : Drag ℝ ℝ} (hd : v.drag = some d)
    (hi : d.node < v.layout.bodies.size) (hu : (v.pointerMove p).act? a = some u)
    (hlayout : u.layout = (v.pointerMove p).layout) (hdrag : u.drag = some d) :
    v.KeepsUpdate p a ↔ u.dragPlace d p = v.dragPlace d p := by
  have hmove := pointerMove_of_drag hdrag p
  rw [pointerMove_of_drag hd] at hlayout
  -- the node is where the first move put it, and then where the second one does
  have hbefore : u.position? d.node = some (v.dragPlace d p) := position?_of_pin hi hlayout
  have hafter : (u.pointerMove p).position? d.node = some (u.dragPlace d p) := by
    refine position?_of_pin (l := u.layout) ?_ (by rw [hmove])
    rw [hlayout, Layout.pin_size]
    exact hi
  rw [keepsUpdate_iff hu]
  constructor
  · rintro ⟨-, hplace⟩
    have hsame := hplace d hd
    rw [hafter, hbefore] at hsame
    exact Option.some.inj hsame
  · intro hsame
    refine ⟨by rw [hmove], fun e he => ?_⟩
    cases hd.symm.trans he
    rw [hafter, hbefore, hsame]

/-- In a pan the second move keeps what the event left if the transform is where the first move put
it. -/
theorem keepsUpdate_of_pan {a : Action ℝ ℝ} {pan : Pan ℝ} (hd : v.drag = none)
    (hu : (v.pointerMove p).act? a = some u) (hdrag : u.drag = none) (hpan : u.pan = some pan) :
    v.KeepsUpdate p a ↔ pan.transformStart.x + (p.x - pan.start.x) = u.transform.x ∧
      pan.transformStart.y + (p.y - pan.start.y) = u.transform.y := by
  rw [keepsUpdate_iff hu, pointerMove_of_pan hdrag hpan]
  constructor
  · rintro ⟨htransform, -⟩
    exact ⟨congrArg Transform.x htransform, congrArg Transform.y htransform⟩
  · rintro ⟨hx, hy⟩
    refine ⟨?_, fun d he => ?_⟩
    · dsimp only
      rw [hx, hy]
    · cases hd.symm.trans he

/-- Zooming around `p` moves the transform unless it is at `p` or the scale stays. -/
theorem zoomed_eq_iff {k k' : ℝ} (hk : k ≠ 0) (p x : ℝ) :
    p - (p - x) * (k' / k) = x ↔ p = x ∨ k' = k := by
  have hsplit : p - (p - x) * (k' / k) = x ↔ (p - x) * (k' / k - 1) = 0 := by
    constructor
    · intro h
      linear_combination -h
    · intro h
      linear_combination -h
  rw [hsplit, mul_eq_zero, sub_eq_zero, sub_eq_zero, div_eq_one_iff_eq hk]

theorem dragPlace_eq_iff {d : Drag ℝ ℝ} (hk : v.transform.k ≠ 0) (hk' : u.transform.k ≠ 0) :
    u.dragPlace d p = v.dragPlace d p ↔ p = d.start ∨ u.transform.k = v.transform.k := by
  have hquotient (a : ℝ) : a / u.transform.k = a / v.transform.k ↔
      a = 0 ∨ u.transform.k = v.transform.k := by
    rw [div_eq_div_iff hk' hk, mul_eq_mul_left_iff, or_comm, eq_comm (a := v.transform.k)]
  rw [Point.eq_iff, Point.eq_iff, and_or_right]
  simp only [dragPlace, Graded.narrow, id, add_right_inj, hquotient, sub_eq_zero]

theorem wheel?_around {delta : ℝ} {alt used : Bool} (hk : v.transform.k ≠ 0)
    (h : v.wheel? p delta alt = some (used, u)) :
    u.transform.x = p.x - (p.x - v.transform.x) * (u.transform.k / v.transform.k) ∧
      u.transform.y = p.y - (p.y - v.transform.y) * (u.transform.k / v.transform.k) := by
  rcases wheel?_cases h with rfl | ⟨-, x, rfl⟩
  · rw [div_self hk]
    constructor <;> ring
  · exact ⟨rfl, rfl⟩

theorem wheel?_scale_congr {w : View ℝ ℝ} (hk : w.transform.k = v.transform.k)
    (hzoom : w.zoom = v.zoom) (p : Point ℝ) (delta : ℝ) (alt : Bool) :
    (w.wheel? p delta alt).map (fun r => r.2.transform.k) =
      (v.wheel? p delta alt).map fun r => r.2.transform.k := by
  simp only [wheel?, hk, hzoom]
  split
  · exact congrArg some hk
  · cases v.zoom.clamp? _ with
    | none => rfl
    | some k => rfl

theorem zooms_iff {delta : ℝ} {alt used : Bool}
    (h : (v.pointerMove p).wheel? p delta alt = some (used, u)) :
    v.Zooms p delta alt ↔ u.transform.k ≠ v.transform.k := by
  -- the move before the wheel event leaves the scale, so that it may as well be left out
  have hscale := wheel?_scale_congr (pointerMove_scale v p) (pointerMove_same v p).zoom p delta alt
  rw [h, Option.map_some] at hscale
  obtain ⟨⟨used', u'⟩, hu', hk'⟩ := Option.map_eq_some_iff.1 hscale.symm
  rw [← hk']
  constructor
  · rintro ⟨_, t, ht, hne⟩
    cases hu'.symm.trans ht
    exact hne
  · intro hne
    exact ⟨used', u', hu', hne⟩

theorem InOrder.wheel? (hv : v.InOrder) (p : Point ℝ) (delta : ℝ) (alt : Bool) :
    ∃ used u, (v.pointerMove p).wheel? p delta alt = some (used, u) ∧ u.InOrder := by
  have hmoved : (v.pointerMove p).InOrder := hv.act? (a := .move p) rfl
  obtain ⟨u, hu⟩ := Option.isSome_iff_exists.1
    (act?_isSome hmoved.bounds (.wheel p delta alt))
  obtain ⟨⟨used, t⟩, ht, rfl⟩ := Option.map_eq_some_iff.1 hu
  exact ⟨used, t, ht, hmoved.act? hu⟩

theorem InOrder.resize_in_drag (hv : v.InOrder) {d : Drag ℝ ℝ} (hd : v.drag = some d)
    (p : Point ℝ) (width height : ℝ) : v.KeepsUpdate p (.resize width height) := by
  rw [keepsUpdate_of_drag (u := (v.pointerMove p).resize width height) hd (hv.held d hd) rfl rfl
    ((pointerMove_drag v p).trans hd)]
  -- a new size leaves the scale
  have hk : ((v.pointerMove p).resize width height).transform.k = v.transform.k :=
    pointerMove_scale v p
  simp only [dragPlace, hk]

theorem InOrder.wheel_in_drag (hv : v.InOrder) {d : Drag ℝ ℝ} (hd : v.drag = some d)
    (p : Point ℝ) (delta : ℝ) (alt : Bool) :
    v.KeepsUpdate p (.wheel p delta alt) ↔ p = d.start ∨ ¬v.Zooms p delta alt := by
  obtain ⟨used, u, hu, hin⟩ := hv.wheel? p delta alt
  have hact : (v.pointerMove p).act? (.wheel p delta alt) = some u :=
    Option.map_eq_some_iff.2 ⟨_, hu, rfl⟩
  have hsame := wheel?_transform hu
  have hlayout : u.layout = (v.pointerMove p).layout := by rw [hsame]
  have hdrag : u.drag = some d := by rw [hsame, pointerMove_drag, hd]
  rw [keepsUpdate_of_drag hd (hv.held d hd) hact hlayout hdrag,
    dragPlace_eq_iff hv.scale.ne' hin.scale.ne', zooms_iff hu, not_ne_iff]

theorem resize_in_pan {pan : Pan ℝ} (hd : v.drag = none) (hpan : v.pan = some pan)
    (p : Point ℝ) (width height : ℝ) :
    v.KeepsUpdate p (.resize width height) ↔ width = v.width ∧ height = v.height := by
  have hmove := pointerMove_of_pan hd hpan p
  have hdrag : ((v.pointerMove p).resize width height).drag = none := by
    rw [hmove]
    exact hd
  have hupan : ((v.pointerMove p).resize width height).pan = some pan := by
    rw [hmove]
    exact hpan
  rw [keepsUpdate_of_pan hd rfl hdrag hupan]
  simp only [resize, hmove]
  norm_num [sub_eq_zero]

theorem InOrder.wheel_in_pan (hv : v.InOrder) {pan : Pan ℝ} (hd : v.drag = none)
    (hpan : v.pan = some pan) (p : Point ℝ) (delta : ℝ) (alt : Bool) :
    v.KeepsUpdate p (.wheel p delta alt) ↔
      pan.start = pan.transformStart ∨ ¬v.Zooms p delta alt := by
  obtain ⟨used, u, hu, -⟩ := hv.wheel? p delta alt
  have hact : (v.pointerMove p).act? (.wheel p delta alt) = some u :=
    Option.map_eq_some_iff.2 ⟨_, hu, rfl⟩
  have hsame := wheel?_transform hu
  have hmove := pointerMove_of_pan hd hpan p
  have hdrag : u.drag = none := by rw [hsame, pointerMove_drag, hd]
  have hupan : u.pan = some pan := by
    rw [hsame, hmove]
    exact hpan
  have hk : (v.pointerMove p).transform.k ≠ 0 := (pointerMove_scale v p).symm ▸ hv.scale.ne'
  obtain ⟨hx, hy⟩ := wheel?_around hk hu
  -- a pan from the origin of the graph keeps it under the pointer, where zooms do not move it
  have horigin (q start began : ℝ) : q = began + (q - start) ↔ start = began := by
    constructor <;> intro h <;> linarith
  rw [keepsUpdate_of_pan hd hact hdrag hupan, hx, hy, eq_comm, eq_comm (b := _ - _ * _)]
  simp only [hmove] at hk ⊢
  rw [zoomed_eq_iff hk, zoomed_eq_iff hk, horigin, horigin, zooms_iff hu, not_ne_iff,
    Point.eq_iff, and_or_right]

/-- Positive bounds of the zoom in order, any run of events, and any point `p`. In a drag a new size
is kept, and a wheel event at `p` exactly if it does not zoom or the pointer is where the drag
began. In a pan a new size is kept only if it is no new one, and a wheel event at `p` exactly if it
does not zoom or the pan began at the origin of the graph. -/
theorem gesture_keeps_update_iff {g : Graph} {sim : Simulation ℝ ℝ} {zoom : Zoom ℝ}
    {width height : ℝ} {actions : List (Action ℝ ℝ)} (hleast : 0 < zoom.least)
    (hbounds : zoom.least ≤ zoom.greatest)
    (h : (ofGraph g sim zoom width height).run? actions = some v) (p : Point ℝ) :
    (∀ d, v.drag = some d →
      (∀ width height, v.KeepsUpdate p (.resize width height)) ∧
      ∀ delta alt, v.KeepsUpdate p (.wheel p delta alt) ↔
        p = d.start ∨ ¬v.Zooms p delta alt) ∧
    ∀ pan, v.drag = none → v.pan = some pan →
      (∀ width height, v.KeepsUpdate p (.resize width height) ↔
        width = v.width ∧ height = v.height) ∧
      ∀ delta alt, v.KeepsUpdate p (.wheel p delta alt) ↔
        pan.start = pan.transformStart ∨ ¬v.Zooms p delta alt := by
  have hv := run?_inOrder hleast hbounds h
  refine ⟨fun d hd => ?_, fun pan hd hpan => ?_⟩
  · exact ⟨hv.resize_in_drag hd p, hv.wheel_in_drag hd p⟩
  · exact ⟨resize_in_pan hd hpan p, hv.wheel_in_pan hd hpan p⟩

theorem standard_bounds : 0 < (Zoom.standard : Zoom ℝ).least ∧
    (Zoom.standard : Zoom ℝ).least ≤ (Zoom.standard : Zoom ℝ).greatest := by
  norm_num [Zoom.standard]

theorem zooms_of_standard (hk : v.transform.k = 1) (hzoom : v.zoom = .standard) (p : Point ℝ) :
    v.Zooms p (-1) false := by
  unfold Zooms wheel? Zoom.clamp?
  rw [hzoom, hk]
  norm_num [Zoom.standard, Scalar.clamp]

noncomputable def pannedPair (x : ℝ) : View ℝ ℝ :=
  { pairView with pan := some ⟨⟨400 + x, 300⟩, ⟨400, 300⟩⟩ }

theorem run?_pannedPair {x : ℝ} (hx : |x| < 88) :
    (ofGraph pair .standard .standard 800 600).run? [.down ⟨400 + x, 300⟩] =
      some (pannedPair x) := by
  obtain ⟨hlow, hhigh⟩ := abs_lt.1 hx
  have hright : 12 ≤ |100 - x| := le_trans (by linarith) (le_abs_self _)
  have hleft : 12 ≤ |-100 - x| := le_trans (by linarith) (neg_le_abs _)
  have hmiss : pairView.nodeAt? ⟨400 + x, 300⟩ = none := by
    rw [pairView_nodeAt?]
    simp [nearest, hright.not_gt, hleft.not_gt]
  have hdown : pairView.pointerDown ⟨400 + x, 300⟩ = pannedPair x := by
    simp only [pointerDown_begins_pan hmiss, pannedPair, pairView_transform]
  exact congrArg some hdown

theorem pannedPair_scale (x : ℝ) : (pannedPair x).transform.k = 1 :=
  congrArg Transform.k pairView_transform

/-- A pan that began at the origin of the graph keeps a zoom. -/
theorem zoom_kept_at_origin :
    (ofGraph pair .standard .standard 800 600).run? [.down ⟨400, 300⟩] = some (pannedPair 0) ∧
      (pannedPair 0).Zooms ⟨410, 310⟩ (-1) false ∧
      (pannedPair 0).KeepsUpdate ⟨410, 310⟩ (.wheel ⟨410, 310⟩ (-1) false) := by
  have hrun := run?_pannedPair (x := 0) (by norm_num)
  rw [add_zero] at hrun
  obtain ⟨-, hgesture⟩ := gesture_keeps_update_iff standard_bounds.1 standard_bounds.2 hrun
    ⟨410, 310⟩
  obtain ⟨-, hwheel⟩ := hgesture _ rfl rfl
  refine ⟨hrun, zooms_of_standard (pannedPair_scale 0) rfl _, (hwheel (-1) false).2 (.inl ?_)⟩
  rw [add_zero]

/-- The move behind a new size takes the view back to where the pan had put it. The move behind a
zoom does so too, and takes a node that is held away from the pointer. -/
theorem gesture_takes_back_update :
    (∃ v u w : View ℝ ℝ,
      (ofGraph pair .standard .standard 800 600).run? [.down ⟨450, 300⟩] = some v ∧
      v.pan.isSome = true ∧ v.run? [.move ⟨460, 310⟩, .resize 1000 800] = some u ∧
      v.run? [.move ⟨460, 310⟩, .resize 1000 800, .move ⟨460, 310⟩] = some w ∧
      u.transform = ⟨510, 410, 1⟩ ∧ w.transform = ⟨410, 310, 1⟩ ∧
      ¬v.KeepsUpdate ⟨460, 310⟩ (.resize 1000 800) ∧
      ¬v.KeepsUpdate ⟨460, 310⟩ (.wheel ⟨460, 310⟩ (-1) false)) ∧
    ∃ v : View ℝ ℝ, (ofGraph pair .standard .standard 800 600).run? [.down ⟨500, 300⟩] = some v ∧
      v.drag.isSome = true ∧ ¬v.KeepsUpdate ⟨600, 300⟩ (.wheel ⟨600, 300⟩ (-1) false) := by
  constructor
  · have hrun := run?_pannedPair (x := 50) (by norm_num [abs_of_pos])
    have hplace : (400 + 50 : ℝ) = 450 := by norm_num
    rw [hplace] at hrun
    have hv := run?_inOrder standard_bounds.1 standard_bounds.2 hrun
    have hzooms := zooms_of_standard (pannedPair_scale 50) rfl ⟨460, 310⟩
    refine ⟨_, _, _, hrun, rfl, rfl, rfl, ?_, ?_, ?_, ?_⟩
    · simp only [resize, pointerMove, pannedPair, pairView_transform]
      norm_num [pairView, ofGraph]
    · simp only [resize, pointerMove, pannedPair, pairView_transform]
      norm_num [pairView, ofGraph]
    · rw [resize_in_pan rfl rfl]
      norm_num [pannedPair, pairView, ofGraph]
    · rw [hv.wheel_in_pan rfl rfl]
      simp [hzooms]
  · have hrun : (ofGraph pair .standard .standard 800 600).run? [.down ⟨500, 300⟩] =
        some (pairView.pointerDown ⟨500, 300⟩) := rfl
    have hv := run?_inOrder standard_bounds.1 standard_bounds.2 hrun
    obtain ⟨b, -, hdown⟩ := pointerDown_begins_drag pairView_hit
    rw [hdown] at hrun hv
    have hzooms := zooms_of_standard (v := pairView.pointerDown ⟨500, 300⟩)
      (by rw [pointerDown_transform, pairView_transform]) (pointerDown_same _ _).zoom ⟨600, 300⟩
    rw [hdown] at hzooms
    refine ⟨_, hrun, rfl, ?_⟩
    rw [hv.wheel_in_drag rfl]
    simp [hzooms]

end View

end CodeGraph
