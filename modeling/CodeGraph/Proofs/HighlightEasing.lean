import Mathlib.Analysis.SpecialFunctions.Trigonometric.Basic
import CodeGraph.Proofs.EdgeRims

namespace CodeGraph

open Set

namespace Hover

variable {h : Hover ℝ} {dt : ℝ}

theorem turnTo_t {α : Type} [Scalar α] (h : Hover α) (target : Option Target) (lit : Highlight) :
    (h.turnTo target lit).t = h.t := by
  unfold turnTo
  split <;> rfl

theorem delay_le_min_iff (x : ℝ) : delay ≤ Scalar.min x delay ↔ delay ≤ x := by
  unfold Scalar.min
  rw [if_pos (beq_self_eq_true x)]
  split_ifs with hless
  · exact ⟨fun _ => hless.le, fun _ => le_rfl⟩
  · rfl

theorem ease_t_of_target (htarget : h.target.isSome = true) (dt : ℝ) : ∃ share,
    (share = 0 ∨ share = 9 / 5 * dt) ∧ (delay ≤ h.waited + dt → share = 9 / 5 * dt) ∧
      (h.ease dt).t =
        if 1 - (h.t + (1 - h.t) * share) < 1 / 100 then 1 else h.t + (1 - h.t) * share := by
  have hstep : (h.ease dt).t =
      if 1.0 - (if delay ≤ Scalar.min (h.waited + dt) delay then h.t + (1.0 - h.t) * 1.8 * dt
        else h.t) < 0.01 then 1.0
      else if delay ≤ Scalar.min (h.waited + dt) delay then h.t + (1.0 - h.t) * 1.8 * dt
        else h.t := by
    simp only [ease, htarget, if_true]
  simp only [delay_le_min_iff] at hstep
  by_cases hwaited : delay ≤ h.waited + dt
  · refine ⟨9 / 5 * dt, .inr rfl, fun _ => rfl, ?_⟩
    have hway : h.t + (1.0 - h.t) * 1.8 * dt = h.t + (1 - h.t) * (9 / 5 * dt) := by
      norm_num
      ring
    rw [hstep, if_pos hwaited, hway]
    norm_num
  · refine ⟨0, .inl rfl, fun hw => (hwaited hw).elim, ?_⟩
    rw [hstep, if_neg hwaited, mul_zero, add_zero]
    norm_num

theorem ease_of_no_target (htarget : h.target = .none) (dt : ℝ) : h.ease dt =
    if h.t - h.t * (63 / 50 * dt) < 1 / 100 then
      { h with t := 0, previous := .none, fading := .empty }
    else { h with t := h.t - h.t * (63 / 50 * dt) } := by
  have hway : h.t + (0.0 - h.t) * 1.26 * dt = h.t - h.t * (63 / 50 * dt) := by
    norm_num
    ring
  have hfaint : (0.01 : ℝ) = 1 / 100 := by norm_num
  have hzero : (0.0 : ℝ) = 0 := by norm_num
  simp only [ease, htarget, Option.isSome_none, Bool.false_eq_true, if_false]
  rw [hway, hfaint, hzero]

variable (ht : h.t ∈ Icc 0 1) (hdt : dt ∈ Icc 0 (5 / 9))
include ht hdt

/-- With a target the highlight never shrinks, and grows once the wait is over. -/
theorem ease_grows (htarget : h.target.isSome = true) :
    (h.ease dt).t ∈ Icc h.t 1 ∧
      (0 < dt → delay ≤ h.waited + dt → h.t < 1 → h.t < (h.ease dt).t) := by
  obtain ⟨share, hshare, hwhole, hstep⟩ := ease_t_of_target htarget dt
  obtain ⟨hlow, hhigh⟩ := ht
  obtain ⟨hpast, hshort⟩ := hdt
  have hbetween : share ∈ Icc (0 : ℝ) 1 := by
    rcases hshare with rfl | rfl
    · exact ⟨le_rfl, zero_le_one⟩
    · constructor <;> linarith
  have hadds : 0 ≤ (1 - h.t) * share := mul_nonneg (by linarith) hbetween.1
  have hleaves : (1 - h.t) * share ≤ 1 - h.t := mul_le_of_le_one_right (by linarith) hbetween.2
  rw [hstep]
  split_ifs with hclose
  · exact ⟨⟨hhigh, le_rfl⟩, fun _ _ hless => hless⟩
  · refine ⟨⟨by linarith, by linarith⟩, fun hpos hwaited hless => ?_⟩
    have hadds' : 0 < (1 - h.t) * share := by
      rw [hwhole hwaited]
      exact mul_pos (by linarith) (by linarith)
    linarith

/-- Without a target the highlight fades, and is gone once it is faint. -/
theorem ease_fades (htarget : h.target = .none) :
    (h.ease dt).t ∈ Icc 0 h.t ∧ (0 < dt → 0 < h.t → (h.ease dt).t < h.t) ∧
      (1 / 100 ≤ (h.ease dt).t ∨ (h.ease dt).t = 0 ∧ (h.ease dt).isActive = false) := by
  obtain ⟨hlow, -⟩ := ht
  obtain ⟨hpast, hshort⟩ := hdt
  have htakes : 0 ≤ h.t * (63 / 50 * dt) := mul_nonneg hlow (by linarith)
  have hleaves : h.t * (63 / 50 * dt) ≤ h.t := mul_le_of_le_one_right hlow (by linarith)
  rw [ease_of_no_target htarget]
  split_ifs with hfaint
  · refine ⟨⟨le_rfl, hlow⟩, fun _ hpos => hpos, .inr ⟨rfl, ?_⟩⟩
    simp [isActive, htarget]
  · refine ⟨⟨by linarith, by linarith⟩, fun hpos hlit => ?_, .inl (not_lt.1 hfaint)⟩
    have htakes' : 0 < h.t * (63 / 50 * dt) := mul_pos hlit (by linarith)
    linarith

theorem ease_t_mem : (h.ease dt).t ∈ Icc 0 1 := by
  cases htarget : h.target with
  | none =>
    obtain ⟨hlow, hhigh⟩ := (ease_fades ht hdt htarget).1
    exact ⟨hlow, hhigh.trans ht.2⟩
  | some target =>
    obtain ⟨hlow, hhigh⟩ := (ease_grows ht hdt (by rw [htarget]; rfl)).1
    exact ⟨ht.1.trans hlow, hhigh⟩

end Hover

namespace View

section events

variable {α β : Type} [Scalar α] [Graded α β] {v w : View α β}

theorem pointerDown_t (v : View α β) (p : Point α) : (v.pointerDown p).hover.t = v.hover.t := by
  unfold pointerDown
  split
  · split
    · exact Hover.turnTo_t _ _ _
    · rfl
  · rfl

variable [Scalar β]

theorem pointerMove_t (v : View α β) (p : Point α) : (v.pointerMove p).hover.t = v.hover.t := by
  unfold pointerMove
  split
  · rfl
  · rfl
  · exact Hover.turnTo_t _ _ _

/-- Only a tick lets the highlight fade. -/
theorem act?_t {a : Action α β} (h : v.act? a = some w) :
    w.hover.t = v.hover.t ∨ ∃ dt, a = .tick dt ∧ w = v.tick dt := by
  cases a with
  | down p => exact .inl (Option.some.inj h ▸ pointerDown_t v p)
  | move p => exact .inl (Option.some.inj h ▸ pointerMove_t v p)
  | up => exact .inl (Option.some.inj h ▸ congrArg Hover.t (pointerUp_hover v))
  | leave =>
    refine .inl (Option.some.inj h ▸ (Hover.turnTo_t _ _ _).trans ?_)
    rw [pointerUp_hover]
  | wheel p delta alt =>
    obtain ⟨⟨used, u⟩, hu, rfl⟩ := Option.map_eq_some_iff.1 h
    exact .inl (by rw [wheel?_transform hu])
  | hover target => exact .inl (Option.some.inj h ▸ Hover.turnTo_t _ _ _)
  | reheat target => exact .inl (Option.some.inj h ▸ rfl)
  | resize width height => exact .inl (Option.some.inj h ▸ rfl)
  | tick dt => exact .inr ⟨dt, rfl, (Option.some.inj h).symm⟩

end events

variable {v w : View ℝ ℝ}

theorem run?_t_mem {actions : List (Action ℝ ℝ)} (hv : v.hover.t ∈ Icc 0 1)
    (hticks : ∀ dt, .tick dt ∈ actions → dt ∈ Icc 0 (5 / 9)) (h : v.run? actions = some w) :
    w.hover.t ∈ Icc 0 1 := by
  -- not by `run?_induction`, since the step asks how long a tick of the list is
  induction actions generalizing v with
  | nil => exact Option.some.inj h ▸ hv
  | cons a as ih =>
    rw [run?_cons] at h
    obtain ⟨u, hu, hw⟩ := Option.bind_eq_some_iff.1 h
    refine ih ?_ (fun dt hdt => hticks dt (List.mem_cons_of_mem a hdt)) hw
    rcases act?_t hu with hsame | ⟨dt, rfl, rfl⟩
    · rw [hsame]
      exact hv
    · rw [tick_hover]
      exact Hover.ease_t_mem hv (hticks dt List.mem_cons_self)

end View

namespace Scene

variable {t : ℝ}

theorem easeOutCubic_mem (ht : t ∈ Icc 0 1) : easeOutCubic t ∈ Icc (0 : ℝ) 1 := by
  have hcube : easeOutCubic t = 1 - (1 - t) ^ 3 := by
    norm_num [easeOutCubic]
    ring
  have hrest : 0 ≤ 1 - t := by linarith [ht.2]
  have hpow : (1 - t) ^ 3 ≤ 1 := pow_le_one₀ hrest (by linarith [ht.1])
  rw [hcube]
  exact ⟨by linarith, by linarith [pow_nonneg hrest 3]⟩

theorem lerp_mem {start stop : ℝ} (hstart : start ∈ Icc 0 1) (hstop : stop ∈ Icc 0 1)
    (ht : t ∈ Icc 0 1) : lerp start stop t ∈ Icc (0 : ℝ) 1 := by
  have hone : (1.0 : ℝ) = 1 := by norm_num
  have hrest : 0 ≤ 1 - t := by linarith [ht.2]
  rw [lerp, hone]
  constructor
  · exact add_nonneg (mul_nonneg hstart.1 hrest) (mul_nonneg hstop.1 ht.1)
  · calc start * (1 - t) + stop * t
        ≤ 1 * (1 - t) + 1 * t :=
          add_le_add (mul_le_mul_of_nonneg_right hstart.2 hrest)
            (mul_le_mul_of_nonneg_right hstop.2 ht.1)
      _ = 1 := by ring

variable {v : View ℝ ℝ} {theme : Theme ℝ}

theorem nodeOpacity_mem (hdim : theme.dimNodeOpacity ∈ Icc 0 1) (ht : t ∈ Icc 0 1) (i : Nat) :
    nodeOpacity v theme t i ∈ Icc (0 : ℝ) 1 := by
  have hone : (1.0 : ℝ) ∈ Icc (0 : ℝ) 1 := by norm_num
  unfold nodeOpacity
  split
  · exact lerp_mem hone hdim ht
  · exact hone

theorem nodeRadius_mem {r : ℝ} (hr : 0 ≤ r) (ht : t ∈ Icc 0 1) (i : Nat) :
    nodeRadius v r t i ∈ Icc r (27 / 20 * r) := by
  have hgrows {share : ℝ} (hshare : share ∈ Icc (0 : ℝ) (7 / 20)) :
      r * (1 + share * t) ∈ Icc r (27 / 20 * r) := by
    have hadds : 0 ≤ share * t := mul_nonneg hshare.1 ht.1
    have hmost : share * t ≤ 7 / 20 := (mul_le_of_le_one_right hshare.1 ht.2).trans hshare.2
    constructor <;> nlinarith
  have hone : (1.0 : ℝ) = 1 := by norm_num
  unfold nodeRadius
  rw [hone]
  split
  · split
    · exact hgrows (by norm_num)
    · exact hgrows (by norm_num)
  · exact ⟨le_rfl, by linarith⟩

theorem edgeShape?_opacity_mem {k : Nat} {e : Nat × Nat} {s : EdgeShape ℝ}
    (ht : v.hover.t ∈ Icc 0 1) (hedge : theme.edgeOpacity ∈ Icc 0 1)
    (hdim : theme.dimEdgeOpacity ∈ Icc 0 1) (h : edgeShape? v theme k e = some s) :
    s.opacity ∈ Icc 0 1 := by
  simp only [edgeShape?, Option.bind_eq_bind, Option.bind_eq_some_iff, Option.pure_def,
    Option.some_inj] at h
  obtain ⟨source, -, target, -, rfl⟩ := h
  have hone : (1.0 : ℝ) ∈ Icc (0 : ℝ) 1 := by norm_num
  dsimp only
  split_ifs
  · exact lerp_mem hedge hone (easeOutCubic_mem ht)
  · exact lerp_mem hedge hdim (easeOutCubic_mem ht)
  · exact hedge

/-- A run of events whose ticks take at most five ninths of a second. The highlight has faded in by
a share between zero and one. The next tick never lowers it while there is a target, raising it once
the wait is over, and never raises it while there is none, lowering it and ending a highlight that
is faint. In a theme with opacities between zero and one and without negative radii, all opacities
of the scene are between zero and one, and a node is at least as large as in its style and at most
by seven twentieths larger. -/
theorem highlight_stays_in_range {g : Graph} {sim : Simulation ℝ ℝ} {zoom : Zoom ℝ}
    {width height : ℝ} {actions : List (Action ℝ ℝ)} {v : View ℝ ℝ}
    (hticks : ∀ dt, .tick dt ∈ actions → dt ∈ Icc 0 (5 / 9))
    (h : (View.ofGraph g sim zoom width height).run? actions = some v) :
    v.hover.t ∈ Icc 0 1 ∧
      (∀ dt ∈ Icc (0 : ℝ) (5 / 9),
        (v.hover.target.isSome = true → v.hover.t ≤ (v.tick dt).hover.t ∧
          (0 < dt → Hover.delay ≤ v.hover.waited + dt → v.hover.t < 1 →
            v.hover.t < (v.tick dt).hover.t)) ∧
        (v.hover.target = none → (v.tick dt).hover.t ≤ v.hover.t ∧
          (0 < dt → 0 < v.hover.t → (v.tick dt).hover.t < v.hover.t) ∧
          (1 / 100 ≤ (v.tick dt).hover.t ∨
            (v.tick dt).hover.t = 0 ∧ (v.tick dt).hover.isActive = false))) ∧
      ∀ theme : Theme ℝ, theme.edgeOpacity ∈ Icc 0 1 → theme.dimNodeOpacity ∈ Icc 0 1 →
        theme.dimEdgeOpacity ∈ Icc 0 1 → (∀ kind, 0 ≤ (theme.nodeStyle kind).radius) →
        (∀ s ∈ (build v theme).nodes, s.opacity ∈ Icc 0 1 ∧
          s.radius ∈ Icc (theme.nodeStyle s.kind).radius
            (27 / 20 * (theme.nodeStyle s.kind).radius)) ∧
        ∀ s ∈ (build v theme).edges, s.opacity ∈ Icc 0 1 := by
  have hfirst : (View.ofGraph g sim zoom width height).hover.t ∈ Icc (0 : ℝ) 1 := by
    have hzero : (View.ofGraph g sim zoom width height).hover.t = (0.0 : ℝ) := rfl
    rw [hzero]
    norm_num
  have ht := View.run?_t_mem hfirst hticks h
  refine ⟨ht, fun dt hdt => ?_,
    fun theme hedge hnode hdim hradius => ⟨fun s hs => ?_, fun s hs => ?_⟩⟩
  · rw [View.tick_hover]
    refine ⟨fun htarget => ?_, fun htarget => ?_⟩
    · obtain ⟨hgrows, hmore⟩ := Hover.ease_grows ht hdt htarget
      exact ⟨hgrows.1, hmore⟩
    · obtain ⟨hfades, hless, hgone⟩ := Hover.ease_fades ht hdt htarget
      exact ⟨hfades.2, hless, hgone⟩
  · obtain ⟨p, -, rfl⟩ := List.mem_map.1 ((build_nodes_perm v theme).mem_iff.1 hs)
    exact ⟨nodeOpacity_mem hnode (easeOutCubic_mem ht) _,
      nodeRadius_mem (hradius _) (easeOutCubic_mem ht) _⟩
  · obtain ⟨p, -, hshape⟩ := List.mem_filterMap.1 hs
    exact edgeShape?_opacity_mem ht hedge hdim hshape

/-- The pointer is over the first of three nodes in a row for a tenth of a second. The next tick
raises the highlight, and the scene is within its bounds. -/
theorem hovered_chain_in_range :
    (View.ofGraph View.chain .standard .standard 640 480 : View ℝ ℝ).run?
        [.hover (some (.node 0)), .tick 0.1] = some (hoveredChain.tick 0.1) ∧
      (0.18 : ℝ) < ((hoveredChain.tick 0.1).tick 0.1).hover.t ∧
      (∀ s ∈ (build (hoveredChain.tick 0.1) .aurora).nodes,
        s.opacity ∈ Icc 0 1 ∧ s.radius ∈ Icc (Theme.aurora.nodeStyle s.kind).radius
          (27 / 20 * (Theme.aurora.nodeStyle s.kind).radius)) ∧
      ∀ s ∈ (build (hoveredChain.tick 0.1) .aurora).edges, s.opacity ∈ Icc 0 1 := by
  have hrun : (View.ofGraph View.chain .standard .standard 640 480 : View ℝ ℝ).run?
      [.hover (some (.node 0)), .tick 0.1] = some (hoveredChain.tick 0.1) := rfl
  have hticks : ∀ dt, .tick dt ∈ ([.hover (some (.node 0)), .tick 0.1] : List (Action ℝ ℝ)) →
      dt ∈ Icc (0 : ℝ) (5 / 9) := by
    intro dt hdt
    have hlength : dt = 0.1 := by simpa using hdt
    rw [hlength]
    norm_num
  obtain ⟨-, hsteps, hscene⟩ := highlight_stays_in_range hticks hrun
  have htarget : (hoveredChain.tick 0.1).hover.target = some (.node 0) := by
    rw [View.tick_target]
    exact View.setHover_target _ _
  have hwaited : Hover.delay ≤ (hoveredChain.tick 0.1).hover.waited + 0.1 := by
    have hbegan : hoveredChain.hover.target = some (.node 0) := View.setHover_target _ _
    have hfresh : hoveredChain.hover.waited = 0.0 := rfl
    simp only [View.tick_hover, Hover.ease, hbegan, hfresh, Hover.delay, Scalar.min, Graded.widen]
    norm_num
  obtain ⟨hgrows, -⟩ := hsteps 0.1 (by norm_num)
  obtain ⟨-, hmore⟩ := hgrows (by rw [htarget]; rfl)
  rw [hoveredChain_tick_t] at hmore
  refine ⟨hrun, hmore (by norm_num) hwaited (by norm_num), ?_⟩
  refine hscene .aurora ?_ ?_ ?_ fun kind => ?_
  · norm_num [Theme.aurora]
  · norm_num [Theme.aurora]
  · norm_num [Theme.aurora]
  · cases kind <;> norm_num [Theme.nodeStyle, Theme.aurora]

end Scene

end CodeGraph
