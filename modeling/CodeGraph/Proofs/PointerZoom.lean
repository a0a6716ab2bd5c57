import Mathlib.Analysis.SpecialFunctions.Trigonometric.Basic
import CodeGraph.Proofs.InterruptedGesture

namespace CodeGraph.View

variable {v u w : View ℝ ℝ} {p : Point ℝ} {delta : ℝ} {alt used : Bool}

theorem clamp_eq_max_min {lo hi : ℝ} (h : lo ≤ hi) (x : ℝ) :
    Scalar.clamp lo hi x = max lo (min hi x) := by
  unfold Scalar.clamp
  split_ifs with hless hgreater
  · rw [max_eq_left ((min_le_right hi x).trans hless.le)]
  · rw [min_eq_left hgreater.le, max_eq_right h]
  · rw [min_eq_right (not_lt.1 hgreater), max_eq_right (not_lt.1 hless)]

def TakesWheel (v : View ℝ ℝ) (delta : ℝ) (alt : Bool) : Prop :=
  delta ≠ 0 ∧ (v.zoom.requireAlt = true → alt = true)

noncomputable def nextScale (v : View ℝ ℝ) (delta : ℝ) : ℝ :=
  max v.zoom.least (min v.zoom.greatest (v.transform.k * if 0 < delta then 9 / 10 else 11 / 10))

/-- A wheel event is used exactly if it is one for the zoom. It then sets the next scale, and
otherwise nothing. -/
theorem wheel?_spec (hbounds : v.zoom.least ≤ v.zoom.greatest)
    (h : v.wheel? p delta alt = some (used, u)) :
    (used = true ↔ v.TakesWheel delta alt) ∧ (used = false → u = v) ∧
      (used = true → u.transform.k = v.nextScale delta) := by
  have hskips : (delta == 0.0 || (v.zoom.requireAlt && !alt)) = true ↔
      ¬v.TakesWheel delta alt := by
    have hzero : (0.0 : ℝ) = 0 := by norm_num
    rw [TakesWheel, hzero]
    cases v.zoom.requireAlt <;> cases alt <;> simp
  unfold wheel? at h
  split at h
  · next hskip =>
    cases h
    refine ⟨?_, fun _ => rfl, fun hused => (Bool.false_ne_true hused).elim⟩
    exact ⟨fun hused => (Bool.false_ne_true hused).elim, fun ht => (hskips.1 hskip ht).elim⟩
  · next htakes =>
    obtain ⟨k, hk, hu⟩ := Option.bind_eq_some_iff.1 h
    rw [Zoom.clamp?, if_pos hbounds, clamp_eq_max_min hbounds] at hk
    cases hu
    refine ⟨⟨fun _ => not_not.1 (mt hskips.2 htakes), fun _ => rfl⟩,
      fun hused => (Bool.false_ne_true hused.symm).elim, fun _ => ?_⟩
    rw [← Option.some.inj hk, nextScale]
    norm_num

theorem nextScale_mem (hbounds : v.zoom.least ≤ v.zoom.greatest) (delta : ℝ) :
    v.zoom.least ≤ v.nextScale delta ∧ v.nextScale delta ≤ v.zoom.greatest :=
  ⟨le_max_left _ _, max_le hbounds (min_le_left _ _)⟩

theorem nextScale_turns (hk : 0 < v.transform.k) (hleast : v.zoom.least ≤ v.transform.k)
    (hgreatest : v.transform.k ≤ v.zoom.greatest) :
    (delta < 0 → v.transform.k ≤ v.nextScale delta) ∧
      (0 < delta → v.nextScale delta ≤ v.transform.k) := by
  constructor
  · intro hdelta
    rw [nextScale, if_neg hdelta.not_gt]
    refine le_max_of_le_right (le_min hgreatest ?_)
    linarith
  · intro hdelta
    rw [nextScale, if_pos hdelta]
    refine max_le hleast (min_le_of_right_le ?_)
    linarith

/-- The move of the transform makes up for the change of scale, whatever cut it. -/
theorem wheel?_toGraph (hk : v.transform.k ≠ 0) (hk' : u.transform.k ≠ 0)
    (h : v.wheel? p delta alt = some (used, u)) : u.toGraph p = v.toGraph p := by
  obtain ⟨hx, hy⟩ := wheel?_around hk h
  have hplace (a x : ℝ) : (a - (a - (a - x) * (u.transform.k / v.transform.k))) / u.transform.k =
      (a - x) / v.transform.k := by
    field_simp
    ring
  rw [toGraph, toGraph, hx, hy, hplace, hplace]

def Consumes (v : View ℝ ℝ) (a : Action ℝ ℝ) : Prop :=
  ∃ p delta alt u, a = .wheel p delta alt ∧ v.wheel? p delta alt = some (true, u)

def ConsumesWheel (v : View ℝ ℝ) (actions : List (Action ℝ ℝ)) : Prop :=
  ∃ as a u, as ++ [a] <+: actions ∧ v.run? as = some u ∧ u.Consumes a

theorem not_consumesWheel_nil (v : View ℝ ℝ) : ¬v.ConsumesWheel [] := by
  rintro ⟨as, a, u, has, -, -⟩
  have hnil := List.prefix_nil.1 has
  simp at hnil

theorem consumesWheel_append {actions : List (Action ℝ ℝ)} {a : Action ℝ ℝ}
    (hu : v.run? actions = some u) :
    v.ConsumesWheel (actions ++ [a]) ↔ v.ConsumesWheel actions ∨ u.Consumes a := by
  constructor
  · rintro ⟨as, b, t, has, ht, hb⟩
    rcases List.prefix_concat_iff.1 has with heq | hbefore
    · obtain ⟨rfl, hlast⟩ := List.append_inj' heq rfl
      cases hlast
      cases hu.symm.trans ht
      exact .inr hb
    · exact .inl ⟨as, b, t, hbefore, ht, hb⟩
  · rintro (⟨as, b, t, has, ht, hb⟩ | ha)
    · exact ⟨as, b, t, has.trans (List.prefix_append _ _), ht, hb⟩
    · exact ⟨actions, a, u, List.prefix_rfl, hu, ha⟩

theorem act?_scale_eq {a : Action ℝ ℝ} (hbounds : v.zoom.least ≤ v.zoom.greatest)
    (ha : ¬v.Consumes a) (h : v.act? a = some w) : w.transform.k = v.transform.k := by
  cases a with
  | down p => exact Option.some.inj h ▸ congrArg Transform.k (pointerDown_transform v p)
  | move p => exact Option.some.inj h ▸ pointerMove_scale v p
  | up => exact Option.some.inj h ▸ congrArg Transform.k (pointerUp_transform v)
  | leave => exact Option.some.inj h ▸ congrArg Transform.k (pointerUp_transform v)
  | wheel p delta alt =>
    obtain ⟨⟨used, t⟩, ht, rfl⟩ := Option.map_eq_some_iff.1 h
    have hused : used = false := by
      rw [← Bool.not_eq_true]
      rintro rfl
      exact ha ⟨p, delta, alt, t, rfl, ht⟩
    rw [(wheel?_spec hbounds ht).2.1 hused]
  | hover target => exact Option.some.inj h ▸ rfl
  | reheat target => exact Option.some.inj h ▸ rfl
  | resize width height => exact Option.some.inj h ▸ rfl
  | tick dt => exact Option.some.inj h ▸ congrArg Transform.k (tick_transform v dt)

theorem act?_scale_mem {a : Action ℝ ℝ} (hbounds : v.zoom.least ≤ v.zoom.greatest)
    (ha : v.Consumes a) (h : v.act? a = some w) :
    v.zoom.least ≤ w.transform.k ∧ w.transform.k ≤ v.zoom.greatest := by
  obtain ⟨p, delta, alt, u, rfl, hu⟩ := ha
  rw [act?, hu] at h
  cases h
  rw [(wheel?_spec hbounds hu).2.2 rfl]
  exact nextScale_mem hbounds delta

/-- Until the wheel is used the scale is that of the beginning, and from then on it is within the
bounds. -/
theorem run?_scale {actions : List (Action ℝ ℝ)} (hbounds : v.zoom.least ≤ v.zoom.greatest)
    (h : v.run? actions = some w) :
    (¬v.ConsumesWheel actions → w.transform.k = v.transform.k) ∧
      (v.ConsumesWheel actions →
        v.zoom.least ≤ w.transform.k ∧ w.transform.k ≤ v.zoom.greatest) := by
  -- from the end, since an event that leaves the scale leaves what the ones before it made of it
  induction actions using List.reverseRecOn generalizing w with
  | nil =>
    cases h
    exact ⟨fun _ => rfl, fun hused => (not_consumesWheel_nil v hused).elim⟩
  | append_singleton actions a ih =>
    rw [run?_append] at h
    obtain ⟨u, hu, hw⟩ := Option.bind_eq_some_iff.1 h
    rw [run?_singleton] at hw
    obtain ⟨hfirst, hlater⟩ := ih hu
    have hzoom : u.zoom = v.zoom := (run?_same hu).zoom
    rw [consumesWheel_append hu]
    by_cases ha : u.Consumes a
    · refine ⟨fun hnot => (hnot (.inr ha)).elim, fun _ => ?_⟩
      rw [← hzoom]
      exact act?_scale_mem (hzoom ▸ hbounds) ha hw
    · rw [act?_scale_eq (hzoom ▸ hbounds) ha hw]
      refine ⟨fun hnot => hfirst fun hused => hnot (.inl hused), fun hused => hlater ?_⟩
      exact hused.resolve_right ha

/-- Positive bounds in order, and any run of events. The run has a result. Its scale is one if no
wheel event was used and within the bounds otherwise, and never zero. The next wheel event, wherever
the pointer is, either is not used and leaves the whole view, or keeps the place of the graph under
the pointer and changes nothing but the transform, with the scale that the bounds leave of the
factor. From within the bounds a negative turn never lowers the scale and a positive one never
raises it. -/
theorem zoom_keeps_place_under_pointer (zoom : Zoom ℝ) (hleast : 0 < zoom.least)
    (hbounds : zoom.least ≤ zoom.greatest) (g : Graph) (sim : Simulation ℝ ℝ) (width height : ℝ)
    (actions : List (Action ℝ ℝ)) :
    ∃ v, (ofGraph g sim zoom width height).run? actions = some v ∧
      (¬(ofGraph g sim zoom width height).ConsumesWheel actions → v.transform.k = 1) ∧
      ((ofGraph g sim zoom width height).ConsumesWheel actions →
        zoom.least ≤ v.transform.k ∧ v.transform.k ≤ zoom.greatest) ∧
      v.transform.k ≠ 0 ∧
      ∀ p delta alt, ∃ used u, v.wheel? p delta alt = some (used, u) ∧
        (used = true ↔ delta ≠ 0 ∧ (zoom.requireAlt = true → alt = true)) ∧
        (used = false → u = v) ∧
        (used = true → u.toGraph p = v.toGraph p ∧ u = { v with transform := u.transform } ∧
          u.transform.k = max zoom.least
            (min zoom.greatest (v.transform.k * if 0 < delta then 9 / 10 else 11 / 10))) ∧
        (zoom.least ≤ v.transform.k → v.transform.k ≤ zoom.greatest →
          (delta < 0 → v.transform.k ≤ u.transform.k) ∧
          (0 < delta → u.transform.k ≤ v.transform.k)) := by
  obtain ⟨v, hv⟩ := Option.isSome_iff_exists.1
    (run?_isSome (v := ofGraph g sim zoom width height) hbounds actions)
  have hin := run?_inOrder hleast hbounds hv
  have hzoom : v.zoom = zoom := (run?_same hv).zoom
  have hone : (ofGraph g sim zoom width height).transform.k = 1 := by
    have hdecimal : (ofGraph g sim zoom width height).transform.k = (1.0 : ℝ) := rfl
    rw [hdecimal]
    norm_num
  obtain ⟨hfirst, hlater⟩ := run?_scale hbounds hv
  refine ⟨v, hv, fun hnot => (hfirst hnot).trans hone, hlater, hin.scale.ne',
    fun p delta alt => ?_⟩
  obtain ⟨u, hu⟩ := Option.isSome_iff_exists.1 (act?_isSome hin.bounds (.wheel p delta alt))
  have hin' := hin.act? hu
  obtain ⟨⟨used, t⟩, ht, rfl⟩ := Option.map_eq_some_iff.1 hu
  obtain ⟨hused, hleft, hscale⟩ := wheel?_spec hin.bounds ht
  subst hzoom
  refine ⟨used, t, ht, hused, hleft, fun htrue => ?_, fun hlow hhigh => ?_⟩
  · exact ⟨wheel?_toGraph hin.scale.ne' hin'.scale.ne' ht, wheel?_transform ht, hscale htrue⟩
  · cases used with
    | false =>
      rw [hleft rfl]
      exact ⟨fun _ => le_rfl, fun _ => le_rfl⟩
    | true =>
      rw [hscale rfl]
      exact nextScale_turns hin.scale hlow hhigh

/-- In a window that has grown, the greatest scale cuts a turn of the wheel, and what was under the
pointer stays there. -/
theorem cut_zoom_keeps_place :
    ∃ v u : View ℝ ℝ,
      (ofGraph pair .standard ⟨1 / 2, 21 / 20, true⟩ 800 600).run? [.resize 1000 800] = some v ∧
      v.transform.k = 1 ∧ v.wheel? ⟨100, 50⟩ (-1) true = some (true, u) ∧
      u.toGraph ⟨100, 50⟩ = v.toGraph ⟨100, 50⟩ ∧ u.transform.k = 21 / 20 := by
  obtain ⟨v, hv, hone, -, -, hwheel⟩ := zoom_keeps_place_under_pointer
    ⟨1 / 2, 21 / 20, true⟩ (by norm_num) (by norm_num) pair .standard 800 600 [.resize 1000 800]
  have hunused : ¬(ofGraph pair .standard (⟨1 / 2, 21 / 20, true⟩ : Zoom ℝ) 800 600).ConsumesWheel
      [.resize 1000 800] := by
    rw [← List.nil_append [_], consumesWheel_append (run?_nil _)]
    rintro (hnil | ⟨p, delta, alt, u, ha, -⟩)
    · exact not_consumesWheel_nil _ hnil
    · cases ha
  obtain ⟨used, u, hu, hused, -, hkeeps, -⟩ := hwheel ⟨100, 50⟩ (-1) true
  have htrue : used = true := hused.2 ⟨by norm_num, fun _ => rfl⟩
  subst htrue
  obtain ⟨hplace, -, hscale⟩ := hkeeps rfl
  refine ⟨v, u, hv, hone hunused, hu, hplace, ?_⟩
  rw [hscale, hone hunused]
  norm_num

end CodeGraph.View
