import Mathlib.Analysis.SpecialFunctions.Trigonometric.Basic
import CodeGraph.Proofs.InterruptedGesture
import CodeGraph.Proofs.LayoutTemperature

namespace CodeGraph

def Action.isTick {α β : Type} : Action α β → Bool
  | .tick _ => true
  | _ => false

def Action.tickCount {α β : Type} (actions : List (Action α β)) : Nat := actions.countP isTick

namespace View

open Filter Topology

section events

variable {α β : Type} [Scalar α] {v w : View α β}

theorem pointerUp_temperature (hdrag : v.drag = none) :
    v.pointerUp.temperature = v.temperature := by
  simp only [pointerUp, hdrag]

variable [Graded α β]

def Grabs (v : View α β) (a : Action α β) : Prop := ∃ p i, a = .down p ∧ v.nodeAt? p = some i

variable [Scalar β]

def GrabsNothing (v : View α β) (actions : List (Action α β)) : Prop :=
  ∀ as a u, as ++ [a] <+: actions → v.run? as = some u → ¬u.Grabs a

theorem pointerMove_temperature (v : View α β) (p : Point α) :
    (v.pointerMove p).temperature = v.temperature := by
  unfold pointerMove
  split <;> rfl

theorem tick_temperature (v : View α β) (dt : β) : (v.tick dt).temperature =
    if v.temperature.running then
      { v.temperature with alpha := v.nextAlpha, running := !v.cools }
    else v.temperature := by
  unfold tick moveLayout
  split <;> rfl

theorem tick_layout (v : View α β) (dt : β) : (v.tick dt).layout =
    if v.temperature.running then v.layout.update (dt * Graded.narrow v.nextAlpha)
    else v.layout := by
  unfold tick moveLayout
  split <;> rfl

/-- While no node is held, only a press on a node, a tick and heat from outside reach the
temperature. -/
theorem act?_temperature {a : Action α β} (hdrag : v.drag = none) (ha : a.isReheat = false)
    (hgrab : ¬v.Grabs a) (h : v.act? a = some w) :
    w.drag = none ∧
      (a.isTick = false ∧ w.temperature = v.temperature ∨ ∃ dt, a = .tick dt ∧ w = v.tick dt) := by
  cases a with
  | down p =>
    have hmiss : v.nodeAt? p = none := by
      rw [Option.eq_none_iff_forall_ne_some]
      exact fun i hi => hgrab ⟨p, i, rfl, hi⟩
    cases h
    rw [pointerDown_begins_pan hmiss]
    exact ⟨hdrag, .inl ⟨rfl, rfl⟩⟩
  | move p =>
    cases h
    exact ⟨(pointerMove_drag v p).trans hdrag, .inl ⟨rfl, pointerMove_temperature v p⟩⟩
  | up =>
    cases h
    exact ⟨pointerUp_drag v, .inl ⟨rfl, pointerUp_temperature hdrag⟩⟩
  | leave =>
    cases h
    exact ⟨pointerUp_drag v, .inl ⟨rfl, pointerUp_temperature hdrag⟩⟩
  | wheel p delta alt =>
    obtain ⟨⟨used, u⟩, hu, rfl⟩ := Option.map_eq_some_iff.1 h
    rw [wheel?_transform hu]
    exact ⟨hdrag, .inl ⟨rfl, rfl⟩⟩
  | hover target =>
    cases h
    exact ⟨hdrag, .inl ⟨rfl, rfl⟩⟩
  | reheat target => exact (Bool.false_ne_true ha.symm).elim
  | resize width height =>
    cases h
    exact ⟨hdrag, .inl ⟨rfl, rfl⟩⟩
  | tick dt =>
    cases h
    exact ⟨(tick_drag v dt).trans hdrag, .inr ⟨dt, rfl, rfl⟩⟩

end events

variable {v w : View ℝ ℝ} {start : ℝ} {n k : Nat}

/-- The ticks behind which a temperature of `start` at first, of which every tick takes the share
`decay` away, is below the least one. -/
def coldTicks (start decay least : ℝ) : Set Nat := {n | 1 ≤ n ∧ start * (1 - decay) ^ n < least}

theorem exists_isLeast_coldTicks {decay least : ℝ} (hdecay : 0 < decay) (hmost : decay ≤ 1)
    (hleast : 0 < least) (start : ℝ) : ∃ n, IsLeast (coldTicks start decay least) n := by
  have hcools : Tendsto (fun n => start * (1 - decay) ^ n) atTop (𝓝 0) := by
    have hshare := tendsto_pow_atTop_nhds_zero_of_lt_one (by linarith) (by linarith : 1 - decay < 1)
    simpa using hshare.const_mul start
  have hcold : (coldTicks start decay least).Nonempty :=
    ((eventually_ge_atTop 1).and (hcools.eventually_lt_const hleast)).exists
  exact ⟨_, Nat.sInf_mem hcold, fun m hm => Nat.sInf_le hm⟩

theorem lt_least_iff {decay least : ℝ} (hn : IsLeast (coldTicks start decay least) n)
    (hk : k < n) : start * (1 - decay) ^ (k + 1) < least ↔ k + 1 = n := by
  constructor
  · intro hcold
    have hle : n ≤ k + 1 := hn.2 ⟨Nat.succ_pos k, hcold⟩
    omega
  · rintro rfl
    exact hn.1.2

theorem nextAlpha_of_target (htarget : v.temperature.target = 0) :
    v.nextAlpha = v.temperature.alpha * (1 - v.simulation.alphaDecay) := by
  rw [nextAlpha, htarget]
  ring

/-- A view `k` ticks behind one of temperature `start`, with no node held since. The layout moves up
to tick `n`, the first one that finds it cold. -/
structure Cooling (start : ℝ) (n k : Nat) (v : View ℝ ℝ) : Prop where
  last : IsLeast (coldTicks start v.simulation.alphaDecay v.simulation.alphaMin) n
  drag : v.drag = none
  target : v.temperature.target = 0
  alpha : v.temperature.alpha = start * (1 - v.simulation.alphaDecay) ^ min k n
  running : v.temperature.running = true ↔ k < n

namespace Cooling

theorem congr (h : Cooling start n k v) (hdrag : w.drag = none)
    (htemperature : w.temperature = v.temperature) (hsim : w.simulation = v.simulation) :
    Cooling start n k w where
  last := by
    rw [hsim]
    exact h.last
  drag := hdrag
  target := by rw [htemperature, h.target]
  alpha := by rw [htemperature, hsim, h.alpha]
  running := by rw [htemperature, h.running]

theorem nextAlpha (h : Cooling start n k v) (hk : k < n) :
    v.nextAlpha = start * (1 - v.simulation.alphaDecay) ^ (k + 1) := by
  rw [nextAlpha_of_target h.target, h.alpha, min_eq_left hk.le, pow_succ, mul_assoc]

/-- A tick of a layout that moves takes its share of the temperature, and is the last such tick if
it finds the layout cold. A tick of a layout at rest does nothing to it. -/
theorem tick (h : Cooling start n k v) (dt : ℝ) : Cooling start n (k + 1) (v.tick dt) := by
  have hdrag : (v.tick dt).drag = none := (tick_drag v dt).trans h.drag
  have hsim : (v.tick dt).simulation = v.simulation := (tick_same v dt).simulation
  have hlast : IsLeast (coldTicks start (v.tick dt).simulation.alphaDecay
      (v.tick dt).simulation.alphaMin) n := by
    rw [hsim]
    exact h.last
  have htemperature := tick_temperature v dt
  by_cases hk : k < n
  · -- the layout moves, and is at rest behind this tick only if the tick is the last one
    have hrunning := h.running.2 hk
    rw [if_pos hrunning] at htemperature
    refine ⟨hlast, hdrag, ?_, ?_, ?_⟩
    · rw [htemperature]
      exact h.target
    · rw [htemperature, hsim, min_eq_left hk]
      exact h.nextAlpha hk
    · rw [htemperature]
      have hcools : v.cools = true ↔ k + 1 = n := by
        rw [cools, hrunning, Bool.true_and, decide_eq_true_iff, h.nextAlpha hk]
        exact lt_least_iff h.last hk
      rw [Bool.not_eq_true', ← Bool.not_eq_true, hcools]
      omega
  · have hrest : ¬v.temperature.running = true := mt h.running.1 hk
    rw [if_neg hrest] at htemperature
    have hmin : min (k + 1) n = min k n := by omega
    refine ⟨hlast, hdrag, ?_, ?_, ?_⟩
    · rw [htemperature, h.target]
    · rw [htemperature, hsim, hmin, h.alpha]
    · rw [htemperature, h.running]
      omega

theorem act? {a : Action ℝ ℝ} (h : Cooling start n k v) (ha : a.isReheat = false)
    (hgrab : ¬v.Grabs a) (hw : v.act? a = some w) :
    Cooling start n (k + Action.tickCount [a]) w := by
  obtain ⟨hdrag, ⟨hother, htemperature⟩ | ⟨dt, rfl, rfl⟩⟩ := act?_temperature h.drag ha hgrab hw
  · rw [Action.tickCount, List.countP_singleton, hother]
    exact h.congr hdrag htemperature (act?_same hw).simulation
  · exact h.tick dt

theorem run? {actions : List (Action ℝ ℝ)} (h : Cooling start n 0 v)
    (hactions : ∀ a ∈ actions, a.isReheat = false) (hgrabs : v.GrabsNothing actions)
    (hw : v.run? actions = some w) : Cooling start n (Action.tickCount actions) w := by
  -- from the end, since what is assumed of a run holds of its initial parts
  induction actions using List.reverseRecOn generalizing w with
  | nil =>
    cases hw
    exact h
  | append_singleton actions a ih =>
    rw [run?_append] at hw
    obtain ⟨u, hu, hw⟩ := Option.bind_eq_some_iff.1 hw
    rw [run?_singleton] at hw
    have hcooling := ih (fun b hb => hactions b (List.mem_append_left _ hb))
      (fun as b t hb => hgrabs as b t (hb.trans (List.prefix_append _ _))) hu
    rw [Action.tickCount, List.countP_append]
    exact hcooling.act? (hactions a (by simp)) (hgrabs actions a u List.prefix_rfl hu) hw

/-- The next tick moves the layout by its time scaled with the temperature, or leaves it. -/
theorem tick_layout (h : Cooling start n k v) (dt : ℝ) :
    (k < n → (v.tick dt).layout =
      v.layout.update (dt * (start * (1 - v.simulation.alphaDecay) ^ (k + 1)))) ∧
      (n ≤ k → (v.tick dt).layout = v.layout) := by
  rw [View.tick_layout]
  constructor
  · intro hk
    rw [if_pos (h.running.2 hk), h.nextAlpha hk]
    rfl
  · intro hk
    rw [if_neg (mt h.running.1 hk.not_gt)]

end Cooling

/-- A layout that moves while no node is held, behind any run without heat from outside. From there
on, as long as no node is taken hold of, there is a least number of ticks behind which the
temperature, less the share of each tick, is below the least one. Up to this tick, and whatever
happens between the ticks, each tick takes its share away and moves the layout by its time scaled
with the temperature. From then on the layout is at rest, its temperature stays, and no tick changes
it. -/
theorem layout_cools {g : Graph} {sim : Simulation ℝ ℝ} {zoom : Zoom ℝ} {width height : ℝ}
    {actions : List (Action ℝ ℝ)} (hdecay : 0 < sim.alphaDecay) (hmost : sim.alphaDecay ≤ 1)
    (hleast : 0 < sim.alphaMin) (hactions : ∀ a ∈ actions, a.isReheat = false)
    (h : (ofGraph g sim zoom width height).run? actions = some v) (hdrag : v.drag = none)
    (hrunning : v.temperature.running = true) :
    ∃ n, IsLeast {n | 1 ≤ n ∧ v.temperature.alpha * (1 - sim.alphaDecay) ^ n < sim.alphaMin} n ∧
      ∀ later : List (Action ℝ ℝ), (∀ a ∈ later, a.isReheat = false) → v.GrabsNothing later →
        (zoom.least ≤ zoom.greatest → ∃ w, v.run? later = some w) ∧
        ∀ w, v.run? later = some w →
          w.temperature.alpha =
            v.temperature.alpha * (1 - sim.alphaDecay) ^ min (Action.tickCount later) n ∧
          (w.temperature.running = true ↔ Action.tickCount later < n) ∧
          ∀ dt,
            (Action.tickCount later < n → (w.tick dt).layout = w.layout.update
              (dt * (v.temperature.alpha * (1 - sim.alphaDecay) ^ (Action.tickCount later + 1)))) ∧
            (n ≤ Action.tickCount later → (w.tick dt).layout = w.layout) := by
  obtain ⟨n, hn⟩ := exists_isLeast_coldTicks hdecay hmost hleast v.temperature.alpha
  have hheat := run?_heatedByDrag (ofGraph_heatedByDrag g sim zoom width height) hactions h
  have hkept := run?_same h
  have hsim : v.simulation = sim := hkept.simulation
  have hbegins : Cooling v.temperature.alpha n 0 v := by
    refine ⟨hsim.symm ▸ hn, hdrag, ?_, by simp, fun _ => hn.1.1, fun _ => hrunning⟩
    rw [hheat.target, hdrag]
    norm_num
  refine ⟨n, hn, fun later hlater hgrabs => ⟨fun hbounds => ?_, fun w hw => ?_⟩⟩
  · have hzoom : v.zoom.least ≤ v.zoom.greatest := by
      rw [hkept.zoom]
      exact hbounds
    exact Option.isSome_iff_exists.1 (run?_isSome hzoom later)
  · have hcooling := hbegins.run? hlater hgrabs hw
    have hsim' : w.simulation = sim := (run?_same hw).simulation.trans hsim
    refine ⟨?_, hcooling.running, fun dt => ?_⟩
    · rw [hcooling.alpha, hsim']
    · have htick := hcooling.tick_layout dt
      rwa [hsim'] at htick

theorem isLeast_coldTicks_standard :
    IsLeast (coldTicks 1 (Simulation.standard : Simulation ℝ ℝ).alphaDecay
      (Simulation.standard : Simulation ℝ ℝ).alphaMin) 300 := by
  have hshare : 1 - (Simulation.standard : Simulation ℝ ℝ).alphaDecay =
      97723722095581067 / 100000000000000000 := by
    norm_num [Simulation.standard]
  have hleast : (Simulation.standard : Simulation ℝ ℝ).alphaMin = 1 / 1000 := by
    norm_num [Simulation.standard]
  -- the powers are evaluated in two steps, each with a small exponent
  have hcold : ((97723722095581067 / 100000000000000000) ^ 150 : ℝ) ^ 2 < 1 / 1000 := by norm_num
  have hwarm : (1 / 1000 : ℝ) < ((97723722095581067 / 100000000000000000) ^ 23) ^ 13 := by norm_num
  rw [← pow_mul] at hcold hwarm
  simp only [coldTicks, hshare, hleast, one_mul]
  refine ⟨⟨by norm_num, hcold⟩, fun m hm => ?_⟩
  by_contra! hless
  have hpow : (97723722095581067 / 100000000000000000 : ℝ) ^ (23 * 13) ≤
      (97723722095581067 / 100000000000000000) ^ m :=
    pow_le_pow_of_le_one (by norm_num) (by norm_num) (by omega)
  exact (hm.2.trans (hwarm.trans_le hpow)).false

theorem pointerUp_nodeAt? {α β : Type} [Scalar α] [Graded α β] (v : View α β) (p : Point α) :
    v.pointerUp.nodeAt? p = v.nodeAt? p := by
  have hpositions : v.pointerUp.positions = v.positions := by
    apply List.ext_getElem?
    intro j
    rw [positions_getElem?, positions_getElem?]
    exact ((pointerUp_rest v).2.2 j).position?
  simp only [nodeAt?, nodeDistances, toGraph, hpositions, pointerUp_transform]

/-- A node is taken hold of and let go at once. The layout then moves for three hundred ticks, also
while the background is dragged, and for no longer. -/
theorem released_pair_cools_in_300_ticks :
    ∃ v u : View ℝ ℝ,
      (ofGraph pair .standard .standard 800 600).run? [.down ⟨500, 300⟩, .up] = some v ∧
      v.drag = none ∧ v.temperature.running = true ∧ v.nodeAt? ⟨400, 300⟩ = none ∧
      v.run? (.down ⟨400, 300⟩ :: List.replicate 299 (.tick 0.016)) = some u ∧
      u.temperature.running = true ∧
      (u.tick 0.016).layout = u.layout.update (0.016 * (1 - 0.02276277904418933) ^ 300) ∧
      (u.tick 0.016).temperature.running = false ∧
      ((u.tick 0.016).tick 0.016).layout = (u.tick 0.016).layout := by
  have hrun : (ofGraph pair .standard .standard 800 600 : View ℝ ℝ).run? [.down ⟨500, 300⟩, .up] =
      some (pairView.pointerDown ⟨500, 300⟩).pointerUp := rfl
  obtain ⟨b, -, hdown⟩ := pointerDown_begins_drag pairView_hit
  have hmiss : (pairView.pointerDown ⟨500, 300⟩).pointerUp.nodeAt? ⟨400, 300⟩ = none := by
    have hmiddle := pairView_nodeAt? 0
    norm_num [nearest] at hmiddle
    rw [pointerUp_nodeAt?, pointerDown_nodeAt? pairView_hit]
    exact hmiddle
  have hdrag := pointerUp_drag (pairView.pointerDown ⟨500, 300⟩)
  obtain ⟨halpha, hrunning, -⟩ := pointerUp_rest (pairView.pointerDown ⟨500, 300⟩)
  generalize (pairView.pointerDown ⟨500, 300⟩).pointerUp = v at hrun hmiss hdrag halpha hrunning
  have hone : v.temperature.alpha = 1 := by
    have hdecimal : pairView.temperature.alpha = (1.0 : ℝ) := rfl
    rw [halpha, hdown]
    exact hdecimal.trans (by norm_num)
  have hmoves : v.temperature.running = true := by
    rw [hrunning, hdown]
    rfl
  obtain ⟨n, hn, hcools⟩ := layout_cools (by norm_num [Simulation.standard])
    (by norm_num [Simulation.standard]) (by norm_num [Simulation.standard])
    (by simp [Action.isReheat]) hrun hdrag hmoves
  rw [hone] at hn hcools
  have hlast : n = 300 := hn.unique isLeast_coldTicks_standard
  subst hlast
  have hplain (m : Nat) : ∀ a ∈ (.down ⟨400, 300⟩ :: List.replicate m (.tick 0.016) :
      List (Action ℝ ℝ)), a.isReheat = false := by
    simp [Action.isReheat]
  have hgrabs (m : Nat) : v.GrabsNothing (.down ⟨400, 300⟩ :: List.replicate m (.tick 0.016)) := by
    rintro (_ | ⟨b, as⟩) a u hbegins hu ⟨p, i, rfl, hi⟩
    · cases (List.cons_prefix_cons.1 hbegins).1
      cases hu
      cases hmiss.symm.trans hi
    · have hmem := (List.cons_prefix_cons.1 hbegins).2.subset List.mem_concat_self
      cases List.eq_of_mem_replicate hmem
  have hcount (m : Nat) : Action.tickCount (.down ⟨400, 300⟩ :: List.replicate m (.tick 0.016) :
      List (Action ℝ ℝ)) = m := by
    simp [Action.tickCount, Action.isTick, List.countP_replicate]
  obtain ⟨hanswers, hmoving⟩ := hcools _ (hplain 299) (hgrabs 299)
  obtain ⟨u, hu⟩ := hanswers (by norm_num [Zoom.standard])
  obtain ⟨-, hstill, hlayout⟩ := hmoving u hu
  have hnext : v.run? (.down ⟨400, 300⟩ :: List.replicate 300 (.tick 0.016)) =
      some (u.tick 0.016) := by
    rw [List.replicate_succ', ← List.cons_append, run?_append, hu]
    rfl
  obtain ⟨-, hrest, hleaves⟩ := (hcools _ (hplain 300) (hgrabs 300)).2 _ hnext
  rw [hcount] at hstill hlayout hrest hleaves
  refine ⟨v, u, hrun, hdrag, hmoves, hmiss, hu, hstill.2 (by norm_num), ?_, ?_,
    (hleaves 0.016).2 le_rfl⟩
  · rw [(hlayout 0.016).1 (by norm_num), one_mul]
    rfl
  · rw [← Bool.not_eq_true, hrest]
    exact lt_irrefl 300

end View

end CodeGraph
