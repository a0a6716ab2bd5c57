import CodeGraph.Proofs.NumberOrder
import CodeGraph.Proofs.ViewRun

namespace CodeGraph.View

variable {α β : Type} {v w : View α β}

/-- A node is pinned exactly if it is the one being dragged. -/
def PinsFollowDrag (v : View α β) : Prop :=
  ∀ i, v.layout.isPinned i = true ↔ ∃ d, v.drag = some d ∧ d.node = i

namespace PinsFollowDrag

theorem lt (h : v.PinsFollowDrag) {d : Drag α β} (hd : v.drag = some d) :
    d.node < v.layout.bodies.size :=
  Layout.isPinned_lt ((h d.node).2 ⟨d, hd, rfl⟩)

theorem unique (h : v.PinsFollowDrag) {i j : Nat} (hi : v.layout.isPinned i = true)
    (hj : v.layout.isPinned j = true) : i = j := by
  obtain ⟨d, hd, rfl⟩ := (h i).1 hi
  obtain ⟨e, he, rfl⟩ := (h j).1 hj
  cases hd.symm.trans he
  rfl

theorem free (h : v.PinsFollowDrag) (hd : v.drag = none) (i : Nat) :
    v.layout.isPinned i = false := by
  rw [Bool.eq_false_iff]
  intro hi
  obtain ⟨d, hd', -⟩ := (h i).1 hi
  cases hd.symm.trans hd'

theorem congr (h : v.PinsFollowDrag) (hd : w.drag = v.drag)
    (hp : ∀ i, w.layout.isPinned i = v.layout.isPinned i) : w.PinsFollowDrag := by
  intro i
  rw [hp i, hd]
  exact h i

end PinsFollowDrag

theorem positions_getElem? [Graded α β] (v : View α β) (i : Nat) :
    v.positions[i]? = v.position? i := by
  simp [positions, position?]

variable [Scalar α]

theorem foldl_nearest_mem (reach : α) (ds : List (Nat × α)) (best : Option (Nat × α))
    {d : Nat × α} (h : ds.foldl (fun best d =>
      if d.2 < reach && best.all (fun b => decide (d.2 < b.2)) then some d else best) best =
        some d) : best = some d ∨ d ∈ ds := by
  induction ds generalizing best with
  | nil => exact .inl h
  | cons e ds ih =>
    rw [List.foldl_cons] at h
    rcases ih _ h with hb | hd
    · split at hb
      · exact .inr (Option.some.inj hb ▸ List.mem_cons_self)
      · exact .inl hb
    · exact .inr (List.mem_cons_of_mem e hd)

theorem nearest_mem {reach : α} {ds : List (Nat × α)} {d : Nat × α}
    (h : nearest reach ds = some d) : d ∈ ds := by
  rcases foldl_nearest_mem reach ds none h with hn | hd
  · cases hn
  · exact hd

theorem pointerUp_drag (v : View α β) : v.pointerUp.drag = none := by
  unfold pointerUp
  split
  · rfl
  · assumption

theorem pointerUp_pins (h : v.PinsFollowDrag) : v.pointerUp.PinsFollowDrag := by
  intro i
  rw [pointerUp_drag]
  unfold pointerUp
  split
  · next d hd =>
    rw [Layout.release_isPinned, h i, hd]
    simp [eq_comm]
  · next hd => simp [h.free hd i]

variable [Graded α β]

theorem nodeAt?_lt {p : Point α} {i : Nat} (h : v.nodeAt? p = some i) :
    i < v.layout.bodies.size := by
  obtain ⟨d, hd, rfl⟩ := Option.map_eq_some_iff.1 h
  obtain ⟨q, hq, rfl⟩ := List.mem_map.1 (nearest_mem hd)
  simpa [positions] using List.snd_lt_of_mem_zipIdx hq

theorem pointerDown_begins_pan {p : Point α} (h : v.nodeAt? p = none) :
    v.pointerDown p = { v with pan := some ⟨p, ⟨v.transform.x, v.transform.y⟩⟩ } := by
  rw [pointerDown, h]

/-- A press on a node begins to drag it from where it is, and heats the layout. -/
theorem pointerDown_begins_drag {p : Point α} {i : Nat} (h : v.nodeAt? p = some i) :
    ∃ b, v.layout.bodies[i]? = some b ∧
      v.pointerDown p = (({ v with
        drag := some ⟨i, p, b.position⟩
        layout := v.layout.pin i b.position }).setHover none).reheat
          v.simulation.dragAlphaTarget := by
  have hb := Array.getElem?_eq_getElem (nodeAt?_lt h)
  exact ⟨_, hb, by simp only [pointerDown, h, hb]⟩

theorem pointerDown_miss {p : Point α} (h : v.nodeAt? p = none) :
    (v.pointerDown p).drag = v.drag ∧ (v.pointerDown p).layout = v.layout := by
  rw [pointerDown_begins_pan h]
  exact ⟨rfl, rfl⟩

theorem pointerDown_hit {p : Point α} {i : Nat} (h : v.nodeAt? p = some i) :
    (∃ d, (v.pointerDown p).drag = some d ∧ d.node = i) ∧
      ∀ j, (v.pointerDown p).layout.isPinned j = true ↔ j = i ∨ v.layout.isPinned j = true := by
  obtain ⟨b, -, hdown⟩ := pointerDown_begins_drag h
  rw [hdown]
  exact ⟨⟨_, rfl, rfl⟩, Layout.pin_isPinned v.layout (nodeAt?_lt h) _⟩

/-- A press on a node moves nothing, so that the next press meets the same nodes. -/
theorem pointerDown_nodeAt? {p : Point α} {i : Nat} (h : v.nodeAt? p = some i) (q : Point α) :
    (v.pointerDown p).nodeAt? q = v.nodeAt? q := by
  obtain ⟨b, hb, hdown⟩ := pointerDown_begins_drag h
  have hp : (v.pointerDown p).positions = v.positions := by
    rw [hdown]
    apply List.ext_getElem?
    intro j
    simp only [positions_getElem?, position?, setHover, reheat, Layout.pin, Layout.modify_body]
    by_cases hij : i = j
    · subst hij
      simp [hb, Body.position]
    · simp [hij]
  have ht : (v.pointerDown p).transform = v.transform := by
    rw [hdown]
    rfl
  simp only [nodeAt?, nodeDistances, toGraph, hp, ht]

theorem ofGraph_pins [Scalar β] (g : Graph) (sim : Simulation α β) (zoom : Zoom α)
    (width height : α) : (ofGraph g sim zoom width height).PinsFollowDrag := by
  intro i
  simp only [Layout.isPinned, ofGraph_bodies, List.getElem?_toArray, List.getElem?_map]
  cases (firstNodes [] g.nodes.zipIdx)[i]? <;> simp [Body.atRest, ofGraph]

/-- The event is a press on another node than the one being dragged. -/
def Regrabs (v : View α β) (a : Action α β) : Prop :=
  ∃ p d i, a = .down p ∧ v.drag = some d ∧ v.nodeAt? p = some i ∧ i ≠ d.node

theorem pointerDown_pins {p : Point α} (hv : v.PinsFollowDrag) (hn : ¬v.Regrabs (.down p)) :
    (v.pointerDown p).PinsFollowDrag := by
  cases hp : v.nodeAt? p with
  | none =>
    obtain ⟨hd, hl⟩ := pointerDown_miss hp
    exact hv.congr hd fun i => by rw [hl]
  | some i =>
    obtain ⟨⟨d, hd, rfl⟩, hpin⟩ := pointerDown_hit hp
    intro j
    rw [hpin j, hd]
    constructor
    · rintro (rfl | hj)
      · exact ⟨d, rfl, rfl⟩
      · -- a node pinned before is the dragged one, and no other than the one pressed
        obtain ⟨e, he, rfl⟩ := (hv j).1 hj
        refine ⟨d, rfl, Decidable.byContradiction fun hne => ?_⟩
        exact hn ⟨p, e, d.node, rfl, he, hp, hne⟩
    · rintro ⟨e, he, rfl⟩
      cases he
      exact .inl rfl

/-- A press on a second node leaves the first one pinned. -/
theorem regrab_breaks_pins {a : Action α β} (hv : v.PinsFollowDrag) (hr : v.Regrabs a) :
    ∃ p, a = .down p ∧ ¬(v.pointerDown p).PinsFollowDrag := by
  obtain ⟨p, d, i, rfl, hd, hp, hne⟩ := hr
  refine ⟨p, rfl, fun hw => hne ?_⟩
  obtain ⟨-, hpin⟩ := pointerDown_hit hp
  have hold : (v.pointerDown p).layout.isPinned d.node = true :=
    (hpin d.node).2 (.inr ((hv d.node).2 ⟨d, hd, rfl⟩))
  exact hw.unique ((hpin i).2 (.inl rfl)) hold

variable [Scalar β]

theorem pointerMove_pins (hv : v.PinsFollowDrag) (p : Point α) :
    (v.pointerMove p).PinsFollowDrag := by
  unfold pointerMove
  split
  · next _ _ d hd =>
    intro i
    rw [Layout.pin_isPinned _ (hv.lt hd), hv i, hd]
    simp [eq_comm]
  · exact hv.congr rfl fun _ => rfl
  · exact hv.congr rfl fun _ => rfl

theorem tick_pins (hv : v.PinsFollowDrag) (dt : β) : (v.tick dt).PinsFollowDrag := by
  unfold tick moveLayout
  split
  · exact hv.congr rfl (Layout.update_kept _ _).isPinned
  · exact hv

/-- What any other event than a press on a second node keeps. -/
theorem act?_pins {a : Action α β} (hv : v.PinsFollowDrag) (hn : ¬v.Regrabs a)
    (h : v.act? a = some w) : w.PinsFollowDrag := by
  cases a with
  | down p => exact Option.some.inj h ▸ pointerDown_pins hv hn
  | move p => exact Option.some.inj h ▸ pointerMove_pins hv p
  | up => exact Option.some.inj h ▸ pointerUp_pins hv
  | leave => exact Option.some.inj h ▸ (pointerUp_pins hv).congr rfl fun _ => rfl
  | wheel p delta alt =>
    obtain ⟨⟨used, u⟩, hu, rfl⟩ := Option.map_eq_some_iff.1 h
    rw [wheel?_transform hu]
    exact hv.congr rfl fun _ => rfl
  | hover target => exact Option.some.inj h ▸ hv.congr rfl fun _ => rfl
  | reheat target => exact Option.some.inj h ▸ hv.congr rfl fun _ => rfl
  | resize width height => exact Option.some.inj h ▸ hv.congr rfl fun _ => rfl
  | tick dt => exact Option.some.inj h ▸ tick_pins hv dt

theorem run?_pins {as : List (Action α β)} (hv : v.PinsFollowDrag)
    (hn : ∀ bs a u, bs ++ [a] <+: as → v.run? bs = some u → ¬u.Regrabs a)
    (h : v.run? as = some w) : w.PinsFollowDrag := by
  induction as generalizing v with
  | nil => exact Option.some.inj h ▸ hv
  | cons a as ih =>
    rw [run?_cons] at h
    obtain ⟨u, hu, hw⟩ := Option.bind_eq_some_iff.1 h
    -- what is assumed of the initial parts holds of those behind the first event
    have ha : ¬v.Regrabs a := hn [] a v (by simp) rfl
    refine ih (act?_pins hv ha hu) (fun bs b t hb ht => ?_) hw
    refine hn (a :: bs) b t (by simpa using hb) ?_
    rw [run?_cons, hu]
    exact ht

theorem run?_released {as : List (Action α β)} (h : v.run? as = some w)
    (hl : as.getLast? = some .up ∨ as.getLast? = some .leave) : w.drag = none := by
  have hlast {a : Action α β} (ha : as.getLast? = some a) :
      ∃ u : View α β, u.act? a = some w := by
    obtain ⟨bs, rfl⟩ := List.getLast?_eq_some_iff.1 ha
    rw [run?_append] at h
    obtain ⟨u, -, hw⟩ := Option.bind_eq_some_iff.1 h
    exact ⟨u, by rwa [run?_singleton] at hw⟩
  rcases hl with hl | hl
  · obtain ⟨u, hu⟩ := hlast hl
    exact Option.some.inj hu ▸ pointerUp_drag u
  · obtain ⟨u, hu⟩ := hlast hl
    exact Option.some.inj hu ▸ pointerUp_drag u

/-- At every point of a run the pins follow the drag, so that at most one node is pinned and none
behind a release, exactly if no press of the run takes a second node while one is held. -/
theorem pins_follow_drag_iff_no_regrab (g : Graph) (sim : Simulation α β) (zoom : Zoom α)
    (width height : α) (actions : List (Action α β)) :
    (∀ as u, as <+: actions → (ofGraph g sim zoom width height).run? as = some u →
      u.PinsFollowDrag ∧
      (∀ i j, u.layout.isPinned i = true → u.layout.isPinned j = true → i = j) ∧
      (as.getLast? = some .up ∨ as.getLast? = some .leave →
        ∀ i, u.layout.isPinned i = false)) ↔
    ∀ as a u, as ++ [a] <+: actions → (ofGraph g sim zoom width height).run? as = some u →
      ¬u.Regrabs a := by
  constructor
  · intro h as a u ha hu hr
    have hpins := (h as u ((List.prefix_append as [a]).trans ha) hu).1
    obtain ⟨p, rfl, hbroken⟩ := regrab_breaks_pins hpins hr
    have hnext : (ofGraph g sim zoom width height).run? (as ++ [.down p]) =
        some (u.pointerDown p) := by
      rw [run?_append, hu]
      rfl
    exact hbroken (h _ _ ha hnext).1
  · intro h as u ha hu
    have hpins : u.PinsFollowDrag := run?_pins (ofGraph_pins g sim zoom width height)
      (fun bs a t hb ht => h bs a t (hb.trans ha) ht) hu
    exact ⟨hpins, fun _ _ => hpins.unique, fun hl => hpins.free (run?_released hu hl)⟩

theorem spread_two : (spread 2 : ℝ) = 100 := by
  have h : Real.sqrt 2 ≤ 2 := by
    rw [Real.sqrt_le_left (by norm_num)]
    norm_num
  simp only [spread, Scalar.max, Scalar.sqrt, Scalar.ofNat]
  norm_num
  intro h'
  linarith

def pair : Graph :=
  ⟨[⟨⟨"a"⟩, "a", "a", .unknown, none⟩, ⟨⟨"b"⟩, "b", "b", .unknown, none⟩], []⟩

noncomputable def pairView : View ℝ ℝ := ofGraph pair .standard .standard 800 600

theorem pairView_positions : pairView.positions = [⟨100, 0⟩, ⟨-100, 0⟩] := by
  have hf : firstNodes [] pair.nodes.zipIdx = pair.nodes.zipIdx := by decide
  have hs : (spread (max pair.nodes.length 1) : ℝ) = 100 := spread_two
  simp only [positions, pairView, ofGraph_bodies, hf, startPlace, hs, Graded.narrow, Graded.widen,
    Scalar.ofNat, Scalar.cos, Scalar.sin, Scalar.pi, Body.atRest]
  norm_num [pair, List.zipIdx]

theorem pairView_transform : pairView.transform = ⟨400, 300, 1⟩ := by
  simp only [pairView, ofGraph]
  norm_num

theorem pairView_nodeAt? (x : ℝ) :
    pairView.nodeAt? ⟨400 + x, 300⟩ =
      (nearest 12 [(0, |100 - x|), (1, |-100 - x|)]).map Prod.fst := by
  have hlen (a : ℝ) : Point.length ⟨a, 0⟩ = |a| := by
    simp [Point.length, Point.squaredLength, Scalar.sqrt, Real.sqrt_mul_self_eq_abs]
  simp only [nodeAt?, nodeDistances, pairView_positions, toGraph, pairView_transform, nodeReach,
    List.zipIdx, List.map, Point.minus]
  norm_num [hlen]

theorem pairView_hit : pairView.nodeAt? ⟨500, 300⟩ = some 0 := by
  have h := pairView_nodeAt? 100
  norm_num [nearest] at h
  exact h

/-- A second press before the release of the first: behind the release nothing is dragged, and the
first node is still pinned. -/
theorem second_press_leaves_first_pinned :
    ∃ w : View ℝ ℝ,
      (ofGraph pair .standard .standard 800 600).run?
        [.down ⟨500, 300⟩, .down ⟨300, 300⟩, .up] = some w ∧
      w.drag = none ∧ w.layout.isPinned 0 = true ∧ ¬w.PinsFollowDrag := by
  have hfirst := pairView_hit
  have hsecond : (pairView.pointerDown ⟨500, 300⟩).nodeAt? ⟨300, 300⟩ = some 1 := by
    have h := pairView_nodeAt? (-100)
    norm_num [nearest] at h
    rw [pointerDown_nodeAt? hfirst]
    exact h
  obtain ⟨-, hpin⟩ := pointerDown_hit hfirst
  obtain ⟨⟨d, hd, hnode⟩, hpin'⟩ := pointerDown_hit hsecond
  have hup := pointerUp_drag ((pairView.pointerDown ⟨500, 300⟩).pointerDown ⟨300, 300⟩)
  have hheld : ((pairView.pointerDown ⟨500, 300⟩).pointerDown ⟨300, 300⟩).pointerUp.layout.isPinned
      0 = true := by
    simp only [pointerUp, hd, hnode]
    rw [Layout.release_isPinned, hpin', hpin]
    simp
  refine ⟨_, rfl, hup, hheld, fun hw => ?_⟩
  exact Bool.noConfusion (hheld.symm.trans (hw.free hup 0))

end CodeGraph.View
