import CodeGraph.Proofs.DragPins
import CodeGraph.Proofs.HoverHighlight
import CodeGraph.Proofs.PageRun

namespace CodeGraph

namespace View

variable {α β : Type} {v w : View α β}

/-- There is a tooltip exactly while the target is a node, and it has the node's qualified name,
kind and location. -/
theorem tooltip?_eq_some_iff {t : Tooltip} :
    v.tooltip? = some t ↔ ∃ i n, v.hover.target = some (.node i) ∧ v.nodes[i]? = some n ∧
      t = ⟨n.fqname, n.kind, n.location⟩ := by
  have hnode (i : Nat) : v.hover.node? = some i ↔ v.hover.target = some (.node i) := by
    unfold Hover.node?
    split <;> simp_all
  simp only [tooltip?, Option.bind_eq_bind, Option.bind_eq_some_iff, Option.pure_def,
    Option.some_inj, hnode]
  constructor
  · rintro ⟨i, hi, n, hn, rfl⟩
    exact ⟨i, n, hi, hn, rfl⟩
  · rintro ⟨i, n, hi, hn, rfl⟩
    exact ⟨i, hi, n, hn, rfl⟩

/-- The tooltip depends on the nodes and on the target alone. -/
theorem tooltip?_congr (hn : w.nodes = v.nodes) (ht : w.hover.target = v.hover.target) :
    w.tooltip? = v.tooltip? := by
  simp only [tooltip?, Hover.node?, hn, ht]

theorem tooltip?_eq_none (h : v.hover.target = none) : v.tooltip? = none := by
  simp [tooltip?, Hover.node?, h]

variable [Scalar α]

variable [Graded α β]

/-- A press takes hold of a node and ends the hover, or leaves both the drag and the hover. -/
theorem pointerDown_cases (v : View α β) (p : Point α) :
    ((v.pointerDown p).drag.isSome = true ∧ (v.pointerDown p).hover.target = none) ∨
      ((v.pointerDown p).drag = v.drag ∧ (v.pointerDown p).hover = v.hover) := by
  unfold pointerDown
  split
  · split
    · exact .inl ⟨rfl, setHover_target _ none⟩
    · exact .inr ⟨rfl, rfl⟩
  · exact .inr ⟨rfl, rfl⟩

variable [Scalar β]

theorem pointerMove_hover_of_drag (h : v.drag.isSome = true) (p : Point α) :
    (v.pointerMove p).hover = v.hover := by
  obtain ⟨d, hd⟩ := Option.isSome_iff_exists.1 h
  simp only [pointerMove, hd]

end View

namespace Surface

variable {s s' : Surface}

/-- The tooltip on the page is that of the view. The second part carries the first one over a
press: what is dragged is not hovered. -/
structure TipFollows (s : Surface) : Prop where
  tip : s.tip.map Tip.info = s.view.tooltip?
  drag : s.view.drag.isSome = true → s.view.hover.target = none

namespace TipFollows

theorem congr (h : s.TipFollows) (htip : s'.tip = s.tip) (hnodes : s'.view.nodes = s.view.nodes)
    (htarget : s'.view.hover.target = s.view.hover.target)
    (hdrag : s'.view.drag = s.view.drag ∨ s'.view.drag = none) : s'.TipFollows where
  tip := by
    rw [htip, View.tooltip?_congr hnodes htarget]
    exact h.tip
  drag := by
    intro hd
    rw [htarget]
    rcases hdrag with hdrag | hdrag
    · exact h.drag (hdrag ▸ hd)
    · rw [hdrag] at hd
      cases hd

theorem of_none (htip : s.tip = none) (htarget : s.view.hover.target = none) : s.TipFollows where
  tip := by
    rw [htip, View.tooltip?_eq_none htarget]
    rfl
  drag := fun _ => htarget

theorem tip_eq_none (h : s.TipFollows) (htarget : s.view.hover.target = none) : s.tip = none := by
  have htip := h.tip
  rw [View.tooltip?_eq_none htarget] at htip
  exact Option.map_eq_none_iff.1 htip

theorem press (h : s.TipFollows) (b : Browser) (p : Point Float) : (s.press b p).TipFollows := by
  unfold Surface.press
  split
  · rcases View.pointerDown_cases s.view (p.minus b.corner) with ⟨hdrag, htarget⟩ | ⟨hdrag, hhover⟩
    · refine of_none ?_ htarget
      simp only [hdrag, if_true]
    · by_cases hd : s.view.drag.isSome = true
      · -- a press beside the node that is held finds no hover to hide
        refine of_none ?_ ((congrArg Hover.target hhover).trans (h.drag hd))
        simp only [hdrag, hd, if_true]
      · refine h.congr ?_ (View.pointerDown_same _ _).nodes (congrArg Hover.target hhover)
          (.inl hdrag)
        simp only [hdrag, hd]
        rfl
  · exact h

theorem move (h : s.TipFollows) (b : Browser) (p onPage : Point Float) :
    (s.move b p onPage).TipFollows := by
  unfold Surface.move
  split
  · refine ⟨?_, fun hd => ?_⟩
    · simp [Option.map_map, Function.comp_def]
    · rw [View.pointerMove_drag] at hd
      rw [View.pointerMove_hover_of_drag hd]
      exact h.drag hd
  · exact h

theorem release (h : s.TipFollows) : s.release.TipFollows :=
  h.congr rfl (View.pointerUp_same s.view).nodes
    (congrArg Hover.target (View.pointerUp_hover s.view)) (.inr (View.pointerUp_drag s.view))

theorem leave (s : Surface) : s.leave.TipFollows := of_none rfl (View.setHover_target _ none)

theorem wheel (h : s.TipFollows) {b : Browser} {p : Point Float} {delta : Float} {alt used : Bool}
    (hw : s.wheel? b p delta alt = some (used, s')) : s'.TipFollows := by
  unfold Surface.wheel? at hw
  split at hw
  · obtain ⟨⟨u, v⟩, hv, hs⟩ := Option.bind_eq_some_iff.1 hw
    cases hs
    have hview := View.wheel?_transform hv
    refine h.congr rfl ?_ ?_ (.inl ?_) <;> rw [hview]
  · cases hw
    exact h

theorem frame (h : s.TipFollows) (b : Browser) : (s.frame b).surface.TipFollows := by
  unfold Surface.frame
  split
  · exact h.congr rfl (View.tick_same s.view frameTime).nodes (View.tick_target s.view frameTime)
      (.inl (View.tick_drag s.view frameTime))
  · exact h

theorem windowResized (h : s.TipFollows) (b : Browser) : (s.windowResized b).TipFollows := by
  unfold Surface.windowResized
  split
  · exact h.congr rfl rfl rfl (.inl rfl)
  · exact h

theorem turn (h : s.TipFollows) (hturn : s.Turn s') : s'.TipFollows := by
  cases hturn with
  | same => exact h
  | press b p => exact h.press b p
  | release => exact h.release
  | leave => exact leave s
  | wheel hw => exact h.wheel hw
  | frames b n => exact frames_induction b (fun _ ht => ht.frame b) n h
  | windowResized b => exact h.windowResized b
  | removeCanvas => exact h.congr rfl rfl rfl (.inl rfl)

end TipFollows

/-- Only a move of the pointer brings a tooltip. -/
theorem Turn.tip (h : s.Turn s') : s'.tip = none ∨ s'.tip = s.tip := by
  cases h with
  | same => exact .inr rfl
  | press b p =>
    unfold Surface.press
    split
    · dsimp only
      split
      · exact .inl rfl
      · exact .inr rfl
    · exact .inr rfl
  | release => exact .inr rfl
  | leave => exact .inl rfl
  | wheel h =>
    unfold wheel? at h
    split at h
    · obtain ⟨⟨u, v⟩, -, hs⟩ := Option.bind_eq_some_iff.1 h
      cases hs
      exact .inr rfl
    · cases h
      exact .inr rfl
  | frames b n =>
    have hframe (t : Surface) (ht : t.tip = s.tip) : (t.frame b).surface.tip = s.tip := by
      unfold frame
      split
      · exact ht
      · exact ht
    exact .inr (frames_induction b hframe n rfl)
  | windowResized b =>
    unfold Surface.windowResized
    split
    · exact .inr rfl
    · exact .inr rfl
  | removeCanvas => exact .inr rfl

theorem rebuild_tip {e : CanvasElement} (he : s.element = some e) (b : Browser) (g : Graph) :
    (s.rebuild b g).1.tip = none := by
  simp only [rebuild, he]

theorem refresh_tip {e : CanvasElement} (he : s.element = some e) (b : Browser) (g : Graph) :
    (s.refresh b g).tip = none := by
  obtain ⟨animated, frameAsked, h⟩ := animate_eq (s.rebuild b g).1 b
  rw [refresh, h]
  exact rebuild_tip he b g

theorem freshView_target (setup : SurfaceSetup) (g : Graph) (size : Float × Float) :
    (freshView setup g size).hover.target = none := rfl

theorem refresh_tipFollows {e : CanvasElement} (he : s.element = some e) (b : Browser) (g : Graph) :
    (s.refresh b g).TipFollows := by
  apply TipFollows.of_none (refresh_tip he b g)
  rw [refresh_view he, freshView_target]

theorem TipFollows.rebuild (h : s.TipFollows) (b : Browser) (g : Graph) :
    (s.rebuild b g).1.TipFollows := by
  cases he : s.element with
  | none => simpa only [Surface.rebuild, he] using h
  | some e =>
    apply TipFollows.of_none (rebuild_tip he b g)
    rw [rebuild_view he, freshView_target]

end Surface

namespace Page

variable {p q : Page} {e : Event} {st : Step}

def Event.movesPointer : Event → Bool
  | .move _ _ => true
  | _ => false

/-- The event puts a fresh view on the surface: a canvas is placed, or a graph is given while there
is one. -/
def Renews (p : Page) (e : Event) : Prop :=
  e = .canvasPlaced ∨
    ∃ g g' element, e = .given g ∧ p.content = .given g' ∧ p.surface.element = some element

theorem step?_tipFollows (hw : p.Wired) (h : p.step? e = some st) (hp : p.surface.TipFollows) :
    st.page.surface.TipFollows := by
  rcases step?_surface hw h with hturn | ⟨q, onPage, -, hs⟩ | ⟨g, g', -, -, hs⟩ | ⟨-, hs⟩
  · exact hp.turn hturn
  · rw [hs]
    exact hp.move p.browser q onPage
  · rw [hs]
    exact hp.rebuild p.browser g
  · rw [hs]
    exact Surface.refresh_tipFollows rfl p.browser p.content.graph

theorem run?_tipFollows {b : Browser} {setup : SurfaceSetup} {content : Content}
    {events : List Event} (h : (mount b setup content).1.run? events = some p) :
    p.surface.TipFollows := by
  have hmount : (mount b setup content).1.surface.TipFollows := by
    rw [mount_surface]
    exact Surface.refresh_tipFollows rfl b content.graph
  exact run?_induction (K := fun _ => True) (fun _ _ _ _ hw hp he => step?_tipFollows hw he hp)
    (fun _ _ => trivial) (mount_wired b setup content) hmount h

theorem step?_tip_none (hw : p.Wired) (hmove : e.movesPointer = false)
    (hp : p.surface.tip = none) (h : p.step? e = some st) : st.page.surface.tip = none := by
  rcases step?_surface hw h with hturn | ⟨q, onPage, he, -⟩ | ⟨g, g', -, -, hs⟩ | ⟨-, hs⟩
  · rcases hturn.tip with ht | ht
    · exact ht
    · exact ht.trans hp
  · rw [he] at hmove
    cases hmove
  · cases hel : p.surface.element with
    | none => rw [hs, Surface.rebuild, hel, hp]
    | some element => rw [hs, Surface.rebuild_tip hel]
  · rw [hs, Surface.refresh_tip rfl]

theorem step?_renews (hw : p.Wired) (hr : p.Renews e) (h : p.step? e = some st) :
    (∃ size, st.page.surface.view =
      Surface.freshView p.surface.setup st.page.content.graph size) ∧
      st.page.surface.tip = none := by
  rcases hr with rfl | ⟨g, g', element, rfl, hc, hel⟩
  · cases h
    have hs : (p.onCanvas p.surface.placeCanvas).page.surface =
        p.surface.placeCanvas.refresh p.browser p.content.graph :=
      withCanvas_surface hw.wakes_canvas _
    have hcontent : (p.onCanvas p.surface.placeCanvas).page.content = p.content :=
      withCanvas_content p _
    rw [hs, hcontent]
    exact ⟨⟨_, Surface.refresh_view rfl _ _⟩, Surface.refresh_tip rfl _ _⟩
  · cases h
    rw [onGiven_eq hw hc, rebuild_surface]
    exact ⟨⟨_, Surface.rebuild_view hel _ g⟩, Surface.rebuild_tip hel _ g⟩

/-- At every point of every run the tooltip on the page is the one of the view: there is one exactly
while a node is hovered, and it tells of that node, so that there is none while a node is dragged.
From when the pointer leaves or a fresh view is put up, none comes before the pointer moves again.
-/
theorem tooltip_follows_view {b : Browser} {setup : SurfaceSetup} {content : Content}
    {events : List Event} (h : (mount b setup content).1.run? events = some p) :
    p.surface.tip.map Tip.info = p.surface.view.tooltip? ∧
      (∀ info, p.surface.tip.map Tip.info = some info ↔
        ∃ i n, p.surface.view.hover.target = some (.node i) ∧
          p.surface.view.nodes[i]? = some n ∧ info = ⟨n.fqname, n.kind, n.location⟩) ∧
      (p.surface.view.drag.isSome = true → p.surface.tip = none) ∧
      (∀ e st, p.Renews e → p.step? e = some st → ∃ size, st.page.surface.view =
        Surface.freshView p.surface.setup st.page.content.graph size) ∧
      ∀ e st, e = .leave ∨ p.Renews e → p.step? e = some st →
        ∀ es q, (∀ e ∈ es, e.movesPointer = false) → st.page.run? es = some q →
          q.surface.tip = none := by
  have hp := run?_tipFollows h
  have hw := run?_wired (mount_wired b setup content) h
  refine ⟨hp.tip, fun info => ?_, fun hd => hp.tip_eq_none (hp.drag hd), fun e st hr hst =>
    (step?_renews hw hr hst).1, ?_⟩
  · rw [hp.tip]
    exact View.tooltip?_eq_some_iff
  intro e st he hst es q hes hq
  have hnone : st.page.surface.tip = none := by
    rcases he with rfl | hr
    · cases hst
      rfl
    · exact (step?_renews hw hr hst).2
  exact run?_induction (P := fun p => p.surface.tip = none)
    (fun _ _ _ hmove hw hp he => step?_tip_none hw hmove hp he) hes (step?_wired hw hst) hnone hq

/-- A node of a chain is looked for, pressed and let go of by leaving. -/
theorem chain_left_without_tooltip :
    ∃ p q, (mount .standard ⟨.standard, false, none, none⟩ (.given View.chain)).1.run?
        [.move ⟨500, 300⟩ ⟨500, 300⟩, .wheel ⟨500, 300⟩ 1 false, .press ⟨500, 300⟩, .frames 2] =
          some p ∧
      p.surface.tip.map Tip.info = p.surface.view.tooltip? ∧
      (∀ info, p.surface.tip.map Tip.info = some info ↔
        ∃ i n, p.surface.view.hover.target = some (.node i) ∧
          p.surface.view.nodes[i]? = some n ∧ info = ⟨n.fqname, n.kind, n.location⟩) ∧
      (p.surface.view.drag.isSome = true → p.surface.tip = none) ∧
      p.run? [.leave, .release, .frames 3] = some q ∧ q.surface.tip = none := by
  have hrun := run?_isSome
    (mount_wired .standard ⟨.standard, false, none, none⟩ (.given View.chain))
    (mount_shows .standard ⟨.standard, false, none, none⟩ (.given View.chain))
    (by rw [mount_setup]; decide +kernel)
    [.move ⟨500, 300⟩ ⟨500, 300⟩, .wheel ⟨500, 300⟩ 1 false, .press ⟨500, 300⟩, .frames 2]
  obtain ⟨p, hp⟩ := Option.isSome_iff_exists.1 hrun
  obtain ⟨htip, hinfo, hdrag, -, hleave⟩ := tooltip_follows_view hp
  refine ⟨p, _, hp, htip, hinfo, hdrag, rfl, ?_⟩
  exact hleave .leave _ (.inl rfl) rfl [.release, .frames 3] _ (by decide) rfl

end Page

end CodeGraph
