import CodeGraph.Page.Basic
import CodeGraph.Proofs.ViewRun

namespace CodeGraph

namespace Surface

variable {s s' t : Surface}

/-- What an event other than a move of the pointer may do to a surface that keeps its view. -/
inductive Turn (s : Surface) : Surface → Prop
  | same : s.Turn s
  | press (b : Browser) (p : Point Float) : s.Turn (s.press b p)
  | release : s.Turn s.release
  | leave : s.Turn s.leave
  | wheel {b : Browser} {p : Point Float} {delta : Float} {alt used : Bool} {s' : Surface}
      (h : s.wheel? b p delta alt = some (used, s')) : s.Turn s'
  | frames (b : Browser) (n : Nat) : s.Turn (s.frames b n).surface
  | windowResized (b : Browser) : s.Turn (s.windowResized b)
  | removeCanvas : s.Turn s.removeCanvas

/-- The same settings, and a view that some events lead to. -/
structure GoesOn (s s' : Surface) : Prop where
  setup : s'.setup = s.setup
  view : ∃ actions, s.view.run? actions = some s'.view

theorem GoesOn.refl (s : Surface) : s.GoesOn s := ⟨rfl, [], rfl⟩

theorem GoesOn.trans (h : s.GoesOn s') (h' : s'.GoesOn t) : s.GoesOn t := by
  obtain ⟨as, ha⟩ := h.view
  obtain ⟨bs, hb⟩ := h'.view
  refine ⟨h'.setup.trans h.setup, as ++ bs, ?_⟩
  rw [View.run?_append, ha]
  exact hb

theorem GoesOn.of_act {a : Action Float Float32} (hs : s'.setup = s.setup)
    (ha : s.view.act? a = some s'.view) : s.GoesOn s' :=
  ⟨hs, [a], (View.run?_singleton s.view a).trans ha⟩

theorem press_goesOn (s : Surface) (b : Browser) (p : Point Float) : s.GoesOn (s.press b p) := by
  unfold press
  split
  · exact .of_act (a := .down (p.minus b.corner)) rfl rfl
  · exact .refl s

theorem move_goesOn (s : Surface) (b : Browser) (p onPage : Point Float) :
    s.GoesOn (s.move b p onPage) := by
  unfold move
  split
  · exact .of_act (a := .move (p.minus b.corner)) rfl rfl
  · exact .refl s

theorem wheel?_goesOn {b : Browser} {p : Point Float} {delta : Float} {alt used : Bool}
    (h : s.wheel? b p delta alt = some (used, s')) : s.GoesOn s' := by
  unfold wheel? at h
  split at h
  · obtain ⟨⟨u, v⟩, hv, hs⟩ := Option.bind_eq_some_iff.1 h
    cases hs
    refine .of_act (a := .wheel (p.minus b.corner) delta alt) rfl ?_
    rw [View.act?, hv]
    rfl
  · cases h
    exact .refl s

theorem frame_goesOn (s : Surface) (b : Browser) : s.GoesOn (s.frame b).surface := by
  unfold frame
  split
  · exact .of_act (a := .tick frameTime) rfl rfl
  · exact .refl s

/-- What every frame keeps is kept by any number of them. -/
theorem frames_induction {P : Surface → Prop} (b : Browser)
    (step : ∀ s : Surface, P s → P (s.frame b).surface) (n : Nat) (h : P s) :
    P (s.frames b n).surface := by
  fun_induction frames s b n with
  | case1 => exact h
  | case2 s => exact step s h
  | case3 s n first rest ih => exact ih (step s h)

theorem frames_goesOn (s : Surface) (b : Browser) (n : Nat) : s.GoesOn (s.frames b n).surface :=
  frames_induction b (fun t ht => ht.trans (frame_goesOn t b)) n (.refl s)

theorem windowResized_goesOn (s : Surface) (b : Browser) : s.GoesOn (s.windowResized b) := by
  unfold windowResized
  split
  · exact .of_act (a := .resize _ _) rfl rfl
  · exact .refl s

theorem Turn.goesOn (h : s.Turn s') : s.GoesOn s' := by
  cases h with
  | same => exact .refl s
  | press b p => exact press_goesOn s b p
  | release => exact .of_act (a := .up) rfl rfl
  | leave => exact .of_act (a := .leave) rfl rfl
  | wheel h => exact wheel?_goesOn h
  | frames b n => exact frames_goesOn s b n
  | windowResized b => exact windowResized_goesOn s b
  | removeCanvas => exact ⟨rfl, [], rfl⟩

/-- The view was built for the graph, and events have led from there to what it is. -/
def Shows (s : Surface) (g : Graph) : Prop :=
  ∃ (width height : Float) (actions : List (Action Float Float32)),
    (View.ofGraph g s.setup.config.simulation s.setup.config.zoom width height).run? actions =
      some s.view

theorem GoesOn.shows (h : s.GoesOn s') {g : Graph} (hg : s.Shows g) : s'.Shows g := by
  obtain ⟨width, height, as, ha⟩ := hg
  obtain ⟨bs, hb⟩ := h.view
  refine ⟨width, height, as ++ bs, ?_⟩
  rw [h.setup, View.run?_append, ha]
  exact hb

theorem Shows.zoom {g : Graph} (h : s.Shows g) : s.view.zoom = s.setup.config.zoom := by
  obtain ⟨width, height, actions, ha⟩ := h
  exact (View.run?_same ha).zoom

theorem freshView_shows {g : Graph} {size : Float × Float}
    (h : s.view = freshView s.setup g size) : s.Shows g :=
  ⟨size.1, size.2, [], by rw [h]; rfl⟩

theorem rebuild_setup (s : Surface) (b : Browser) (g : Graph) :
    (s.rebuild b g).1.setup = s.setup := by
  unfold rebuild
  split <;> rfl

theorem rebuild_view {e : CanvasElement} (he : s.element = some e) (b : Browser) (g : Graph) :
    (s.rebuild b g).1.view = freshView s.setup g
      (b.measure s.setup.fullscreen s.setup.width s.setup.height) := by
  simp only [rebuild, he]

/-- Setting up the animation changes only what belongs to it. -/
theorem animate_eq (s : Surface) (b : Browser) :
    ∃ animated frameAsked,
      (s.animate b).1 = { s with animated := animated, frameAsked := frameAsked } := by
  unfold animate
  split
  · split
    · exact ⟨_, _, rfl⟩
    · split <;> exact ⟨_, _, rfl⟩
  · exact ⟨_, _, rfl⟩

/-- The surface behind both effects: the view is built, and the animation is set up. -/
def refresh (s : Surface) (b : Browser) (g : Graph) : Surface := ((s.rebuild b g).1.animate b).1

theorem refresh_setup (s : Surface) (b : Browser) (g : Graph) :
    (s.refresh b g).setup = s.setup := by
  obtain ⟨animated, frameAsked, h⟩ := animate_eq (s.rebuild b g).1 b
  rw [refresh, h]
  exact rebuild_setup s b g

theorem refresh_view {e : CanvasElement} (he : s.element = some e) (b : Browser) (g : Graph) :
    (s.refresh b g).view = freshView s.setup g
      (b.measure s.setup.fullscreen s.setup.width s.setup.height) := by
  obtain ⟨animated, frameAsked, h⟩ := animate_eq (s.rebuild b g).1 b
  rw [refresh, h]
  exact rebuild_view he b g

theorem refresh_shows {e : CanvasElement} (he : s.element = some e) (b : Browser) (g : Graph) :
    (s.refresh b g).Shows g := by
  apply freshView_shows
  rw [refresh_setup]
  exact refresh_view he b g

/-- Neither effect does anything without a canvas. -/
theorem refresh_of_none (he : s.element = none) (b : Browser) (g : Graph) : s.refresh b g = s := by
  simp only [refresh, rebuild, animate, he]

theorem rebuild_shows (b : Browser) (g : Graph) {g' : Graph} (h : s.Shows g') :
    ∃ g'', (s.rebuild b g).1.Shows g'' := by
  cases he : s.element with
  | none => exact ⟨g', by simpa [rebuild, he] using h⟩
  | some e =>
    have hview : (s.rebuild b g).1.view = freshView (s.rebuild b g).1.setup g
        (b.measure s.setup.fullscreen s.setup.width s.setup.height) := by
      rw [rebuild_setup]
      exact rebuild_view he b g
    exact ⟨g, freshView_shows hview⟩

theorem wheel?_isSome (hz : s.view.zoom.least ≤ s.view.zoom.greatest) (b : Browser)
    (p : Point Float) (delta : Float) (alt : Bool) : (s.wheel? b p delta alt).isSome = true := by
  unfold wheel?
  split
  · have h := View.act?_isSome hz (.wheel (p.minus b.corner) delta alt)
    rw [View.act?, Option.isSome_map] at h
    obtain ⟨w, hw⟩ := Option.isSome_iff_exists.1 h
    rw [hw]
    rfl
  · rfl

end Surface

namespace Content

theorem graphSignal_value (c : Content) (m : Memo Nat) : (c.graphSignal m).value = c.graph := by
  cases c <;> rfl

theorem graphSignal_revision (c : Content) (m : Memo Nat) : (c.graphSignal m).revision = m := by
  cases c <;> rfl

end Content

namespace Page

variable {p q : Page} {e : Event} {st : Step}

/-- The effect that builds the view has run. It watches the canvas and a graph that is given, but of
the analyzer's graph only a memo that nobody has read. -/
structure Wired (p : Page) : Prop where
  builder : p.builder = .watching ((p.content.graphSignal p.revision).watched ++ [.signal .canvas])
  revision : p.revision = .unread

theorem written_of_wakes {s : Signal} (h : p.wakes s = true) : p.written s = p.rebuild := if_pos h

theorem written_of_sleeps {s : Signal} (h : p.wakes s = false) : p.written s = (p, []) :=
  if_neg (Bool.eq_false_iff.1 h)

/-- The effect watches the memo, but the memo watches the session only once it has been read. -/
theorem wakes_session_iff {a : Analyzer} (hc : p.content = .analyzer a)
    (hb : p.builder =
      .watching ((p.content.graphSignal p.revision).watched ++ [.signal .canvas])) :
    p.wakes .session = true ↔ ∃ n, p.revision.seen = some n ∧ n ≠ a.session.revision := by
  simp [wakes, hb, hc, Content.graphSignal, Analyzer.graphSignal, Effect.watches,
    Content.revision?, Memo.isStale, Option.any_eq_true]

example : (Memo.unread.used 0 .read).seen = some 0 ∧ (Memo.unread.used 0 .track).seen = none := by
  decide

namespace Wired

theorem wakes_canvas (h : p.Wired) : p.wakes .canvas = true := by
  simp [wakes, h.builder, Effect.watches]

theorem wakes_given (h : p.Wired) {g : Graph} (hc : p.content = .given g) :
    p.wakes .given = true := by
  simp [wakes, h.builder, hc, Content.graphSignal, Effect.watches]

theorem wakes_session (h : p.Wired) {a : Analyzer} (hc : p.content = .analyzer a) :
    p.wakes .session = false := by
  rw [← Bool.not_eq_true, wakes_session_iff hc h.builder, h.revision]
  rintro ⟨n, hn, -⟩
  cases hn

theorem of_analyzer (h : p.Wired) {a : Analyzer} (hc : p.content = .analyzer a) (a' : Analyzer) :
    ({ p with content := .analyzer a' } : Page).Wired := by
  refine ⟨?_, h.revision⟩
  have hbuilder := h.builder
  rw [hc] at hbuilder
  exact hbuilder

/-- A write to the session ends with the controls. -/
theorem onSession (h : p.Wired) {a : Analyzer} (hc : p.content = .analyzer a)
    (next : Analyzer × Output) :
    p.onSession next = ⟨{ p with content := .analyzer next.1 }, .heard true, next.2⟩ := by
  have hsleeps := (h.of_analyzer hc next.1).wakes_session rfl
  simp only [Page.onSession, written_of_sleeps hsleeps, Output.andLog, List.append_nil]

end Wired

theorem rebuild_surface (p : Page) :
    p.rebuild.1.surface = (p.surface.rebuild p.browser p.content.graph).1 := by
  rw [rebuild, Content.graphSignal_value]

theorem rebuild_wired (h : p.revision = .unread) : p.rebuild.1.Wired := by
  have hrevision := Content.graphSignal_revision p.content p.revision
  refine ⟨?_, hrevision.trans h⟩
  simp only [rebuild, hrevision]

/-- Both effects run when the canvas changes. -/
theorem withCanvas_eq (h : p.wakes .canvas = true) (s : Surface) :
    p.withCanvas s =
      let built := ({ p with surface := s } : Page).rebuild
      let ready := built.1.surface.animate built.1.browser
      ({ built.1 with surface := ready.1 }, built.2 ++ ready.2) := by
  have hwritten : ({ p with surface := s } : Page).written .canvas =
      ({ p with surface := s } : Page).rebuild := written_of_wakes h
  rw [withCanvas, hwritten]

theorem withCanvas_surface (h : p.wakes .canvas = true) (s : Surface) :
    (p.withCanvas s).1.surface = s.refresh p.browser p.content.graph := by
  simp only [withCanvas_eq h, rebuild_surface]
  rfl

theorem withCanvas_content (p : Page) (s : Surface) : (p.withCanvas s).1.content = p.content := by
  have hwritten : (({ p with surface := s } : Page).written .canvas).1.content = p.content := by
    unfold written
    split <;> rfl
  exact hwritten

theorem withCanvas_wired (h : p.wakes .canvas = true) (hr : p.revision = .unread) (s : Surface) :
    (p.withCanvas s).1.Wired := by
  have hwired : ({ p with surface := s } : Page).rebuild.1.Wired := rebuild_wired hr
  rw [withCanvas_eq h]
  exact ⟨hwired.builder, hwired.revision⟩

theorem onAnalyzer_eq {a : Analyzer} (hc : p.content = .analyzer a) (act : Analyzer → Step) :
    p.onAnalyzer act = act a := by
  simp only [onAnalyzer, hc]

theorem onAnalyzer_of_given {g : Graph} (hc : p.content = .given g) (act : Analyzer → Step) :
    p.onAnalyzer act = ⟨p, .heard false, .empty⟩ := by
  simp only [onAnalyzer, hc]

/-- The events of the controls and of requests. -/
def Event.concernsControls : Event → Bool
  | .type _ => true
  | .key _ => true
  | .analyze => true
  | .reply _ _ => true
  | _ => false

/-- Such an event changes nothing but the controls. -/
theorem step?_of_controls (hw : p.Wired) (he : e.concernsControls = true)
    (h : p.step? e = some st) :
    st.page = p ∨
      ∃ a a', p.content = .analyzer a ∧ st.page = { p with content := .analyzer a' } := by
  cases hc : p.content with
  | given g =>
    cases e with
    | type text | key name | analyze | reply number r =>
      simp only [step?, onKey, onButton, onReply, onAnalyzer_of_given hc] at h
      cases h
      exact .inl rfl
    | _ => cases he
  | analyzer a =>
    cases e with
    | type text =>
      simp only [step?, onAnalyzer_eq hc] at h
      cases h
      exact .inr ⟨a, _, rfl, rfl⟩
    | key name =>
      simp only [step?, onKey, onAnalyzer_eq hc, hw.onSession hc] at h
      cases h
      split
      · exact .inr ⟨a, _, rfl, rfl⟩
      · exact .inl rfl
    | analyze =>
      simp only [step?, onButton, onAnalyzer_eq hc, hw.onSession hc] at h
      cases h
      split
      · exact .inl rfl
      · exact .inr ⟨a, _, rfl, rfl⟩
    | reply number r =>
      simp only [step?, onReply, onAnalyzer_eq hc, hw.onSession hc] at h
      cases h
      split
      · exact .inr ⟨a, _, rfl, rfl⟩
      · exact .inl rfl
    | _ => cases he

theorem step?_surface_of_controls (hw : p.Wired) (he : e.concernsControls = true)
    (h : p.step? e = some st) : st.page.surface = p.surface := by
  rcases step?_of_controls hw he h with hst | ⟨a, a', -, hst⟩
  · rw [hst]
  · rw [hst]

theorem onGiven_eq (hw : p.Wired) {g g' : Graph} (hc : p.content = .given g') :
    p.onGiven g = ⟨({ p with content := .given g } : Page).rebuild.1, .nothing,
      .ofLog ({ p with content := .given g } : Page).rebuild.2⟩ := by
  have hwakes : ({ p with content := .given g } : Page).wakes .given = true := by
    have hbuilder := hw.builder
    rw [hc] at hbuilder
    exact Wired.wakes_given (p := { p with content := .given g }) ⟨hbuilder, hw.revision⟩ rfl
  simp only [onGiven, hc, written_of_wakes hwakes]

/-- Whatever happens to a page, its surface takes a turn, unless the pointer moves, another graph is
given to it or a canvas is placed. -/
theorem step?_surface (hw : p.Wired) (h : p.step? e = some st) :
    p.surface.Turn st.page.surface ∨
    (∃ q onPage, e = .move q onPage ∧
      st.page.surface = p.surface.move p.browser q onPage) ∨
    (∃ g g', e = .given g ∧ p.content = .given g' ∧
      st.page.surface = (p.surface.rebuild p.browser g).1) ∨
    (e = .canvasPlaced ∧
      st.page.surface = p.surface.placeCanvas.refresh p.browser p.content.graph) := by
  by_cases he : e.concernsControls = true
  · exact .inl (step?_surface_of_controls hw he h ▸ .same)
  cases e with
  | type text | key name | analyze | reply number r => exact absurd rfl he
  | download =>
    cases h
    exact .inl .same
  | press q =>
    cases h
    exact .inl (.press _ q)
  | move q onPage =>
    cases h
    exact .inr (.inl ⟨q, onPage, rfl, rfl⟩)
  | release =>
    cases h
    exact .inl .release
  | leave =>
    cases h
    exact .inl .leave
  | wheel q delta alt =>
    obtain ⟨⟨used, s⟩, hs, rfl⟩ := Option.map_eq_some_iff.1 h
    exact .inl (.wheel hs)
  | frames n =>
    cases h
    exact .inl (.frames _ n)
  | windowResized width height =>
    cases h
    exact .inl (.windowResized _)
  | browserChanged b =>
    cases h
    exact .inl .same
  | given g =>
    cases h
    cases hc : p.content with
    | analyzer a =>
      simp only [onGiven, hc]
      exact .inl .same
    | given g' =>
      rw [onGiven_eq hw hc]
      exact .inr (.inr (.inl ⟨g, g', rfl, rfl, rebuild_surface _⟩))
  | canvasPlaced =>
    cases h
    exact .inr (.inr (.inr ⟨rfl, withCanvas_surface hw.wakes_canvas _⟩))
  | canvasRemoved =>
    cases h
    have hs : (p.onCanvas p.surface.removeCanvas).page.surface = p.surface.removeCanvas :=
      (withCanvas_surface hw.wakes_canvas _).trans (Surface.refresh_of_none rfl _ _)
    rw [hs]
    exact .inl .removeCanvas

/-- No event makes the effect watch anything else, and none reads the memo. -/
theorem step?_wired (hw : p.Wired) (h : p.step? e = some st) : st.page.Wired := by
  by_cases he : e.concernsControls = true
  · rcases step?_of_controls hw he h with hst | ⟨a, a', hc, hst⟩
    · exact hst ▸ hw
    · exact hst ▸ hw.of_analyzer hc a'
  cases e with
  | type text | key name | analyze | reply number r => exact absurd rfl he
  | wheel q delta alt =>
    obtain ⟨⟨used, s⟩, hs, rfl⟩ := Option.map_eq_some_iff.1 h
    exact ⟨hw.builder, hw.revision⟩
  | given g =>
    cases h
    cases hc : p.content with
    | analyzer a =>
      simp only [onGiven, hc]
      exact hw
    | given g' =>
      rw [onGiven_eq hw hc]
      exact rebuild_wired hw.revision
  | canvasPlaced =>
    cases h
    exact withCanvas_wired hw.wakes_canvas hw.revision _
  | canvasRemoved =>
    cases h
    exact withCanvas_wired hw.wakes_canvas hw.revision _
  | _ =>
    cases h
    exact ⟨hw.builder, hw.revision⟩

@[simp] theorem run?_nil (p : Page) : p.run? [] = some p := rfl

theorem run?_cons (p : Page) (e : Event) (es : List Event) :
    p.run? (e :: es) = ((p.step? e).map Step.page).bind fun q => q.run? es := rfl

theorem run?_append (p : Page) (es fs : List Event) :
    p.run? (es ++ fs) = (p.run? es).bind fun q => q.run? fs := by
  simp only [run?, List.foldlM_append]
  rfl

theorem run?_singleton (p : Page) (e : Event) : p.run? [e] = (p.step? e).map Step.page :=
  Option.bind_fun_some _

/-- What holds at first and is kept by every event of a kind holds behind every run of such
events. -/
theorem run?_induction {P : Page → Prop} {K : Event → Prop}
    (step : ∀ (p : Page) (e : Event) (st : Step), K e → p.Wired → P p → p.step? e = some st →
      P st.page)
    {es : List Event} (hes : ∀ e ∈ es, K e) (hw : p.Wired) (first : P p)
    (h : p.run? es = some q) : P q := by
  induction es generalizing p with
  | nil => exact Option.some.inj h ▸ first
  | cons e es ih =>
    rw [run?_cons] at h
    obtain ⟨u, hu, hq⟩ := Option.bind_eq_some_iff.1 h
    obtain ⟨st, hst, rfl⟩ := Option.map_eq_some_iff.1 hu
    have hfirst : P st.page := step p e st (hes e List.mem_cons_self) hw first hst
    exact ih (fun e' he' => hes e' (List.mem_cons_of_mem e he')) (step?_wired hw hst) hfirst hq

theorem run?_wired {es : List Event} (hw : p.Wired) (h : p.run? es = some q) : q.Wired :=
  run?_induction (K := fun _ => True) (fun _ _ _ _ hw _ hst => step?_wired hw hst)
    (fun _ _ => trivial) hw hw h

theorem step?_isSome (hz : p.surface.view.zoom.least ≤ p.surface.view.zoom.greatest) (e : Event) :
    (p.step? e).isSome = true := by
  cases e with
  | wheel q delta alt =>
    rw [step?, Option.isSome_map]
    exact Surface.wheel?_isSome hz p.browser q delta alt
  | _ => rfl

theorem step?_setup (hw : p.Wired) (h : p.step? e = some st) :
    st.page.surface.setup = p.surface.setup := by
  rcases step?_surface hw h with hturn | ⟨q, onPage, -, hs⟩ | ⟨g, g', -, -, hs⟩ | ⟨-, hs⟩
  · exact hturn.goesOn.setup
  · rw [hs]
    exact (Surface.move_goesOn p.surface p.browser q onPage).setup
  · rw [hs, Surface.rebuild_setup]
  · rw [hs, Surface.refresh_setup]
    rfl

/-- There is always a graph that the surface shows. -/
theorem step?_shows (hw : p.Wired) (h : p.step? e = some st) {g : Graph} (hg : p.surface.Shows g) :
    ∃ g', st.page.surface.Shows g' := by
  rcases step?_surface hw h with hturn | ⟨q, onPage, -, hs⟩ | ⟨g', g'', -, -, hs⟩ | ⟨-, hs⟩
  · exact ⟨g, hturn.goesOn.shows hg⟩
  · rw [hs]
    exact ⟨g, (Surface.move_goesOn p.surface p.browser q onPage).shows hg⟩
  · rw [hs]
    exact Surface.rebuild_shows p.browser g' hg
  · rw [hs]
    exact ⟨_, Surface.refresh_shows rfl p.browser p.content.graph⟩

section Mount

variable (b : Browser) (setup : SurfaceSetup) (content : Content)

theorem mount_wired : (mount b setup content).1.Wired :=
  withCanvas_wired (p := bare b setup content) rfl rfl _

theorem mount_content : (mount b setup content).1.content = content :=
  withCanvas_content (bare b setup content) _

theorem mount_surface :
    (mount b setup content).1.surface =
      (Surface.bare setup b content.graph).placeCanvas.refresh b content.graph :=
  withCanvas_surface (p := bare b setup content) rfl _

theorem mount_setup : (mount b setup content).1.surface.setup = setup := by
  rw [mount_surface, Surface.refresh_setup]
  rfl

theorem mount_shows : (mount b setup content).1.surface.Shows content.graph := by
  rw [mount_surface]
  exact Surface.refresh_shows rfl b content.graph

end Mount

/-- A page whose zoom has bounds in order answers every run of events. -/
theorem run?_isSome (hw : p.Wired) {g : Graph} (hg : p.surface.Shows g)
    (hz : p.surface.setup.config.zoom.least ≤ p.surface.setup.config.zoom.greatest)
    (es : List Event) : (p.run? es).isSome = true := by
  induction es generalizing p g with
  | nil => rfl
  | cons e es ih =>
    have hstep : (p.step? e).isSome = true := step?_isSome (by rwa [hg.zoom]) e
    obtain ⟨st, hst⟩ := Option.isSome_iff_exists.1 hstep
    obtain ⟨g', hg'⟩ := step?_shows hw hst hg
    rw [run?_cons, hst]
    exact ih (step?_wired hw hst) hg' (by rwa [step?_setup hw hst])

end Page

end CodeGraph
