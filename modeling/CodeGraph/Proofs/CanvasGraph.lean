import CodeGraph.Proofs.SingleRequest
import Mathlib.Data.List.Induction

namespace CodeGraph

def LogLine.rebuilding (nodes : Nat) : LogLine :=
  ⟨.debug, "rebuilding graph view with " ++ toString nodes ++ " nodes"⟩

def Output.rebuilds (o : Output) : List LogLine :=
  o.log.filter (LogLine.opens .debug "rebuilding ")

theorem Output.rebuilds_eq_nil {o : Output}
    (h : ∀ l ∈ o.log, l.level ≠ .debug ∨ l.opens .debug "rebuilding " = false) :
    o.rebuilds = [] := by
  rw [rebuilds, List.filter_eq_nil_iff]
  intro l hl
  rcases h l hl with hlevel | hopens
  · simp [LogLine.opens_of_level hlevel]
  · simp [hopens]

theorem Surface.refresh_rebuilds {s : Surface} {e : CanvasElement} (he : s.element = some e)
    (b : Browser) (g : Graph) :
    (Output.ofLog ((s.rebuild b g).2 ++ ((s.rebuild b g).1.animate b).2)).rebuilds =
      [.rebuilding g.nodes.length] := by
  have hlog : (s.rebuild b g).2 = .rebuilding g.nodes.length :: View.buildLog g := by
    simp only [Surface.rebuild, he]
    rfl
  have hfirst : (LogLine.rebuilding g.nodes.length).opens .debug "rebuilding " = true := by
    simp only [LogLine.opens, LogLine.rebuilding, String.toList_append, List.append_assoc]
    rfl
  have hrest :
      (Output.ofLog (View.buildLog g ++ ((s.rebuild b g).1.animate b).2)).rebuilds = [] := by
    apply Output.rebuilds_eq_nil
    intro l hl
    rcases List.mem_append.1 hl with hl | hl
    · rcases View.buildLog_cases hl with hlevel | ⟨nodes, edges, rfl⟩
      · left
        rw [hlevel]
        exact Level.noConfusion
      · right
        simp only [LogLine.opens, LogLine.built, String.toList_append, List.append_assoc]
        rfl
    · left
      rw [Surface.animate_log_level hl]
      exact Level.noConfusion
  rw [hlog]
  exact (List.filter_cons_of_pos hfirst).trans (congrArg _ hrest)

theorem Surface.Shows.nodes {s : Surface} {g : Graph} (h : s.Shows g) :
    s.view.nodes = View.nodesOf g := by
  obtain ⟨width, height, actions, ha⟩ := h
  rw [(View.run?_same ha).nodes, View.ofGraph_nodes]

theorem Surface.Shows.nodes_eq_nil {s : Surface} {g : Graph} (hempty : s.Shows .empty)
    (h : s.Shows g) : g.nodes = [] := by
  have hnone : View.nodesOf g = [] := h.nodes.symm.trans hempty.nodes
  rw [List.eq_nil_iff_forall_not_mem]
  intro n hn
  have hid : n.id ∈ (View.nodesOf g).map Node.id :=
    (View.mem_nodesOf_ids g n.id).2 (List.mem_map_of_mem hn)
  rw [hnone] at hid
  cases hid

namespace Analyzer

variable {a a' : Analyzer}

theorem submit_keeps (a : Analyzer) (b : Browser) :
    (a.submit b).1.session.graph = a.session.graph ∧ (a.submit b).2.rebuilds = [] := by
  cases hb : (Text.trim a.input).isEmpty with
  | true =>
    rw [submit_of_blank hb]
    exact ⟨rfl, rfl⟩
  | false =>
    cases he : Analysis.endpointForPage b.pageOrigin Analysis.endpointPath with
    | error e =>
      rw [submit_of_error hb he]
      refine ⟨rfl, Output.rebuilds_eq_nil fun l hl => .inl ?_⟩
      rcases List.mem_pair.1 hl with rfl | rfl
      · exact Level.noConfusion
      · exact Level.noConfusion
    | ok endpoint =>
      rw [submit_of_ok hb he]
      refine ⟨rfl, Output.rebuilds_eq_nil fun l hl => ?_⟩
      rcases List.mem_pair.1 hl with rfl | rfl
      · exact .inl Level.noConfusion
      · simp only [LogLine.opens, String.toList_append, List.append_assoc]
        exact .inr rfl

theorem reply?_rebuilds {number : Nat} {r : Analysis.Reply} {out : Output}
    (h : a.reply? number r = some (a', out)) : out.rebuilds = [] := by
  obtain ⟨w, -, -, -, rfl⟩ := reply?_cases h
  apply Output.rebuilds_eq_nil
  intro l hl
  left
  rcases List.mem_append.1 hl with hl | hl
  · rcases Analysis.understand_log_cases hl with hlevel | ⟨g, report, rfl⟩ | rfl
    · rw [hlevel]
      exact Level.noConfusion
    · exact Level.noConfusion
    · exact Level.noConfusion
  · rw [Session.finish_log_level hl]
    exact Level.noConfusion

end Analyzer

namespace Page

variable {p q : Page} {e : Event} {st : Step} {a a' : Analyzer} {b : Browser}
  {events : List Event}

theorem mount_rebuilds (b : Browser) (setup : SurfaceSetup) (content : Content) :
    (mount b setup content).2.rebuilds = [.rebuilding content.graph.nodes.length] := by
  have hlog := withCanvas_log (p := bare b setup content) rfl
    (Surface.bare setup b content.graph).placeCanvas
  have hmount : (mount b setup content).2 = .ofLog ((bare b setup content).withCanvas
    (Surface.bare setup b content.graph).placeCanvas).2 := rfl
  rw [hmount, hlog]
  exact Surface.refresh_rebuilds rfl b content.graph

/-- The event installs a graph: it is the reply to a request that waits, and is understood. -/
def Installs (p : Page) (e : Event) (g : Graph) : Prop :=
  ∃ a w r, p.content = .analyzer a ∧ w ∈ a.waiting ∧ e = .reply w.number r ∧
    (Analysis.understand w.repoUrl r).result = .ok g

theorem Installs.graph {g : Graph} (hg : p.Installs e g) (hw : p.Wired)
    (hc : p.content = .analyzer a) (ha : a.Settled) (h : p.step? e = some st) :
    st.page.content.graph = g := by
  obtain ⟨a₀, w, r, hc₀, hmem, rfl, hok⟩ := hg
  obtain rfl : a = a₀ := Content.analyzer.inj (hc.symm.trans hc₀)
  rcases step?_analyzer hw hc h with ⟨he, -⟩ | ⟨number, r', a', he, hr, hc'⟩ | ⟨-, hr, -⟩
  · cases he
  · cases he
    -- only one request waits, so the reply was taken for that one
    obtain ⟨v, hv, -, rfl, -⟩ := Analyzer.reply?_cases hr
    rw [hc', ha.eq_of_mem hv hmem, hok]
    rfl
  · have hsome := Analyzer.reply?_isSome hmem r
    rw [hr w.number r rfl] at hsome
    cases hsome

theorem Installs.answered {g : Graph} (h : p.Installs e g) :
    ∃ number response, e = .reply number (.ok response) := by
  obtain ⟨a, w, r, -, -, he, hok⟩ := h
  cases r with
  | ok response => exact ⟨w.number, response, he⟩
  | error reason => cases hok

theorem graph_of_not_installs (hno : ∀ g, ¬p.Installs e g) (hw : p.Wired)
    (hc : p.content = .analyzer a) (h : p.step? e = some st) :
    st.page.content.graph = p.content.graph := by
  have hgraph {a' : Analyzer} (hc' : st.page.content = .analyzer a')
      (hsame : a'.session.graph = a.session.graph) : st.page.content.graph = p.content.graph := by
    rw [hc', hc, Content.graph, Content.graph, Analyzer.graph, Analyzer.graph, hsame]
  rcases step?_analyzer hw hc h with ⟨-, -, -, hc'⟩ | ⟨number, r, a', rfl, hr, hc'⟩ |
    ⟨-, -, hleaves⟩
  · exact hgraph hc' (a.submit_keeps p.browser).1
  · obtain ⟨w, hmem, rfl, rfl, -⟩ := Analyzer.reply?_cases hr
    cases hresult : (Analysis.understand w.repoUrl r).result with
    | ok g => exact absurd ⟨a, w, r, hc, hmem, rfl, hresult⟩ (hno g)
    | error err =>
      -- the request has ended, but its failure leaves the graph
      rw [hresult] at hc'
      exact hgraph hc' rfl
  · obtain ⟨input, hc'⟩ := hleaves.content
    exact hgraph hc' rfl

def Event.keepsCanvas : Event → Bool
  | .canvasPlaced => false
  | .canvasRemoved => false
  | _ => true

theorem step?_rebuilds (hw : p.Wired) (he : e.keepsCanvas = true)
    (hc : p.content = .analyzer a) (h : p.step? e = some st) : st.output.rebuilds = [] := by
  rcases step?_analyzer hw hc h with ⟨-, -, hout, -⟩ | ⟨number, r, a', -, hr, -⟩ | ⟨-, -, hleaves⟩
  · rw [hout]
    exact (a.submit_keeps p.browser).2
  · exact Analyzer.reply?_rebuilds hr
  · apply Output.rebuilds_eq_nil
    intro l hl
    rcases hleaves.log l hl with hlevel | rfl | ⟨rfl, -⟩
    · left
      rw [hlevel]
      exact Level.noConfusion
    · exact .inr rfl
    · cases he

theorem step?_goesOn (hw : p.Wired) (he : e.keepsCanvas = true)
    (hc : p.content = .analyzer a) (h : p.step? e = some st) :
    p.surface.GoesOn st.page.surface := by
  rcases step?_surface hw h with hturn | ⟨q, onPage, -, hs⟩ | ⟨g, g', -, hc', -⟩ | ⟨rfl, -⟩
  · exact hturn.goesOn
  · rw [hs]
    exact Surface.move_goesOn p.surface p.browser q onPage
  · rw [hc] at hc'
    cases hc'
  · cases he

/-- What an event of the page does to the session and to the canvas. -/
structure LeavesCanvas (p : Page) (e : Event) (st : Step) : Prop where
  installed : ∀ g, p.Installs e g → st.page.content.graph = g
  otherwise : (∀ g, ¬p.Installs e g) → st.page.content.graph = p.content.graph
  goesOn : p.surface.GoesOn st.page.surface
  rebuilds : st.output.rebuilds = []
  controls : e.concernsControls = true → st.page.surface = p.surface
  shows : st.page.surface.Shows .empty
  /-- So the canvas is stale as soon as a graph with nodes is installed. -/
  stale : ∀ g, p.Installs e g → g.nodes ≠ [] → ¬st.page.surface.Shows g

/-- The canvas follows the session: it is built anew for a graph that is installed, and goes on
otherwise. -/
structure FollowsSession (p : Page) (e : Event) (st : Step) : Prop where
  shows : st.page.surface.Shows st.page.content.graph
  replaced : ∀ g, p.Installs e g →
    st.output.rebuilds = [.rebuilding g.nodes.length] ∧ st.page.surface.tip = none ∧
      ∃ size, st.page.surface.view = Surface.freshView p.surface.setup g size
  kept : (∀ g, ¬p.Installs e g) →
    st.output.rebuilds = [] ∧ p.surface.GoesOn st.page.surface ∧
      (e.concernsControls = true → st.page.surface = p.surface)

theorem step?_leavesCanvas (hw : p.Wired) (he : e.keepsCanvas = true)
    (hc : p.content = .analyzer a) (ha : a.Settled) (hs : p.surface.Shows .empty)
    (h : p.step? e = some st) : p.LeavesCanvas e st := by
  have hgoesOn := step?_goesOn hw he hc h
  exact
    { installed := fun _ hg => hg.graph hw hc ha h
      otherwise := fun hno => graph_of_not_installs hno hw hc h
      goesOn := hgoesOn
      rebuilds := step?_rebuilds hw he hc h
      controls := fun hcontrols => step?_surface_of_controls hw hcontrols h
      shows := hgoesOn.shows hs
      stale := fun _ _ hne hg => hne ((hgoesOn.shows hs).nodes_eq_nil hg) }

/-- In the run of the events on the analyzer page, the page `p` meets the event `e`. -/
def Occurs (b : Browser) (events : List Event) (p : Page) (e : Event) (st : Step) : Prop :=
  ∃ past, past ++ [e] <+: events ∧ (home b).1.run? past = some p ∧ p.step? e = some st

theorem run?_shows_empty (hkeep : ∀ e ∈ events, e.keepsCanvas = true)
    (h : (home b).1.run? events = some p) : p.surface.Shows .empty := by
  -- the controls come along: on a page without them a graph that is given would be shown
  have hboth : (∃ a, p.content = .analyzer a ∧ a.Settled) ∧ p.surface.Shows .empty := by
    apply run?_induction
      (P := fun p => (∃ a, p.content = .analyzer a ∧ a.Settled) ∧ p.surface.Shows .empty) _ hkeep
      (home_wired b) ⟨⟨_, home_content b, Analyzer.settled_initial⟩, mount_shows b _ _⟩ h
    intro p e st he hw hp hst
    obtain ⟨⟨a, hc, ha⟩, hs⟩ := hp
    obtain ⟨a', hc', ha', -⟩ := step?_requestsOf hw ha hc hst
    exact ⟨⟨a', hc', ha'⟩, (step?_goesOn hw he hc hst).shows hs⟩
  exact hboth.2

theorem Occurs.leavesCanvas (h : Occurs b events p e st)
    (hkeep : ∀ e ∈ events, e.keepsCanvas = true) : p.LeavesCanvas e st := by
  obtain ⟨past, hpast, hp, hst⟩ := h
  have hkept (e' : Event) (he' : e' ∈ past ++ [e]) : e'.keepsCanvas = true :=
    hkeep e' (hpast.subset he')
  obtain ⟨a, hc, ha⟩ := home_run?_settled hp
  have hw := run?_wired (home_wired b) hp
  have hs := run?_shows_empty (fun e' he' => hkept e' (List.mem_append_left _ he')) hp
  exact step?_leavesCanvas hw (hkept e (by simp)) hc ha hs hst

/-- While no graph is installed, there is none. -/
theorem graph_eq_empty (hkeep : ∀ e ∈ events, e.keepsCanvas = true)
    (hno : ∀ p e st, Occurs b events p e st → ∀ g, ¬p.Installs e g) {past : List Event}
    (hpast : past <+: events) (hp : (home b).1.run? past = some p) :
    p.content.graph = .empty := by
  -- from the end, where the page that meets the last event is at hand
  induction past using List.reverseRecOn generalizing p with
  | nil => rw [← Option.some.inj hp, home_content]; rfl
  | append_singleton past e ih =>
    rw [run?_append] at hp
    obtain ⟨q, hq, hlast⟩ := Option.bind_eq_some_iff.1 hp
    rw [run?_singleton] at hlast
    obtain ⟨st, hst, rfl⟩ := Option.map_eq_some_iff.1 hlast
    have hoccurs : Occurs b events q e st := ⟨past, hpast, hq, hst⟩
    have hbefore : q.content.graph = .empty := ih ((List.prefix_append past [e]).trans hpast) hq
    rw [(hoccurs.leavesCanvas hkeep).otherwise (hno q e st hoccurs), hbefore]

/-- The canvas of the analyzer page is built once, for the empty graph, and shows that whatever
happens; no submission and no reply touches it. So it follows the session in exactly those runs in
which no graph is installed. -/
theorem canvas_follows_session_iff_none_installed (b : Browser) {events : List Event}
    (hkeep : ∀ e ∈ events, e.keepsCanvas = true) :
    (home b).2.rebuilds = [.rebuilding 0] ∧
      (∃ p, (home b).1.run? events = some p ∧ p.surface.Shows .empty) ∧
      (∀ p e st, Occurs b events p e st → p.LeavesCanvas e st) ∧
      ((∀ p e st, Occurs b events p e st → p.FollowsSession e st) ↔
        ∀ p e st, Occurs b events p e st → ∀ g, ¬p.Installs e g) := by
  obtain ⟨p, hp⟩ := Option.isSome_iff_exists.1 (home_run?_isSome b events)
  refine ⟨mount_rebuilds b _ (.analyzer .initial), ⟨p, hp, run?_shows_empty hkeep hp⟩,
    fun p e st h => h.leavesCanvas hkeep, ?_, ?_⟩
  · -- a graph that is installed calls for a line that is never logged
    intro hfollows p e st h g hg
    have hline := ((hfollows p e st h).replaced g hg).1
    rw [(h.leavesCanvas hkeep).rebuilds] at hline
    cases hline
  · intro hno p e st h
    have hleaves := h.leavesCanvas hkeep
    have hnone := hno p e st h
    obtain ⟨past, hpast, hrun, -⟩ := h
    have hempty : p.content.graph = .empty :=
      graph_eq_empty hkeep hno ((List.prefix_append past [e]).trans hpast) hrun
    refine ⟨?_, fun g hg => absurd hg (hnone g), fun _ =>
      ⟨hleaves.rebuilds, hleaves.goesOn, hleaves.controls⟩⟩
    rw [hleaves.otherwise hnone, hempty]
    exact hleaves.shows

def unanswered : List Event :=
  [.type " owner/repo", .press ⟨500, 300⟩, .key "Enter", .frames 2, .reply 0 (.error "timed out"),
    .wheel ⟨500, 300⟩ 1 false, .release]

theorem unanswered_followed :
    (∀ e ∈ unanswered, e.keepsCanvas = true) ∧
      ∀ p e st, Occurs .standard unanswered p e st → p.FollowsSession e st := by
  have hkeep : ∀ e ∈ unanswered, e.keepsCanvas = true := by decide
  refine ⟨hkeep, (canvas_follows_session_iff_none_installed .standard hkeep).2.2.2.2 ?_⟩
  intro p e st h g hg
  obtain ⟨past, hpast, -, -⟩ := h
  obtain ⟨number, response, rfl⟩ := hg.answered
  have hmem : Event.reply number (.ok response) ∈ unanswered := hpast.subset (by simp)
  simp [unanswered] at hmem

def oneNodeFound : List Event :=
  [.type " owner/repo", .key "Enter",
    .reply 0 (.ok
      ⟨200, "\x7b\"ok\": true, \"data\": \x7b\"nodes\": [\x7b\"id\": \"a\"\x7d]\x7d\x7d"⟩)]

/-- The session has the node and the canvas does not. -/
theorem found_node_not_shown :
    ∃ p, (home .standard).1.run? oneNodeFound = some p ∧
      p.content.graph.nodes.map Node.label = ["a"] ∧ p.surface.view.nodes = [] ∧
      ¬p.surface.Shows p.content.graph := by
  have hrun : ((home .standard).1.run? oneNodeFound).map (fun p =>
      (p.content.graph.nodes.map Node.label, p.surface.view.nodes.length)) = some (["a"], 0) := by
    decide +kernel
  obtain ⟨p, hp, hpair⟩ := Option.map_eq_some_iff.1 hrun
  obtain ⟨hlabels, hlength⟩ := Prod.mk.inj hpair
  have hnodes : p.surface.view.nodes = [] := List.length_eq_zero_iff.1 hlength
  refine ⟨p, hp, hlabels, hnodes, fun hshows => ?_⟩
  have hempty : p.surface.Shows .empty := run?_shows_empty (by decide) hp
  rw [hempty.nodes_eq_nil hshows] at hlabels
  cases hlabels

end Page

end CodeGraph
