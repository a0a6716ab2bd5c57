import CodeGraph.Proofs.PageRun
import CodeGraph.Proofs.RecordFates
import CodeGraph.Proofs.SessionHistory
import Mathlib.Data.List.TakeWhile

namespace CodeGraph

namespace Text

/-- One text is the other without the blanks around it. -/
structure Trims (s t : String) : Prop where
  around : ∃ before after, s.toList = before ++ (t.toList ++ after) ∧
    ∀ c ∈ before ++ after, isBlank c = true
  first : ∀ c ∈ t.toList.head?, isBlank c = false
  last : ∀ c ∈ t.toList.getLast?, isBlank c = false

theorem isBlank_head_dropWhile {cs : List Char} {c : Char}
    (h : c ∈ (cs.dropWhile isBlank).head?) : isBlank c = false := by
  have hnot := List.head?_dropWhile_not isBlank cs
  rw [Option.mem_def.1 h] at hnot
  exact hnot

theorem trim_trims (s : String) : Trims s (trim s) := by
  let front := s.toList.takeWhile isBlank
  let rest := s.toList.dropWhile isBlank
  let back := (rest.reverse.takeWhile isBlank).reverse
  have hchars : (trim s).toList = (rest.reverse.dropWhile isBlank).reverse := String.toList_ofList
  have hrest : rest = (trim s).toList ++ back := by
    rw [hchars, ← List.reverse_append, List.takeWhile_append_dropWhile, List.reverse_reverse]
  refine ⟨⟨front, back, ?_, ?_⟩, ?_, ?_⟩
  · rw [← hrest]
    exact List.takeWhile_append_dropWhile.symm
  · intro c hc
    rcases List.mem_append.1 hc with hc | hc
    · exact List.mem_takeWhile_imp hc
    · exact List.mem_takeWhile_imp (List.mem_reverse.1 hc)
  · -- where anything is left, it begins as what follows the blanks in front
    intro c hc
    have hhead : c ∈ rest.head? := by
      rw [hrest]
      exact List.mem_head?_append_of_mem_head? hc
    exact isBlank_head_dropWhile hhead
  · intro c hc
    rw [hchars, List.getLast?_reverse] at hc
    exact isBlank_head_dropWhile hc

example : trim "\u3000\x0b owner repo\u2028\u0085" = "owner repo" := by decide +kernel

theorem Trims.eq_empty_iff {s t : String} (h : Trims s t) :
    t = "" ↔ ∀ c ∈ s.toList, isBlank c = true := by
  obtain ⟨before, after, hs, hblank⟩ := h.around
  rw [hs]
  constructor
  · intro ht
    simpa [ht] using hblank
  · intro hall
    rw [← String.toList_eq_nil_iff]
    cases ht : t.toList with
    | nil => rfl
    | cons c cs =>
      have hfirst : isBlank c = false := h.first c (by rw [ht]; rfl)
      have hblank : isBlank c = true := hall c (by simp [ht])
      rw [hfirst] at hblank
      cases hblank

theorem trim_isEmpty_iff (s : String) :
    (trim s).isEmpty = true ↔ ∀ c ∈ s.toList, isBlank c = true := by
  rw [String.isEmpty_iff]
  exact (trim_trims s).eq_empty_iff

end Text

def LogLine.opens (level : Level) (start : String) (l : LogLine) : Bool :=
  l.level = level && start.toList.isPrefixOf l.text.toList

theorem LogLine.opens_of_level {level : Level} {l : LogLine} (h : l.level ≠ level)
    (start : String) : l.opens level start = false := by
  simp [opens, h]

def LogLine.beginning (url : String) : LogLine := ⟨.info, "analyzing " ++ url⟩

def Output.beginnings (o : Output) : List LogLine := o.log.filter (LogLine.opens .info "analyzing ")

theorem Output.beginnings_eq_nil {o : Output} (h : ∀ l ∈ o.log, l.level ≠ .info) :
    o.beginnings = [] := by
  rw [beginnings, List.filter_eq_nil_iff]
  intro l hl
  simp [LogLine.opens_of_level (h l hl)]

theorem Output.beginnings_of_pair {o : Output} {url : String} {l : LogLine}
    (h : o.log = [.beginning url, l]) (hl : l.level ≠ .info) : o.beginnings = [.beginning url] := by
  have hfirst : (LogLine.beginning url).opens .info "analyzing " = true := by
    simp [LogLine.opens, LogLine.beginning, String.toList_append]
  have hrest : [l].filter (LogLine.opens .info "analyzing ") = [] := by
    simp [LogLine.opens_of_level hl]
  rw [beginnings, h, List.filter_cons_of_pos hfirst, hrest]

theorem NodeRecord.dropWarning_level (r : NodeRecord) : r.dropWarning.level = .warn := by
  unfold NodeRecord.dropWarning
  split <;> rfl

theorem EdgeRecord.dropWarning_level (e : EdgeRecord) : e.dropWarning.level = .warn := by
  unfold EdgeRecord.dropWarning
  split <;> rfl

/-- What the reply to a request may log: a warning for a record, and two lines about all of them. -/
theorem Analysis.understand_log_cases {url : String} {r : Reply} {l : LogLine}
    (hl : l ∈ (understand url r).log) :
    l.level = .warn ∨ (∃ g report, l = GraphRecords.normalizedSummary g report) ∨
      l = ⟨.info, "analysis of " ++ url ++ " returned a partially malformed graph"⟩ := by
  unfold understand at hl
  split at hl
  · cases hl
  · split at hl
    · cases hl
    · rw [List.mem_append, GraphRecords.normalize_log, List.mem_append, List.mem_append] at hl
      rcases hl with ((hl | hl) | hl) | hl
      · obtain ⟨r, -, rfl⟩ := List.mem_map.1 hl
        exact .inl r.dropWarning_level
      · obtain ⟨e, -, rfl⟩ := List.mem_map.1 hl
        exact .inl e.dropWarning_level
      · exact .inr (.inl ⟨_, _, List.mem_singleton.1 hl⟩)
      · split at hl
        · cases hl
        · exact .inr (.inr (List.mem_singleton.1 hl))

theorem Analysis.understand_log_not_beginning {url : String} {r : Reply} {l : LogLine}
    (hl : l ∈ (understand url r).log) : l.opens .info "analyzing " = false := by
  rcases understand_log_cases hl with h | ⟨g, report, rfl⟩ | rfl
  · exact LogLine.opens_of_level (by rw [h]; decide) _
  · simp only [LogLine.opens, GraphRecords.normalizedSummary, String.toList_append,
      List.append_assoc]
    rfl
  · simp only [LogLine.opens, String.toList_append, List.append_assoc]
    rfl

theorem Session.finish_log_level {s : Session} {result : Except FetchError Graph} {l : LogLine}
    (hl : l ∈ (s.finish result).log) : l.level = .error := by
  cases result with
  | ok g => cases hl
  | error e => rw [List.mem_singleton.1 hl]

theorem View.duplicateWarnings_level {seen : List NodeId} {ns : List Node} {l : LogLine}
    (hl : l ∈ duplicateWarnings seen ns) : l.level = .warn := by
  fun_induction View.duplicateWarnings seen ns with
  | case1 => cases hl
  | case2 seen n rest h ih =>
    rcases List.mem_cons.1 hl with rfl | hl
    · rfl
    · exact ih hl
  | case3 seen n rest h ih => exact ih hl

def LogLine.built (nodes edges : Nat) : LogLine :=
  ⟨.debug, "simulation built with " ++ toString nodes ++ " nodes and " ++ toString edges ++
    " edges"⟩

theorem View.buildLog_cases {g : Graph} {l : LogLine} (hl : l ∈ View.buildLog g) :
    l.level = .warn ∨ ∃ nodes edges, l = .built nodes edges := by
  rw [View.buildLog, List.mem_append, List.mem_append] at hl
  rcases hl with (hl | hl) | hl
  · exact .inl (View.duplicateWarnings_level hl)
  · obtain ⟨link, -, rfl⟩ := List.mem_map.1 hl
    exact .inl rfl
  · exact .inr ⟨_, _, List.mem_singleton.1 hl⟩

def LogLine.cooled : LogLine := ⟨.debug, "layout cooled"⟩

namespace Surface

variable {s : Surface} {b : Browser} {l : LogLine}

theorem rebuild_log_level {g : Graph} (hl : l ∈ (s.rebuild b g).2) : l.level ≠ .info := by
  unfold rebuild at hl
  split at hl
  · cases hl
  · rcases List.mem_cons.1 hl with rfl | hl
    · exact Level.noConfusion
    · rcases View.buildLog_cases hl with hlevel | ⟨nodes, edges, rfl⟩
      · rw [hlevel]
        exact Level.noConfusion
      · exact Level.noConfusion

theorem animate_log_level (hl : l ∈ (s.animate b).2) : l.level = .error := by
  unfold animate at hl
  split at hl
  · split at hl
    · rw [List.mem_singleton.1 hl]
    · split at hl
      · rw [List.mem_singleton.1 hl]
      · cases hl
  · cases hl

theorem frame_log (hl : l ∈ (s.frame b).log) : l = .cooled := by
  unfold frame at hl
  split at hl
  · change l ∈ s.view.tickLog at hl
    unfold View.tickLog at hl
    split at hl
    · exact List.mem_singleton.1 hl
    · cases hl
  · cases hl

theorem frames_log {n : Nat} (hl : l ∈ (s.frames b n).log) : l = .cooled := by
  fun_induction frames s b n with
  | case1 => cases hl
  | case2 s => exact frame_log hl
  | case3 s n first rest ih =>
    rcases List.mem_append.1 hl with hl | hl
    · exact frame_log hl
    · exact ih hl

end Surface

theorem Output.svgDownload_log_level {b : Browser} {document : String} {l : LogLine}
    (hl : l ∈ (Output.svgDownload b document).log) : l.level = .error := by
  obtain ⟨f, -, rfl⟩ := List.mem_map.1 hl
  rfl

namespace Analyzer

variable {a a' : Analyzer} {b : Browser}

/-- At most one request waits, and the session counts those that do. -/
structure Settled (a : Analyzer) : Prop where
  single : a.waiting.length ≤ 1
  pending : a.session.pending = a.waiting.length

theorem settled_initial : initial.Settled := ⟨Nat.zero_le 1, rfl⟩

theorem Settled.isLoading (h : a.Settled) : a.session.isLoading = true ↔ a.waiting ≠ [] := by
  rw [Session.isLoading, decide_eq_true_iff, h.pending, List.length_pos_iff]

/-- No request waits, and the controls let one be begun. -/
structure IsIdle (a : Analyzer) : Prop where
  waiting : a.waiting = []
  loading : a.session.isLoading = false
  enabled : a.isDisabled = false

/-- One request waits, and the controls let no other be begun. -/
structure IsBusyWith (a : Analyzer) (w : Waiting) : Prop where
  waiting : a.waiting = [w]
  loading : a.session.isLoading = true
  disabled : a.isDisabled = true

theorem Settled.isIdle (h : a.Settled) (hw : a.waiting = []) : a.IsIdle := by
  have hloading : a.session.isLoading = false := by
    rw [← Bool.not_eq_true, h.isLoading]
    exact not_not_intro hw
  exact ⟨hw, hloading, hloading⟩

theorem Settled.isBusyWith (h : a.Settled) {w : Waiting} (hw : a.waiting = [w]) :
    a.IsBusyWith w := by
  have hloading : a.session.isLoading = true := by
    rw [h.isLoading, hw]
    exact List.cons_ne_nil w []
  exact ⟨hw, hloading, hloading⟩

theorem Settled.idle_or_busy (h : a.Settled) : a.IsIdle ∨ ∃ w, a.IsBusyWith w := by
  have hsingle := h.single
  rcases Nat.le_one_iff_eq_zero_or_eq_one.1 hsingle with hzero | hone
  · exact .inl (h.isIdle (List.length_eq_zero_iff.1 hzero))
  · obtain ⟨w, hw⟩ := List.length_eq_one_iff.1 hone
    exact .inr ⟨w, h.isBusyWith hw⟩

theorem IsBusyWith.not_enabled {w : Waiting} (h : a.IsBusyWith w) (he : a.isDisabled = false) :
    False := by
  rw [h.disabled] at he
  cases he

theorem submit_of_blank (h : (Text.trim a.input).isEmpty = true) (b : Browser) :
    a.submit b =
      ({ a with session := { a.session with status := FetchError.emptyUrl.statusMessage } },
        .empty) := by
  simp only [submit, Session.begin, Session.validate_of_trim_isEmpty h]
  rfl

theorem submit_of_error {e : FetchError} (h : (Text.trim a.input).isEmpty = false)
    (he : Analysis.endpointForPage b.pageOrigin Analysis.endpointPath = .error e) :
    a.submit b =
      ({ a with session := { a.session with status := e.statusMessage } },
        .ofLog [.beginning (Text.trim a.input), ⟨.error, "analysis failed: " ++ e.message⟩]) := by
  simp only [submit, Session.begin, Session.validate_of_trim_nonempty h, he]
  rfl

theorem submit_of_ok {endpoint : Url} (h : (Text.trim a.input).isEmpty = false)
    (he : Analysis.endpointForPage b.pageOrigin Analysis.endpointPath = .ok endpoint) :
    a.submit b =
      ({ a with
          session := { a.session with
            pending := a.session.pending + 1, status := Session.loadingStatus }
          waiting := a.waiting ++ [⟨a.sent, Text.trim a.input⟩]
          sent := a.sent + 1 },
        { log := [.beginning (Text.trim a.input),
            ⟨.debug, "POST " ++ endpoint.render ++ " for " ++ Text.trim a.input⟩]
          requests := [⟨endpoint.render, Analysis.requestBody (Text.trim a.input)⟩]
          downloads := [] }) := by
  simp only [submit, Session.begin, Session.validate_of_trim_nonempty h, he]
  rfl

/-- The request that a reply is for, and what the reply makes of the session. -/
theorem reply?_cases {number : Nat} {r : Analysis.Reply} {out : Output}
    (h : a.reply? number r = some (a', out)) :
    ∃ w ∈ a.waiting, w.number = number ∧
      a' = { a with
        session := (a.session.finish (Analysis.understand w.repoUrl r).result).session
        waiting := a.waiting.filter fun w => w.number ≠ number } ∧
      out = .ofLog ((Analysis.understand w.repoUrl r).log ++
        (a.session.finish (Analysis.understand w.repoUrl r).result).log) := by
  obtain ⟨w, hw, hout⟩ := Option.bind_eq_some_iff.1 h
  obtain ⟨rfl, rfl⟩ := Prod.mk.inj (Option.some.inj hout)
  have hnumber : w.number = number := by simpa using List.find?_some hw
  exact ⟨w, List.mem_of_find?_eq_some hw, hnumber, rfl, rfl⟩

theorem reply?_isSome {w : Waiting} (hw : w ∈ a.waiting) (r : Analysis.Reply) :
    (a.reply? w.number r).isSome = true := by
  have hfind : (a.waiting.find? fun v => v.number = w.number).isSome = true := by
    rw [List.find?_isSome]
    exact ⟨w, hw, decide_eq_true rfl⟩
  obtain ⟨v, hv⟩ := Option.isSome_iff_exists.1 hfind
  rw [reply?, hv]
  rfl

theorem Settled.eq_of_mem (h : a.Settled) {v w : Waiting} (hv : v ∈ a.waiting)
    (hw : w ∈ a.waiting) : v = w := by
  have hpos := List.length_pos_of_mem hw
  have hone := h.single
  obtain ⟨u, hu⟩ := List.length_eq_one_iff.1 (show a.waiting.length = 1 by omega)
  rw [hu, List.mem_singleton] at hv hw
  rw [hv, hw]

/-- The one request that waits is the one that is taken off. -/
theorem Settled.filter_waiting (h : a.Settled) {w : Waiting} (hw : w ∈ a.waiting) :
    (a.waiting.filter fun v => v.number ≠ w.number) = [] := by
  rw [List.filter_eq_nil_iff]
  intro v hv
  simp [h.eq_of_mem hv hw]

theorem Settled.reply (h : a.Settled) {number : Nat} {r : Analysis.Reply} {out : Output}
    (hr : a.reply? number r = some (a', out)) : a'.Settled ∧ a'.waiting = [] := by
  obtain ⟨w, hw, rfl, rfl, -⟩ := reply?_cases hr
  have hnone := h.filter_waiting hw
  have hpending := h.pending
  have hsingle := h.single
  refine ⟨⟨?_, ?_⟩, hnone⟩
  · rw [hnone]
    exact Nat.zero_le 1
  · rw [Session.finish_pending, hnone, List.length_nil]
    omega

theorem Settled.submit (h : a.Settled) (hidle : a.session.isLoading = false) (b : Browser) :
    (a.submit b).1.Settled := by
  have hnone : a.waiting = [] := by
    by_contra hne
    rw [h.isLoading.2 hne] at hidle
    cases hidle
  cases hb : (Text.trim a.input).isEmpty with
  | true =>
    rw [submit_of_blank hb]
    exact ⟨h.single, h.pending⟩
  | false =>
    cases he : Analysis.endpointForPage b.pageOrigin Analysis.endpointPath with
    | error e =>
      rw [submit_of_error hb he]
      exact ⟨h.single, h.pending⟩
    | ok endpoint =>
      rw [submit_of_ok hb he]
      refine ⟨by simp [hnone], ?_⟩
      simp [h.pending]

theorem reply?_output {number : Nat} {r : Analysis.Reply} {out : Output}
    (h : a.reply? number r = some (a', out)) : out.beginnings = [] ∧ out.requests = [] := by
  obtain ⟨w, -, -, -, rfl⟩ := reply?_cases h
  refine ⟨?_, rfl⟩
  rw [Output.beginnings, List.filter_eq_nil_iff]
  intro l hl
  rcases List.mem_append.1 hl with hl | hl
  · simp [Analysis.understand_log_not_beginning hl]
  · have hlevel : l.level ≠ .info := by
      rw [Session.finish_log_level hl]
      exact Level.noConfusion
    simp [LogLine.opens_of_level hlevel]

end Analyzer

namespace Page

variable {p q : Page} {e : Event} {st : Step} {a a' : Analyzer}

def Event.submits : Event → Bool
  | .key name => name = "Enter"
  | .analyze => true
  | _ => false

theorem Event.concernsControls_of_submits (h : e.submits = true) : e.concernsControls = true := by
  cases e with
  | key name => rfl
  | analyze => rfl
  | _ => cases h

/-- What an event may log that does not concern the controls. -/
def Event.LogsBeside (e : Event) (l : LogLine) : Prop :=
  l.level = .error ∨ l = .cooled ∨ (e = .canvasPlaced ∧ l.level ≠ .info)

theorem Event.LogsBeside.level {l : LogLine} (h : e.LogsBeside l) : l.level ≠ .info := by
  rcases h with h | h | h
  · rw [h]
    exact Level.noConfusion
  · rw [h]
    exact Level.noConfusion
  · exact h.2

theorem rebuild_log (p : Page) :
    p.rebuild.2 = (p.surface.rebuild p.browser p.content.graph).2 := by
  rw [rebuild, Content.graphSignal_value]

/-- The lines of the two effects, that of the view first. -/
theorem withCanvas_log (h : p.wakes .canvas = true) (s : Surface) :
    (p.withCanvas s).2 = (s.rebuild p.browser p.content.graph).2 ++
      ((s.rebuild p.browser p.content.graph).1.animate p.browser).2 := by
  simp only [withCanvas_eq h, rebuild_surface, rebuild_log]
  rfl

theorem withCanvas_log_level (h : p.wakes .canvas = true) {s : Surface} {l : LogLine}
    (hl : l ∈ (p.withCanvas s).2) : l.level ≠ .info := by
  rw [withCanvas_log h] at hl
  rcases List.mem_append.1 hl with hl | hl
  · exact Surface.rebuild_log_level hl
  · rw [Surface.animate_log_level hl]
    exact Level.noConfusion

theorem withCanvas_log_of_none (h : p.wakes .canvas = true) {s : Surface}
    (he : s.element = none) : (p.withCanvas s).2 = [] := by
  simp only [withCanvas_log h, Surface.rebuild, Surface.animate, he, List.append_nil]

/-- An event that does not concern the controls leaves them as they are. -/
theorem step?_beside_controls (hw : p.Wired) (he : e.concernsControls = false)
    (hc : p.content = .analyzer a) (h : p.step? e = some st) :
    st.page.content = .analyzer a ∧ st.output.requests = [] ∧
      ∀ l ∈ st.output.log, e.LogsBeside l := by
  have hsilent (s : Surface) (result : Result) : ∀ l ∈ (p.onSurface s result []).output.log,
      e.LogsBeside l := fun l hl => absurd hl List.not_mem_nil
  cases e with
  | type text => cases he
  | key name => cases he
  | analyze => cases he
  | reply request r => cases he
  | download =>
    cases h
    exact ⟨hc, rfl, fun l hl => .inl (Output.svgDownload_log_level hl)⟩
  | press q =>
    cases h
    exact ⟨hc, rfl, hsilent _ _⟩
  | move q onPage =>
    cases h
    exact ⟨hc, rfl, hsilent _ _⟩
  | release =>
    cases h
    exact ⟨hc, rfl, hsilent _ _⟩
  | leave =>
    cases h
    exact ⟨hc, rfl, hsilent _ _⟩
  | wheel q delta alt =>
    obtain ⟨⟨used, s⟩, -, rfl⟩ := Option.map_eq_some_iff.1 h
    exact ⟨hc, rfl, hsilent _ _⟩
  | frames n =>
    cases h
    exact ⟨hc, rfl, fun l hl => .inr (.inl (Surface.frames_log hl))⟩
  | windowResized width height =>
    cases h
    exact ⟨hc, rfl, hsilent p.surface .nothing⟩
  | browserChanged b =>
    cases h
    exact ⟨hc, rfl, hsilent p.surface .nothing⟩
  | given g =>
    rw [step?, onGiven, hc] at h
    cases h
    exact ⟨hc, rfl, hsilent p.surface .nothing⟩
  | canvasPlaced =>
    cases h
    exact ⟨(withCanvas_content p _).trans hc, rfl, fun l hl =>
      .inr (.inr ⟨rfl, withCanvas_log_level hw.wakes_canvas hl⟩)⟩
  | canvasRemoved =>
    cases h
    have hlog : (p.withCanvas p.surface.removeCanvas).2 = [] :=
      withCanvas_log_of_none hw.wakes_canvas rfl
    refine ⟨(withCanvas_content p _).trans hc, rfl, fun l hl => ?_⟩
    rw [show (p.onCanvas p.surface.removeCanvas).output.log = [] from hlog] at hl
    cases hl

/-- An event leaves all but the text field as it was. -/
structure LeavesControls (a : Analyzer) (e : Event) (st : Step) : Prop where
  log : ∀ l ∈ st.output.log, e.LogsBeside l
  requests : st.output.requests = []
  content : ∃ input, st.page.content = .analyzer { a with input := input }

theorem LeavesControls.of_silent {input : String} (hout : st.output = .empty)
    (hc : st.page.content = .analyzer { a with input := input }) : LeavesControls a e st where
  log := by
    intro l hl
    rw [hout] at hl
    cases hl
  requests := by
    rw [hout]
    rfl
  content := ⟨input, hc⟩

/-- What an event does to the controls: it submits what stands in the text field, brings the reply
to a request, or leaves them. -/
theorem step?_analyzer (hw : p.Wired) (hc : p.content = .analyzer a) (h : p.step? e = some st) :
    (e.submits = true ∧ a.isDisabled = false ∧ st.output = (a.submit p.browser).2 ∧
      st.page.content = .analyzer (a.submit p.browser).1) ∨
    (∃ number r a', e = .reply number r ∧ a.reply? number r = some (a', st.output) ∧
      st.page.content = .analyzer a') ∨
    ((e.submits = true → a.isDisabled = true) ∧
      (∀ number r, e = .reply number r → a.reply? number r = none) ∧ LeavesControls a e st) := by
  by_cases he : e.concernsControls = true
  · cases e with
    | type text =>
      simp only [step?, onAnalyzer_eq hc] at h
      cases h
      exact .inr (.inr ⟨Bool.noConfusion, fun _ _ => Event.noConfusion, .of_silent rfl rfl⟩)
    | key name =>
      simp only [step?, onKey, onAnalyzer_eq hc, hw.onSession hc] at h
      -- the key asks the session what the button asks its own attribute
      cases hkey : a.submitsOn name with
      | true =>
        rw [if_pos hkey] at h
        cases h
        rw [Analyzer.submitsOn, Bool.and_eq_true, Bool.not_eq_true'] at hkey
        dsimp only
        exact .inl ⟨hkey.1, hkey.2, rfl, rfl⟩
      | false =>
        simp only [hkey] at h
        cases h
        refine .inr (.inr ⟨fun hs => ?_, fun _ _ => Event.noConfusion, .of_silent rfl hc⟩)
        have hname : name = "Enter" := of_decide_eq_true hs
        simpa [Analyzer.submitsOn, hname, Analyzer.isDisabled] using hkey
    | analyze =>
      simp only [step?, onButton, onAnalyzer_eq hc, hw.onSession hc] at h
      cases hdisabled : a.isDisabled with
      | true =>
        simp only [hdisabled] at h
        cases h
        exact .inr (.inr ⟨fun _ => rfl, fun _ _ => Event.noConfusion, .of_silent rfl hc⟩)
      | false =>
        rw [if_neg (Bool.eq_false_iff.1 hdisabled)] at h
        cases h
        dsimp only
        exact .inl ⟨rfl, rfl, rfl, rfl⟩
    | reply number r =>
      simp only [step?, onReply, onAnalyzer_eq hc, hw.onSession hc] at h
      cases hr : a.reply? number r with
      | none =>
        simp only [hr] at h
        cases h
        refine .inr (.inr ⟨Bool.noConfusion, ?_, .of_silent rfl hc⟩)
        intro number' r' heq
        cases heq
        exact hr
      | some next =>
        simp only [hr] at h
        cases h
        exact .inr (.inl ⟨number, r, next.1, rfl, hr, rfl⟩)
    | _ => cases he
  · have hother : e.concernsControls = false := by simpa using he
    obtain ⟨hc', hrequests, hlog⟩ := step?_beside_controls hw hother hc h
    refine .inr (.inr ⟨?_, ?_, hlog, hrequests, a.input, hc'⟩)
    · intro hs
      exact absurd (Event.concernsControls_of_submits hs) he
    · intro number r heq
      rw [heq] at hother
      cases hother

/-- What an event has to do with requests. -/
structure RequestsOf (p : Page) (a : Analyzer) (e : Event) (st : Step) (a' : Analyzer) : Prop where
  /-- None is begun while one waits. -/
  busy : ∀ w, a.IsBusyWith w → st.output.beginnings = [] ∧ st.output.requests = []
  /-- None is begun that nobody has asked for. -/
  unasked : e.submits = false → st.output.beginnings = [] ∧ st.output.requests = []
  blank : a.IsIdle → e.submits = true → (∀ c ∈ a.input.toList, Text.isBlank c = true) →
    st.output.beginnings = [] ∧ st.output.requests = [] ∧ a'.IsIdle
  sent : a.IsIdle → e.submits = true → (∃ c ∈ a.input.toList, Text.isBlank c = false) →
    ∀ endpoint, Analysis.endpointForPage p.browser.pageOrigin Analysis.endpointPath = .ok endpoint →
      ∃ url, Text.Trims a.input url ∧ st.output.beginnings = [.beginning url] ∧
        st.output.requests = [⟨endpoint.render, Analysis.requestBody url⟩] ∧
        a'.IsBusyWith ⟨a.sent, url⟩
  /-- Without an endpoint the analysis is begun and fails at once. -/
  failed : a.IsIdle → e.submits = true → (∃ c ∈ a.input.toList, Text.isBlank c = false) →
    ∀ err, Analysis.endpointForPage p.browser.pageOrigin Analysis.endpointPath = .error err →
      ∃ url, Text.Trims a.input url ∧ st.output.beginnings = [.beginning url] ∧
        st.output.requests = [] ∧ a'.IsIdle ∧ a'.session.status = err.statusMessage
  /-- Whatever the reply is, it ends the request. -/
  resolved : ∀ w, a.IsBusyWith w → (∃ r, e = .reply w.number r) → a'.IsIdle
  kept : ∀ w, a.IsBusyWith w → (∀ r, e ≠ .reply w.number r) → a'.IsBusyWith w

theorem requestsOf_submit (ha : a.Settled) (henabled : a.isDisabled = false)
    (he : e.submits = true) (hout : st.output = (a.submit p.browser).2) :
    RequestsOf p a e st (a.submit p.browser).1 := by
  have ha' := ha.submit henabled p.browser
  have htrims := Text.trim_trims a.input
  have htext (hc : ∃ c ∈ a.input.toList, Text.isBlank c = false) :
      (Text.trim a.input).isEmpty = false := by
    obtain ⟨c, hc, hne⟩ := hc
    by_contra htrim
    rw [Bool.not_eq_false, Text.trim_isEmpty_iff] at htrim
    rw [htrim c hc] at hne
    cases hne
  exact
    { busy := fun w hw => (hw.not_enabled henabled).elim
      unasked := by
        intro hnot
        rw [he] at hnot
        cases hnot
      blank := by
        intro hidle _ hblank
        have htrim := (Text.trim_isEmpty_iff a.input).2 hblank
        have hsubmit := Analyzer.submit_of_blank htrim p.browser
        rw [hout]
        refine ⟨by rw [hsubmit]; rfl, by rw [hsubmit]; rfl, ha'.isIdle ?_⟩
        rw [hsubmit]
        exact hidle.waiting
      sent := by
        intro hidle _ hc endpoint hok
        have hsubmit := Analyzer.submit_of_ok (htext hc) hok
        rw [hout]
        refine ⟨Text.trim a.input, htrims, ?_, by rw [hsubmit], ha'.isBusyWith ?_⟩
        · rw [hsubmit]
          exact Output.beginnings_of_pair rfl Level.noConfusion
        · rw [hsubmit]
          simp [hidle.waiting]
      failed := by
        intro hidle _ hc err herr
        have hsubmit := Analyzer.submit_of_error (htext hc) herr
        rw [hout]
        refine ⟨Text.trim a.input, htrims, ?_, by rw [hsubmit]; rfl, ha'.isIdle ?_, by rw [hsubmit]⟩
        · rw [hsubmit]
          exact Output.beginnings_of_pair rfl Level.noConfusion
        · rw [hsubmit]
          exact hidle.waiting
      resolved := fun w hw => (hw.not_enabled henabled).elim
      kept := fun w hw => (hw.not_enabled henabled).elim }

theorem requestsOf_reply (ha : a.Settled) {number : Nat} {r : Analysis.Reply}
    (he : e = .reply number r) (hr : a.reply? number r = some (a', st.output)) :
    RequestsOf p a e st a' := by
  have hquiet := Analyzer.reply?_output hr
  have hsubmits : e.submits = false := by rw [he]; rfl
  have hnot {P : Prop} (hs : e.submits = true) : P := by
    rw [hsubmits] at hs
    cases hs
  obtain ⟨v, hv, hnumber, -⟩ := Analyzer.reply?_cases hr
  exact
    { busy := fun _ _ => hquiet
      unasked := fun _ => hquiet
      blank := fun _ hs => hnot hs
      sent := fun _ hs => hnot hs
      failed := fun _ hs => hnot hs
      resolved := fun _ _ _ => (ha.reply hr).1.isIdle (ha.reply hr).2
      kept := by
        -- a reply that is taken is one to the request that waits
        intro w hw hother
        rw [hw.waiting, List.mem_singleton] at hv
        rw [← hnumber, hv] at he
        exact absurd he (hother r) }

theorem requestsOf_other (hs : e.submits = true → a.isDisabled = true)
    (hr : ∀ number r, e = .reply number r → a.reply? number r = none)
    (hleaves : LeavesControls a e st) (input : String) :
    RequestsOf p a e st { a with input := input } := by
  have hquiet : st.output.beginnings = [] ∧ st.output.requests = [] :=
    ⟨Output.beginnings_eq_nil fun l hl => (hleaves.log l hl).level, hleaves.requests⟩
  have hnot {P : Prop} (hidle : a.IsIdle) (he : e.submits = true) : P := by
    have hdisabled := hs he
    rw [hidle.enabled] at hdisabled
    cases hdisabled
  exact
    { busy := fun _ _ => hquiet
      unasked := fun _ => hquiet
      blank := fun hidle he => hnot hidle he
      sent := fun hidle he => hnot hidle he
      failed := fun hidle he => hnot hidle he
      resolved := by
        intro w hw hreply
        obtain ⟨r, he⟩ := hreply
        have hsome := Analyzer.reply?_isSome (hw.waiting ▸ List.mem_singleton_self w) r
        rw [hr w.number r he] at hsome
        cases hsome
      kept := fun w hw _ => ⟨hw.waiting, hw.loading, hw.disabled⟩ }

/-- Every event keeps the count of what waits, and has its part in what is sent. -/
theorem step?_requestsOf (hw : p.Wired) (ha : a.Settled) (hc : p.content = .analyzer a)
    (h : p.step? e = some st) :
    ∃ a', st.page.content = .analyzer a' ∧ a'.Settled ∧ RequestsOf p a e st a' := by
  rcases step?_analyzer hw hc h with ⟨he, henabled, hout, hc'⟩ | ⟨number, r, a', he, hr, hc'⟩ |
    ⟨hs, hr, hleaves⟩
  · exact ⟨_, hc', ha.submit henabled p.browser, requestsOf_submit ha henabled he hout⟩
  · exact ⟨a', hc', (ha.reply hr).1, requestsOf_reply ha he hr⟩
  · obtain ⟨input, hc'⟩ := hleaves.content
    exact ⟨_, hc', ⟨ha.single, ha.pending⟩,
      requestsOf_other hs hr hleaves input⟩

theorem home_wired (b : Browser) : (home b).1.Wired := mount_wired b _ _

theorem home_content (b : Browser) : (home b).1.content = .analyzer .initial := mount_content b _ _

/-- The zoom of the analyzer page has its bounds in order, so every run of events has an answer. -/
theorem home_run?_isSome (b : Browser) (es : List Event) : ((home b).1.run? es).isSome = true := by
  apply run?_isSome (home_wired b) (mount_shows b _ _)
  rw [home, mount_setup]
  decide +kernel

theorem home_run?_settled {b : Browser} {es : List Event} (h : (home b).1.run? es = some p) :
    ∃ a, p.content = .analyzer a ∧ a.Settled := by
  apply run?_induction (K := fun _ => True) (P := fun p => ∃ a, p.content = .analyzer a ∧ a.Settled)
    _ (fun _ _ => trivial) (home_wired b) ⟨_, home_content b, Analyzer.settled_initial⟩ h
  intro p e st _ hw hp he
  obtain ⟨a, hc, ha⟩ := hp
  obtain ⟨a', hc', ha', -⟩ := step?_requestsOf hw ha hc he
  exact ⟨a', hc', ha'⟩

/-- Whatever happens on the analyzer page, and in whatever order, at most one request waits. None is
begun while it does, each submission of a text that is not blank begins one while none does, and
every reply lets the next one be begun. -/
theorem one_request_at_a_time (b : Browser) (events : List Event) :
    ∃ p a, (home b).1.run? events = some p ∧ p.content = .analyzer a ∧
      (a.IsIdle ∨ ∃ w, a.IsBusyWith w) ∧
      ∀ e, ∃ st a', p.step? e = some st ∧ st.page.content = .analyzer a' ∧
        RequestsOf p a e st a' := by
  obtain ⟨p, hp⟩ := Option.isSome_iff_exists.1 (home_run?_isSome b events)
  obtain ⟨a, hc, ha⟩ := home_run?_settled hp
  refine ⟨p, a, hp, hc, ha.idle_or_busy, fun e => ?_⟩
  have hnext : ((home b).1.run? (events ++ [e])).isSome = true := home_run?_isSome b _
  rw [run?_append, hp] at hnext
  obtain ⟨st, hst⟩ : ∃ st, p.step? e = some st := by
    cases hstep : p.step? e with
    | none => simp [run?_cons, hstep] at hnext
    | some st => exact ⟨st, rfl⟩
  obtain ⟨a', hc', -, hrequests⟩ := step?_requestsOf (run?_wired (home_wired b) hp) ha hc hst
  exact ⟨st, a', hst, hc', hrequests⟩

example :
    (((home .standard).1.run? [.type "\t\u00a0owner/repo \n"]).bind (·.step? (.key "Enter"))).map
      (·.output.requests) =
    some [⟨"http://localhost:8000/analyze", "\x7b\"repo_url\":\"owner/repo\"\x7d"⟩] := by
  decide +kernel

end Page

end CodeGraph
