import CodeGraph.Analysis.Session

namespace CodeGraph.Session

/-- An event of a session. A request is numbered by the place of its beginning. -/
inductive Event
  | begin (input : String)
  | finish (request : Nat) (result : Except FetchError Graph)

namespace Event

def sends : Event → Bool
  | .begin input => !(Text.trim input).isEmpty
  | .finish _ _ => false

def graph? : Event → Option Graph
  | .finish _ (.ok g) => some g
  | _ => none

def message : Event → String
  | .begin input =>
    if (Text.trim input).isEmpty then FetchError.emptyUrl.statusMessage else loadingStatus
  | .finish _ (.ok g) =>
    "Nodes: " ++ toString g.nodes.length ++ ", edges: " ++ toString g.links.length
  | .finish _ (.error e) => e.statusMessage

end Event

/-- The session behind some events, with the requests in flight. A request is in flight from the
beginning that gave its URL until it is finished, which may be at any time and with any result. -/
inductive History : List Event → Session → List Nat → Prop
  | fresh : History [] .initial []
  | refused {events : List Event} {s : Session} {inFlight : List Nat}
      (before : History events s inFlight) (input : String)
      (refusal : (s.begin input).url = none) :
      History (events ++ [.begin input]) (s.begin input).session inFlight
  | sent {events : List Event} {s : Session} {inFlight : List Nat}
      (before : History events s inFlight) (input url : String)
      (sending : (s.begin input).url = some url) :
      History (events ++ [.begin input]) (s.begin input).session (inFlight ++ [events.length])
  | finished {events : List Event} {s : Session} {inFlight : List Nat}
      (before : History events s inFlight) (request : Nat) (result : Except FetchError Graph)
      (due : request ∈ inFlight) :
      History (events ++ [.finish request result]) (s.finish result).session
        (inFlight.erase request)

def Outstanding (events : List Event) (r : Nat) : Prop :=
  (∃ e, events[r]? = some e ∧ e.sends = true) ∧ ∀ result, Event.finish r result ∉ events

def installed (events : List Event) : List Graph := events.filterMap Event.graph?

def statusAfter (events : List Event) : String :=
  match events.getLast? with
  | none => idleStatus
  | some e => e.message

@[simp] theorem installed_append (events : List Event) (e : Event) :
    installed (events ++ [e]) = installed events ++ e.graph?.toList := by
  cases h : e.graph? <;> simp [installed, h]

@[simp] theorem statusAfter_append (events : List Event) (e : Event) :
    statusAfter (events ++ [e]) = e.message := by
  simp [statusAfter]

theorem validate_of_trim_isEmpty {input : String} (h : (Text.trim input).isEmpty = true) :
    Analysis.validate input = .error .emptyUrl := by
  simp [Analysis.validate, h]

theorem validate_of_trim_nonempty {input : String} (h : (Text.trim input).isEmpty = false) :
    Analysis.validate input = .ok (Text.trim input) := by
  simp [Analysis.validate, h]

/-- A beginning without URL leaves everything but the status line as it was. -/
theorem begin_refused {s : Session} {input : String} (h : (s.begin input).url = none) :
    (Event.begin input).sends = false ∧
      (s.begin input).session = { s with status := (Event.begin input).message } := by
  cases hb : (Text.trim input).isEmpty with
  | true => simp [Session.begin, validate_of_trim_isEmpty hb, Event.sends, Event.message, hb]
  | false => simp [Session.begin, validate_of_trim_nonempty hb] at h

theorem begin_sent {s : Session} {input url : String} (h : (s.begin input).url = some url) :
    (Event.begin input).sends = true ∧
      (s.begin input).session =
        { s with pending := s.pending + 1, status := (Event.begin input).message } := by
  cases hb : (Text.trim input).isEmpty with
  | true => simp [Session.begin, validate_of_trim_isEmpty hb] at h
  | false => simp [Session.begin, validate_of_trim_nonempty hb, Event.sends, Event.message, hb]

theorem begin_keeps_graph (s : Session) (input : String) :
    (s.begin input).session.graph = s.graph ∧ (s.begin input).session.revision = s.revision := by
  cases hu : (s.begin input).url with
  | none => simp [(begin_refused hu).2]
  | some url => simp [(begin_sent hu).2]

theorem failure_keeps_graph (s : Session) (e : FetchError) :
    (s.finish (.error e)).session.graph = s.graph ∧
      (s.finish (.error e)).session.revision = s.revision :=
  ⟨rfl, rfl⟩

theorem finish_pending (s : Session) (result : Except FetchError Graph) :
    (s.finish result).session.pending = s.pending - 1 := by
  cases result <;> rfl

theorem finish_status (s : Session) (request : Nat) (result : Except FetchError Graph) :
    (s.finish result).session.status = (Event.finish request result).message := by
  cases result <;> rfl

variable {events : List Event} {s : Session} {inFlight : List Nat}

/-- The requests in flight are distinct, and their numbers are places in the history. -/
theorem inFlight_distinct (h : History events s inFlight) :
    inFlight.Nodup ∧ ∀ r ∈ inFlight, r < events.length := by
  induction h with
  | fresh => simp
  | refused _ _ _ ih =>
    refine ⟨ih.1, fun r hr => ?_⟩
    have := ih.2 r hr
    simp only [List.length_append, List.length_singleton]
    omega
  | @sent events _ inFlight _ _ _ _ ih =>
    constructor
    · have hnew : events.length ∉ inFlight := fun hr => Nat.lt_irrefl _ (ih.2 _ hr)
      refine List.nodup_append.2 ⟨ih.1, by simp, fun a ha b hb hab => hnew ?_⟩
      rwa [← List.mem_singleton.1 hb, ← hab]
    · intro r hr
      simp only [List.length_append, List.length_singleton]
      rcases List.mem_append.1 hr with hr | hr
      · have := ih.2 r hr
        omega
      · have := List.mem_singleton.1 hr
        omega
  | finished _ _ _ _ ih =>
    refine ⟨ih.1.erase _, fun r hr => ?_⟩
    have := ih.2 r (List.mem_of_mem_erase hr)
    simp only [List.length_append, List.length_singleton]
    omega

theorem finished_lt_length (h : History events s inFlight) {r : Nat}
    {result : Except FetchError Graph} (hr : Event.finish r result ∈ events) :
    r < events.length := by
  induction h with
  | fresh => simp at hr
  | refused _ _ _ ih =>
    have := ih (by simpa using hr)
    simp only [List.length_append, List.length_singleton]
    omega
  | sent _ _ _ _ ih =>
    have := ih (by simpa using hr)
    simp only [List.length_append, List.length_singleton]
    omega
  | finished before request _ due ih =>
    simp only [List.length_append, List.length_singleton]
    rcases List.mem_append.1 hr with hr | hr
    · have := ih hr
      omega
    · have he : r = request := by simpa using (Event.finish.inj (List.mem_singleton.1 hr)).1
      have := (inFlight_distinct before).2 request due
      omega

theorem outstanding_append (e : Event) (r : Nat) :
    Outstanding (events ++ [e]) r ↔
      (Outstanding events r ∨ r = events.length ∧ e.sends = true ∧
        ∀ result, Event.finish r result ∉ events) ∧ ∀ result, e ≠ .finish r result := by
  have hget : (∃ e', (events ++ [e])[r]? = some e' ∧ e'.sends = true) ↔
      (∃ e', events[r]? = some e' ∧ e'.sends = true) ∨ r = events.length ∧ e.sends = true := by
    -- the only place that the longer history adds is that of the new event
    rcases Nat.lt_trichotomy r events.length with hr | hr | hr
    · simp only [List.getElem?_append_left hr]
      constructor
      · exact Or.inl
      · rintro (h | ⟨h, -⟩)
        · exact h
        · omega
    · subst hr
      simp
    · have hr' : (events ++ [e]).length ≤ r := by
        simp only [List.length_append, List.length_singleton]
        omega
      simp only [List.getElem?_eq_none hr', List.getElem?_eq_none (Nat.le_of_lt hr)]
      simp
      omega
  unfold Outstanding
  rw [hget]
  simp only [List.mem_append, List.mem_singleton, not_or]
  constructor
  · rintro ⟨h | ⟨h, hs⟩, hf⟩
    · exact ⟨.inl ⟨h, fun result => (hf result).1⟩, fun result he => (hf result).2 he.symm⟩
    · exact ⟨.inr ⟨h, hs, fun result => (hf result).1⟩, fun result he => (hf result).2 he.symm⟩
  · rintro ⟨⟨h, hf⟩ | ⟨h, hs, hf⟩, he⟩
    · exact ⟨.inl h, fun result => ⟨hf result, fun h' => he result h'.symm⟩⟩
    · exact ⟨.inr ⟨h, hs⟩, fun result => ⟨hf result, fun h' => he result h'.symm⟩⟩

theorem mem_inFlight_iff (h : History events s inFlight) (r : Nat) :
    r ∈ inFlight ↔ Outstanding events r := by
  induction h with
  | fresh => simp [Outstanding]
  | refused _ _ refusal ih => simp [outstanding_append, (begin_refused refusal).1, ih]
  | @sent events _ _ before _ _ sending ih =>
    -- a request cannot end before it begins, so that its new number was not used up before
    have hnew (result : Except FetchError Graph) : Event.finish events.length result ∉ events :=
      fun hr => Nat.lt_irrefl _ (finished_lt_length before hr)
    simp only [outstanding_append, (begin_sent sending).1, List.mem_append, List.mem_singleton, ih]
    constructor
    · rintro (h | rfl)
      · exact ⟨.inl h, by simp⟩
      · exact ⟨.inr ⟨rfl, trivial, hnew⟩, by simp⟩
    · rintro ⟨h | ⟨h, -⟩, -⟩
      · exact .inl h
      · exact .inr h
  | finished before request result due ih =>
    rw [(inFlight_distinct before).1.mem_erase_iff, outstanding_append, ih]
    simp only [Event.sends, Bool.false_eq_true, false_and, and_false, or_false]
    constructor
    · rintro ⟨hne, ho⟩
      exact ⟨ho, fun result he => hne (Event.finish.inj he).1.symm⟩
    · rintro ⟨ho, he⟩
      exact ⟨fun h => he result (by rw [h]), ho⟩

/-- No decrement of the count is ever lost: what is finished was in flight. -/
theorem pending_eq_inFlight (h : History events s inFlight) : s.pending = inFlight.length := by
  induction h with
  | fresh => rfl
  | refused _ _ refusal ih => simpa [(begin_refused refusal).2] using ih
  | sent _ _ _ sending ih => simp [(begin_sent sending).2, ih]
  | finished _ _ _ due ih => rw [finish_pending, ih, List.length_erase_of_mem due]

theorem isLoading_iff (h : History events s inFlight) :
    s.isLoading = true ↔ ∃ r, Outstanding events r := by
  simp only [← mem_inFlight_iff h, isLoading, decide_eq_true_eq, pending_eq_inFlight h]
  exact List.length_pos_iff_exists_mem

theorem revision_graph_of_installed (h : History events s inFlight) :
    s.revision = (installed events).length ∧ s.graph = (installed events).getLast? := by
  induction h with
  | fresh => exact ⟨rfl, rfl⟩
  | refused _ _ _ ih => simpa [Event.graph?, begin_keeps_graph] using ih
  | sent _ _ _ _ ih => simpa [Event.graph?, begin_keeps_graph] using ih
  | finished _ _ result _ ih =>
    cases result with
    | ok g => simp [Session.finish, Event.graph?, ih.1]
    | error e => simpa [Event.graph?, failure_keeps_graph] using ih

theorem status_of_last_event (h : History events s inFlight) : s.status = statusAfter events := by
  cases h with
  | fresh => rfl
  | refused _ _ refusal => simp [(begin_refused refusal).2]
  | sent _ _ _ sending => simp [(begin_sent sending).2]
  | @finished _ s _ _ request result => rw [statusAfter_append, finish_status s request result]

/-- The session at every point of every history, whatever the order in which requests overlap. -/
theorem session_of_history (h : History events s inFlight) :
    (inFlight.Nodup ∧ (∀ r, r ∈ inFlight ↔ Outstanding events r) ∧
      s.pending = inFlight.length) ∧
    (s.isLoading = true ↔ ∃ r, Outstanding events r) ∧
    s.revision = (installed events).length ∧
    s.graph = (installed events).getLast? ∧
    (∀ (events' : List Event) (s' : Session) (inFlight' : List Nat),
      History events' s' inFlight' → installed events' = installed events →
        s'.graph = s.graph ∧ s'.revision = s.revision) ∧
    (∀ input, (s.begin input).session.graph = s.graph ∧
      (s.begin input).session.revision = s.revision) ∧
    (∀ e, (s.finish (.error e)).session.graph = s.graph ∧
      (s.finish (.error e)).session.revision = s.revision) ∧
    s.status = statusAfter events := by
  obtain ⟨hr, hg⟩ := revision_graph_of_installed h
  refine ⟨⟨(inFlight_distinct h).1, mem_inFlight_iff h, pending_eq_inFlight h⟩, isLoading_iff h,
    hr, hg, ?_, begin_keeps_graph s, failure_keeps_graph s, status_of_last_event h⟩
  intro events' s' inFlight' h' hi
  obtain ⟨hr', hg'⟩ := revision_graph_of_installed h'
  exact ⟨by rw [hg', hg, hi], by rw [hr', hr, hi]⟩

/-- The second of two requests ends first and the first one fails behind it: the graph on screen is
that of the second, and nothing is loading. -/
theorem overlap_ends_idle :
    ∃ s : Session,
      History [.begin "a/b", .begin " ", .begin " c/d ", .finish 2 (.ok ⟨[], []⟩),
        .finish 0 (.error (.transport "lost"))] s [] ∧
      s.isLoading = false ∧ s.graph = some ⟨[], []⟩ ∧ s.revision = 1 ∧
      s.status = "Request failed: lost" := by
  have first : History [.begin "a/b"] _ [0] :=
    History.fresh.sent "a/b" "a/b" (by decide +kernel)
  have blank : History [.begin "a/b", .begin " "] _ [0] := first.refused " " (by decide +kernel)
  have second : History [.begin "a/b", .begin " ", .begin " c/d "] _ [0, 2] :=
    blank.sent " c/d " "c/d" (by decide +kernel)
  have ended : History _ _ [0] := second.finished 2 (.ok ⟨[], []⟩) (by decide)
  have failed : History _ _ [] := ended.finished 0 (.error (.transport "lost")) (by decide)
  obtain ⟨⟨-, -, hp⟩, -, hr, hg, -, -, -, hs⟩ := session_of_history failed
  exact ⟨_, failed, by simp [isLoading, hp], hg, hr, hs⟩

end CodeGraph.Session
