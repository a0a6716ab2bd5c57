import CodeGraph.Proofs.SingleRequest
import CodeGraph.Proofs.UniqueTrees

namespace CodeGraph

namespace Text

def AllBlank (cs : List Char) : Prop := ∀ c ∈ cs, isBlank c = true

/-- `t` is `s` without `front`, its longest blank beginning, and `back`, its longest blank end. -/
structure Strips (s t : String) (front back : List Char) : Prop where
  parts : s.toList = front ++ (t.toList ++ back)
  front_blank : AllBlank front
  back_blank : AllBlank back
  front_longest : ∀ cs, cs <+: s.toList → AllBlank cs → cs <+: front
  back_longest : ∀ cs, cs <:+ s.toList → AllBlank cs → cs <:+ back

theorem AllBlank.prefix_of_append {cs front rest : List Char} {c : Char} (hcs : AllBlank cs)
    (hc : isBlank c = false) (h : cs <+: front ++ c :: rest) : cs <+: front := by
  rcases List.prefix_or_prefix_of_prefix h (List.prefix_append front (c :: rest)) with hle | hge
  · exact hle
  · obtain ⟨more, rfl⟩ := hge
    rw [List.prefix_append_right_inj] at h
    cases more with
    | nil => simp
    | cons d more =>
      obtain rfl : d = c := (List.cons_prefix_cons.1 h).1
      have hd := hcs d (List.mem_append_right _ List.mem_cons_self)
      rw [hc] at hd
      cases hd

theorem AllBlank.suffix_of_append {cs front back : List Char} {c : Char} (hcs : AllBlank cs)
    (hc : isBlank c = false) (h : cs <:+ front ++ c :: back) : cs <:+ back := by
  have hreverse : AllBlank cs.reverse := fun d hd => hcs d (List.mem_reverse.1 hd)
  have hbegins : cs.reverse <+: back.reverse ++ c :: front.reverse := by
    simpa using List.reverse_prefix.2 h
  exact List.reverse_prefix.1 (hreverse.prefix_of_append hc hbegins)

theorem Trims.exists_strips {s t : String} (h : Trims s t) (ht : t ≠ "") :
    ∃ front back, Strips s t front back := by
  obtain ⟨front, back, hs, hblank⟩ := h.around
  have hne : t.toList ≠ [] := mt String.toList_eq_nil_iff.1 ht
  refine ⟨front, back, hs, fun c hc => hblank c (List.mem_append_left _ hc),
    fun c hc => hblank c (List.mem_append_right _ hc), fun cs hcs hall => ?_, fun cs hcs hall => ?_⟩
  · obtain ⟨c, rest, hrest⟩ := List.exists_cons_of_ne_nil hne
    rw [hs, hrest] at hcs
    exact hall.prefix_of_append (h.first c (by rw [hrest]; rfl)) hcs
  · have hlast := h.last _ (List.getLast?_eq_some_getLast hne)
    have hends : cs <:+ (front ++ t.toList.dropLast) ++ t.toList.getLast hne :: back := by
      rw [hs, ← List.dropLast_append_getLast hne] at hcs
      simpa using hcs
    exact hall.suffix_of_append hlast hends

theorem Strips.trims {s t : String} {front back : List Char} (h : Strips s t front back) :
    Trims s t where
  around := by
    refine ⟨front, back, h.parts, fun c hc => ?_⟩
    rcases List.mem_append.1 hc with hc | hc
    · exact h.front_blank c hc
    · exact h.back_blank c hc
  first c hc := by
    obtain ⟨rest, hrest⟩ := List.head?_eq_some_iff.1 hc
    rw [← Bool.not_eq_true]
    intro hblank
    -- a blank at this place would make the blank beginning longer
    have hlonger : front ++ [c] <+: front := by
      apply h.front_longest
      · rw [h.parts, hrest]
        exact ⟨rest ++ back, by simp⟩
      · intro d hd
        rcases List.mem_append.1 hd with hd | hd
        · exact h.front_blank d hd
        · exact List.mem_singleton.1 hd ▸ hblank
    have hlength := hlonger.length_le
    rw [List.length_append, List.length_singleton] at hlength
    omega
  last c hc := by
    obtain ⟨rest, hrest⟩ := List.getLast?_eq_some_iff.1 hc
    rw [← Bool.not_eq_true]
    intro hblank
    have hlonger : c :: back <:+ back := by
      apply h.back_longest
      · rw [h.parts, hrest]
        exact ⟨front ++ rest, by simp⟩
      · intro d hd
        rcases List.mem_cons.1 hd with rfl | hd
        · exact hblank
        · exact h.back_blank d hd
    have hlength := hlonger.length_le
    rw [List.length_cons] at hlength
    omega

theorem dropWhile_blank_append {front rest : List Char} (hfront : AllBlank front)
    (hrest : ∀ c ∈ rest.head?, isBlank c = false) :
    (front ++ rest).dropWhile isBlank = rest := by
  rw [List.dropWhile_append_of_pos hfront]
  cases rest with
  | nil => rfl
  | cons c rest => exact List.dropWhile_cons_of_neg (by rw [hrest c rfl]; exact Bool.false_ne_true)

/-- There is one way to drop the blanks around a text. -/
theorem Trims.eq_trim {s t : String} (h : Trims s t) : trim s = t := by
  by_cases ht : t = ""
  · rw [ht, ← String.isEmpty_iff, trim_isEmpty_iff]
    exact h.eq_empty_iff.1 ht
  · have hne : t.toList ≠ [] := mt String.toList_eq_nil_iff.1 ht
    obtain ⟨before, after, hs, hblank⟩ := h.around
    have hfront : s.toList.dropWhile isBlank = t.toList ++ after := by
      rw [hs]
      refine dropWhile_blank_append (fun c hc => hblank c (List.mem_append_left _ hc)) ?_
      rw [List.head?_append_of_ne_nil _ hne]
      exact h.first
    have hback : (t.toList ++ after).reverse.dropWhile isBlank = t.toList.reverse := by
      rw [List.reverse_append]
      refine dropWhile_blank_append (fun c hc => ?_) ?_
      · exact hblank c (List.mem_append_right _ (List.mem_reverse.1 hc))
      · rw [List.head?_reverse]
        exact h.last
    rw [trim, trimChars, hfront, hback, List.reverse_reverse, String.ofList_toList]

theorem trim_trim (s : String) : trim (trim s) = trim s :=
  have h := trim_trims s
  Trims.eq_trim ⟨⟨[], [], by simp, by simp⟩, h.first, h.last⟩

end Text

theorem Response.records_ne_emptyUrl (r : Response) : r.records ≠ .error .emptyUrl := by
  unfold records
  repeat' split
  all_goals simp

namespace Analysis

/-- An answer is never an empty URL, whatever it says; an error is passed on. -/
theorem understand_eq_emptyUrl_iff (url : String) (reply : Reply) :
    (understand url reply).result = .error .emptyUrl ↔ reply = .error .emptyUrl := by
  cases reply with
  | error e => simp [understand]
  | ok response =>
    have hrecords := response.records_ne_emptyUrl
    simp only [understand, reduceCtorEq, iff_false]
    split
    · next e he =>
      intro h
      obtain rfl : e = .emptyUrl := Except.error.inj h
      exact hrecords he
    · simp

theorem validate_eq_ok_iff {input url : String} :
    validate input = .ok url ↔ url ≠ "" ∧ ∃ front back, Text.Strips input url front back := by
  have htrims := Text.trim_trims input
  cases hblank : (Text.trim input).isEmpty with
  | true =>
    rw [Session.validate_of_trim_isEmpty hblank]
    constructor
    · intro h
      cases h
    · rintro ⟨hne, front, back, hstrips⟩
      rw [hstrips.trims.eq_trim, String.isEmpty_iff] at hblank
      exact absurd hblank hne
  | false =>
    have hne : Text.trim input ≠ "" := by
      rw [ne_eq, ← String.isEmpty_iff, hblank]
      exact Bool.false_ne_true
    rw [Session.validate_of_trim_nonempty hblank, Except.ok.injEq]
    constructor
    · rintro rfl
      exact ⟨hne, htrims.exists_strips hne⟩
    · rintro ⟨-, front, back, hstrips⟩
      exact hstrips.trims.eq_trim

theorem validate_eq_error_iff {input : String} {e : FetchError} :
    validate input = .error e ↔ e = .emptyUrl ∧ Text.AllBlank input.toList := by
  have hiff : (Text.trim input).isEmpty = true ↔ Text.AllBlank input.toList :=
    Text.trim_isEmpty_iff input
  cases hblank : (Text.trim input).isEmpty with
  | true =>
    rw [Session.validate_of_trim_isEmpty hblank, Except.error.injEq, and_iff_left (hiff.1 hblank)]
    exact eq_comm
  | false =>
    rw [Session.validate_of_trim_nonempty hblank]
    constructor
    · intro h
      cases h
    · rintro ⟨-, hall⟩
      rw [hiff.2 hall] at hblank
      cases hblank

/-- What passed the check passes it again, unchanged. -/
theorem validate_of_validate {input url : String} (h : validate input = .ok url) :
    validate url = .ok url := by
  cases hblank : (Text.trim input).isEmpty with
  | true =>
    rw [Session.validate_of_trim_isEmpty hblank] at h
    cases h
  | false =>
    rw [Session.validate_of_trim_nonempty hblank] at h
    cases h
    rw [Session.validate_of_trim_nonempty (by rwa [Text.trim_trim]), Text.trim_trim]

theorem begin_url (s : Session) (input : String) :
    (s.begin input).url = (validate input).toOption := by
  unfold Session.begin
  cases validate input with
  | ok url => rfl
  | error e => rfl

theorem validate_of_begun {s : Session} {input url : String}
    (h : (s.begin input).url = some url) : validate input = .ok url := by
  rw [begin_url] at h
  cases hv : validate input with
  | ok taken =>
    rw [hv] at h
    cases h
    rfl
  | error e =>
    rw [hv] at h
    cases h

theorem validate_of_refused {s : Session} {input : String} (h : (s.begin input).url = none) :
    validate input = .error .emptyUrl := by
  rw [begin_url] at h
  cases hv : validate input with
  | ok url =>
    rw [hv] at h
    cases h
  | error e =>
    obtain ⟨rfl, -⟩ := validate_eq_error_iff.1 hv
    rfl

theorem run_of_validate_ok {input url : String} (h : validate input = .ok url)
    (server : String → Reply) : run server input = ⟨[url], understand url (server url)⟩ := by
  rw [run, h]

theorem run_of_validate_error {input : String} {e : FetchError} (h : validate input = .error e)
    (server : String → Reply) : run server input = ⟨[], ⟨.error e, []⟩⟩ := by
  rw [run, h]

/-- For every session, input and server. The check takes what is left of the input without its
longest blank beginning and end, refuses exactly the inputs that are blank throughout, and changes
nothing the second time. The session begins a request for what the check takes. The analysis of
that sends it, once and as it is, and so does the analysis of the input; it finds the URL empty only
if the server says so. If the session begins none, the analysis of the input sends nothing and finds
the URL empty, and the session has its graph, revision and requests as before. -/
theorem submission_checked_alike (s : Session) (input : String) (server : String → Reply) :
    (∀ url, validate input = .ok url ↔
      url ≠ "" ∧ ∃ front back, Text.Strips input url front back) ∧
    (∀ e, validate input = .error e ↔ e = .emptyUrl ∧ Text.AllBlank input.toList) ∧
    (validate input).bind validate = validate input ∧
    (s.begin input).url = (validate input).toOption ∧
    (∀ url, (s.begin input).url = some url →
      (run server url).sent = [url] ∧ run server input = run server url ∧
        ((run server url).outcome.result = .error .emptyUrl ↔ server url = .error .emptyUrl)) ∧
    ((s.begin input).url = none →
      (run server input).sent = [] ∧ (run server input).outcome.result = .error .emptyUrl ∧
        (s.begin input).session.graph = s.graph ∧
        (s.begin input).session.revision = s.revision ∧
        (s.begin input).session.isLoading = s.isLoading) := by
  refine ⟨fun url => validate_eq_ok_iff, fun e => validate_eq_error_iff, ?_, begin_url s input,
    fun url hurl => ?_, fun hnone => ?_⟩
  · cases h : validate input with
    | ok url => simp only [Except.bind, validate_of_validate h]
    | error e => rfl
  · have h := validate_of_begun hurl
    rw [run_of_validate_ok h, run_of_validate_ok (validate_of_validate h)]
    exact ⟨rfl, rfl, understand_eq_emptyUrl_iff _ _⟩
  · obtain ⟨hgraph, hrevision⟩ := Session.begin_keeps_graph s input
    have hpending : (s.begin input).session.pending = s.pending := by
      rw [(Session.begin_refused hnone).2]
    rw [run_of_validate_error (validate_of_refused hnone)]
    refine ⟨rfl, rfl, hgraph, hrevision, ?_⟩
    rw [Session.isLoading, Session.isLoading, hpending]

example : (validate "\t\u00a0owner/repo \u2003\n").toOption = some "owner/repo" := by
  decide +kernel

open Json

def requestTree (url : String) : Tree :=
  .object [(.ofString "repo_url", .text (.ofString url))]

theorem requestBody_eq (url : String) :
    requestBody url = String.ofList (requestTree url).compact := by
  simp only [requestBody, render, renderChars, renderMembers, requestTree, Tree.compact,
    compactMembers, Quoted.spelling_ofString]

theorem writes_requestBody_iff (url : String) (t : Tree) :
    Writes t (requestBody url) ↔ t = requestTree url := by
  have hwrites : Writes (requestTree url) (requestBody url) :=
    requestBody_eq url ▸ (requestTree url).writes_compact
  constructor
  · intro h
    exact h.eq hwrites
  · rintro rfl
    exact hwrites

theorem run_requestBody (url : String) (depth : Nat) :
    Reader.run (Reader.value (depth + 1)) (requestBody url) =
      .ok (.object [("repo_url", .text url)]) := by
  have hfits : (Json.object [("repo_url", .text url)]).Fits (depth + 1) :=
    ⟨List.pairwise_singleton _ _, fun m hm => by rw [List.mem_singleton.1 hm]; simp [Fits]⟩
  have hintegral : (Json.object [("repo_url", .text url)]).IsIntegral :=
    .object fun m hm => by rw [List.mem_singleton.1 hm]; exact .text url
  exact (run_render hfits hintegral).2

/-- For every URL, with whatever characters. Its body is read as an object with the one member
`repo_url`, which is the URL. The body is the text of one document only, in which no other member
stands, not even one that a later member with the same key would replace. Two URLs have two
bodies. -/
theorem body_carries_url_alone (url : String) :
    (∀ depth, Reader.run (Reader.value (depth + 1)) (requestBody url) =
      .ok (.object [("repo_url", .text url)])) ∧
    (∃ key value : Quoted, key.text? = some "repo_url" ∧ value.text? = some url ∧
      ∀ t, Writes t (requestBody url) ↔ t = .object [(key, .text value)]) ∧
    ∀ url', requestBody url' = requestBody url → url' = url := by
  refine ⟨run_requestBody url, ⟨.ofString "repo_url", .ofString url, Quoted.text?_ofString _,
    Quoted.text?_ofString _, writes_requestBody_iff url⟩, fun url' hbody => ?_⟩
  have hread := run_requestBody url' 0
  rw [hbody, run_requestBody url 0] at hread
  simpa using hread.symm

end Analysis

end CodeGraph
