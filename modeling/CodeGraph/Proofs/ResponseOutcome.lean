import CodeGraph.Proofs.CompactTexts
import CodeGraph.Proofs.RecordFields

namespace CodeGraph

open Json (Tree Writes)

namespace Number

theorem positional_ne_nil (d : Decimal) : positional d ≠ [] := by
  have hdigits : Nat.toDigits 10 d.coefficient ≠ [] := Nat.toDigits_ne_nil
  unfold positional
  dsimp only
  split
  · simp [hdigits]
  · split <;> simp

theorem scientific_ne_nil (d : Decimal) : scientific d ≠ [] := by
  unfold scientific
  dsimp only
  split <;> simp

theorem signed_ne_nil {cs : List Char} (negative : Bool) (h : cs ≠ []) :
    signed negative cs ≠ [] := by
  unfold signed
  split
  · exact List.cons_ne_nil _ _
  · exact h

theorem jsonText_ne_nil (x : Float) : (jsonText x).toList ≠ [] := by
  unfold jsonText
  split
  · decide
  · decide
  · dsimp only
    rw [String.toList_ofList]
    apply signed_ne_nil
    split
    · exact List.cons_ne_nil _ _
    · split
      · split
        · simp
        · exact positional_ne_nil _
      · exact scientific_ne_nil _

end Number

theorem Json.render_ne_empty (j : Json) : j.render ≠ "" := by
  have hchars : j.renderChars ≠ [] := by
    cases j with
    | null => exact List.cons_ne_nil _ _
    | bool b => cases b <;> exact List.cons_ne_nil _ _
    | number n =>
      cases n with
      | whole i =>
        rw [renderChars, renderNumber, toList_toString]
        split
        · exact Nat.toDigits_ne_nil
        · exact List.cons_ne_nil _ _
      | float x => exact Number.jsonText_ne_nil x
    | text s => simp [renderChars, renderText]
    | list items => simp [renderChars]
    | object ms => simp [renderChars]
  intro h
  exact hchars (String.ofList_eq_empty_iff.1 h)

namespace Response

/-- The tree is that envelope: a verdict and, unless missing or null, records and a reason. -/
structure IsEnvelope (t : Tree) (e : Envelope) : Prop where
  keyed : t.Keyed envelopeNames
  ok : t.field? envelopeNames "ok" = some (.bool e.ok)
  data : Tree.optionalField? (GraphRecords.ofTree? (GraphRecords.maxDepth - 1))
    (t.field? envelopeNames "data") = some e.data
  detail : Tree.optionalField? (Tree.json? (GraphRecords.maxDepth - 1))
    (t.field? envelopeNames "detail") = some e.detail

/-- The tree reports a failure and gives that reason, if any. -/
structure IsReport (t : Tree) (detail : Option Json) : Prop where
  keyed : t.Keyed ["detail"]
  detail : Tree.optionalField? (Tree.json? (GraphRecords.maxDepth - 1))
    (t.field? ["detail"] "detail") = some detail

def Carries (body : String) (e : Envelope) : Prop := ∃ t, Writes t body ∧ IsEnvelope t e

/-- The reason that a body gives for a failure. A body that is no report gives none. -/
inductive Reports (body : String) : Option Json → Prop
  | report {t : Tree} {detail : Option Json} (hbody : Writes t body) (h : IsReport t detail) :
      Reports body detail
  | silent (h : ¬∃ t detail, Writes t body ∧ IsReport t detail) : Reports body none

/-- A reason as it is shown. The text of a value without floats has no blanks and reads back. -/
inductive Shown : Option Json → String → Prop
  | words {s : String} (h : s ≠ "") : Shown (some (.text s)) s
  | value {j : Json} (hnull : j ≠ .null) (htext : ∀ s, j ≠ .text s)
      (hback : j.IsIntegral → (∃ t : Tree, j.render = String.ofList t.compact) ∧
        Json.Reader.run (Json.Reader.value GraphRecords.maxDepth) j.render = .ok j) :
      Shown (some j) j.render
  | missing : Shown none "unknown error"
  | null : Shown (some .null) "unknown error"
  | empty : Shown (some (.text "")) "unknown error"

theorem Shown.ne_empty {detail : Option Json} {s : String} (h : Shown detail s) : s ≠ "" := by
  cases h with
  | words h => exact h
  | value => exact Json.render_ne_empty _
  | missing | null | empty => decide

/-- A reason that was read is shown in one way. -/
theorem shown_iff {detail : Option Json} {s : String}
    (hfits : ∀ j, detail = some j → j.Fits GraphRecords.maxDepth) :
    Shown detail s ↔ s = detailText detail := by
  constructor
  · intro h
    cases h with
    | words h => simp [detailText, h]
    | @value j hnull htext =>
      cases j with
      | null => exact absurd rfl hnull
      | text s => exact absurd rfl (htext s)
      | bool | number | list | object => rfl
    | missing | null => rfl
    | empty => simp [detailText, unknownError]
  · rintro rfl
    cases detail with
    | none => exact .missing
    | some j =>
      cases j with
      | null => exact .null
      | text s =>
        by_cases h : s = ""
        · rw [h]
          exact .empty
        · simpa [detailText, h] using Shown.words h
      | bool | number | list | object => exact .value nofun nofun (Json.run_render (hfits _ rfl))

theorem fits_of_optionalField? {depth : Nat} {v : Option Tree} {detail : Option Json}
    (h : Tree.optionalField? (Tree.json? depth) v = some detail) (j : Json) (hj : detail = some j) :
    j.Fits (depth + 1) := by
  subst hj
  obtain ⟨t, -, -, ht⟩ := Tree.optionalField?_eq_some_iff.1 h
  exact (Tree.fits_of_json? ht).succ

theorem isEnvelope_iff {t : Tree} {e : Envelope} : IsEnvelope t e ↔ envelope? t = some e := by
  rw [envelope?_eq_some_iff]
  exact ⟨fun h => ⟨h.keyed, h.ok, h.data, h.detail⟩, fun h => ⟨h.1, h.2.1, h.2.2.1, h.2.2.2⟩⟩

theorem isReport_iff {t : Tree} {detail : Option Json} :
    IsReport t detail ↔ errorDetail? t = some detail := by
  rw [errorDetail?_eq_some_iff]
  exact ⟨fun h => ⟨h.keyed, h.detail⟩, fun h => ⟨h.1, h.2⟩⟩

theorem carries_iff {body : String} {e : Envelope} : Carries body e ↔ envelope body = .ok e := by
  simp only [Carries, isEnvelope_iff, envelope_eq_ok_iff]

theorem Carries.detail_fits {body : String} {e : Envelope} (h : Carries body e) :
    ∀ j, e.detail = some j → j.Fits GraphRecords.maxDepth := by
  obtain ⟨t, -, h⟩ := h
  exact fits_of_optionalField? h.detail

theorem reports_iff {body : String} {detail : Option Json} :
    Reports body detail ↔ detail = (errorDetail body).toOption.join := by
  have hok (detail : Option Json) :
      (∃ t, Writes t body ∧ IsReport t detail) ↔ errorDetail body = .ok detail := by
    simp only [isReport_iff, errorDetail_eq_ok_iff]
  constructor
  · rintro (⟨hbody, h⟩ | h)
    · rw [(hok detail).1 ⟨_, hbody, h⟩]
      rfl
    · cases hread : errorDetail body with
      | error fault => rfl
      | ok d =>
        obtain ⟨t, ht⟩ := (hok d).2 hread
        exact absurd ⟨t, d, ht⟩ h
  · rintro rfl
    cases hread : errorDetail body with
    | ok d =>
      obtain ⟨t, hbody, ht⟩ := (hok d).2 hread
      exact .report hbody ht
    | error fault =>
      refine .silent ?_
      rintro ⟨t, d, ht⟩
      rw [(hok d).1 ⟨t, ht⟩] at hread
      exact nomatch hread

theorem Reports.fits {body : String} {detail : Option Json} (h : Reports body detail) :
    ∀ j, detail = some j → j.Fits GraphRecords.maxDepth := by
  cases h with
  | report _ h => exact fits_of_optionalField? h.detail
  | silent => nofun

/-- The status tells of success. -/
def InRange (r : Response) : Prop := 200 ≤ r.status ∧ r.status ≤ 299

theorem isSuccess_iff {r : Response} : r.isSuccess = true ↔ r.InRange := by
  simp only [isSuccess, InRange, Bool.and_eq_true, decide_eq_true_eq]
  omega

/-- A refusal by status, with the reason that the body gives. -/
theorem records_of_not_inRange {r : Response} (hr : ¬r.InRange) :
    r.records = .error (.server r.status (detailText (errorDetail r.body).toOption.join)) := by
  rw [records, if_neg (mt isSuccess_iff.1 hr)]
  cases errorDetail r.body <;> rfl

def verdict (e : Envelope) : Except FetchError GraphRecords :=
  if e.ok then .ok (e.data.getD .empty) else .error (.rejected (detailText e.detail))

theorem verdict_eq_ok_iff {e : Envelope} {g : GraphRecords} :
    verdict e = .ok g ↔ e.ok = true ∧ g = e.data.getD ⟨[], []⟩ := by
  change _ ↔ e.ok = true ∧ g = e.data.getD .empty
  unfold verdict
  cases e.ok with
  | true => simpa using eq_comm (a := e.data.getD .empty)
  | false => simp

theorem verdict_eq_rejected_iff {e : Envelope} {detail : String} :
    verdict e = .error (.rejected detail) ↔ e.ok = false ∧ detail = detailText e.detail := by
  unfold verdict
  cases e.ok with
  | true => simp
  | false => simpa using eq_comm

theorem verdict_ne_server (e : Envelope) (status : Nat) (detail : String) :
    verdict e ≠ .error (.server status detail) := by
  unfold verdict
  split <;> nofun

theorem records_of_carries {r : Response} (hr : r.InRange) {e : Envelope} (h : Carries r.body e) :
    r.records = verdict e := by
  rw [records, if_pos (isSuccess_iff.2 hr), carries_iff.1 h]
  rfl

theorem records_of_not_carries {r : Response} (hr : r.InRange) (h : ¬∃ e, Carries r.body e) :
    ∃ fault, r.records = .error (.malformed fault) := by
  rw [records, if_pos (isSuccess_iff.2 hr)]
  cases hread : envelope r.body with
  | error fault => exact ⟨fault, rfl⟩
  | ok e => exact absurd ⟨e, carries_iff.2 hread⟩ h

/-- Within the range, anything but a malformed body is the verdict of an envelope. -/
theorem records_eq_iff {r : Response} (hr : r.InRange) {o : Except FetchError GraphRecords}
    (ho : ∀ fault, o ≠ .error (.malformed fault)) :
    r.records = o ↔ ∃ e, Carries r.body e ∧ verdict e = o := by
  constructor
  · intro h
    by_cases hbody : ∃ e, Carries r.body e
    · obtain ⟨e, he⟩ := hbody
      exact ⟨e, he, (records_of_carries hr he).symm.trans h⟩
    · obtain ⟨fault, hfault⟩ := records_of_not_carries hr hbody
      exact absurd (h.symm.trans hfault) (ho fault)
  · rintro ⟨e, he, rfl⟩
    exact records_of_carries hr he

theorem records_eq_server_iff {r : Response} {status : Nat} {detail : String} :
    r.records = .error (.server status detail) ↔ ¬r.InRange ∧ status = r.status ∧
      ∃ reason, Reports r.body reason ∧ Shown reason detail := by
  by_cases hr : r.InRange
  · refine (records_eq_iff hr (by simp)).trans ?_
    exact ⟨fun ⟨e, _, h⟩ => absurd h (verdict_ne_server e status detail), fun h => absurd hr h.1⟩
  · rw [records_of_not_inRange hr]
    have hreports := reports_iff.2 (Eq.refl (errorDetail r.body).toOption.join)
    constructor
    · intro h
      obtain ⟨rfl, rfl⟩ := FetchError.server.inj (Except.error.inj h)
      exact ⟨hr, rfl, _, hreports, (shown_iff hreports.fits).2 rfl⟩
    · rintro ⟨-, rfl, reason, hreason, hshown⟩
      rw [(shown_iff hreason.fits).1 hshown, reports_iff.1 hreason]

theorem records_eq_malformed_iff {r : Response} :
    (∃ fault, r.records = .error (.malformed fault)) ↔ r.InRange ∧ ¬∃ e, Carries r.body e := by
  constructor
  · rintro ⟨fault, h⟩
    by_cases hr : r.InRange
    · refine ⟨hr, ?_⟩
      rintro ⟨e, he⟩
      rw [records_of_carries hr he, verdict] at h
      split at h <;> exact nomatch h
    · rw [records_of_not_inRange hr] at h
      exact nomatch h
  · rintro ⟨hr, h⟩
    exact records_of_not_carries hr h

theorem records_eq_rejected_iff {r : Response} {detail : String} :
    r.records = .error (.rejected detail) ↔ r.InRange ∧
      ∃ e, Carries r.body e ∧ e.ok = false ∧ Shown e.detail detail := by
  by_cases hr : r.InRange
  · refine (records_eq_iff hr (by simp)).trans ?_
    have hverdict (e : Envelope) (he : Carries r.body e) : verdict e = .error (.rejected detail) ↔
        e.ok = false ∧ Shown e.detail detail := by
      rw [verdict_eq_rejected_iff, shown_iff he.detail_fits]
    constructor
    · rintro ⟨e, he, h⟩
      exact ⟨hr, e, he, (hverdict e he).1 h⟩
    · rintro ⟨-, e, he, h⟩
      exact ⟨e, he, (hverdict e he).2 h⟩
  · rw [records_of_not_inRange hr]
    exact ⟨nofun, fun h => absurd h.1 hr⟩

theorem records_eq_ok_iff {r : Response} {g : GraphRecords} :
    r.records = .ok g ↔ r.InRange ∧
      ∃ e, Carries r.body e ∧ e.ok = true ∧ g = e.data.getD ⟨[], []⟩ := by
  by_cases hr : r.InRange
  · refine (records_eq_iff hr (by simp)).trans ?_
    simp only [verdict_eq_ok_iff, hr, true_and]
  · rw [records_of_not_inRange hr]
    exact ⟨nofun, fun h => absurd h.1 hr⟩

/-- An answer is refused exactly if its status is no success, with the reason that its body reports.
Otherwise it is malformed exactly if the body carries no envelope, rejected with the envelope's
reason exactly if the verdict is bad, and gives the envelope's records, if any, exactly if it is
good. No reason is empty. -/
theorem records_follow_status_and_envelope (r : Response) :
    ((∃ detail, r.records = .error (.server r.status detail)) ↔ ¬r.InRange) ∧
    (∀ status detail, r.records = .error (.server status detail) ↔ ¬r.InRange ∧ status = r.status ∧
      ∃ reason, Reports r.body reason ∧ Shown reason detail) ∧
    ((∃ fault, r.records = .error (.malformed fault)) ↔ r.InRange ∧ ¬∃ e, Carries r.body e) ∧
    ((∃ detail, r.records = .error (.rejected detail)) ↔ r.InRange ∧
      ∃ e, Carries r.body e ∧ e.ok = false) ∧
    (∀ detail, r.records = .error (.rejected detail) ↔ r.InRange ∧
      ∃ e, Carries r.body e ∧ e.ok = false ∧ Shown e.detail detail) ∧
    (∀ g, r.records = .ok g ↔ r.InRange ∧
      ∃ e, Carries r.body e ∧ e.ok = true ∧ g = e.data.getD ⟨[], []⟩) ∧
    (∀ status, r.records ≠ .error (.server status "")) ∧ r.records ≠ .error (.rejected "") := by
  refine ⟨⟨?_, ?_⟩, fun _ _ => records_eq_server_iff, records_eq_malformed_iff, ⟨?_, ?_⟩,
    fun _ => records_eq_rejected_iff, fun _ => records_eq_ok_iff, ?_, ?_⟩
  · rintro ⟨detail, h⟩
    exact (records_eq_server_iff.1 h).1
  · intro hr
    exact ⟨_, records_of_not_inRange hr⟩
  · rintro ⟨detail, h⟩
    obtain ⟨hr, e, he, hok, -⟩ := records_eq_rejected_iff.1 h
    exact ⟨hr, e, he, hok⟩
  · rintro ⟨hr, e, he, hok⟩
    refine ⟨_, (records_of_carries hr he).trans (verdict_eq_rejected_iff.2 ⟨hok, rfl⟩)⟩
  · intro status h
    obtain ⟨-, -, reason, -, hshown⟩ := records_eq_server_iff.1 h
    exact hshown.ne_empty rfl
  · intro h
    obtain ⟨-, e, -, -, hshown⟩ := records_eq_rejected_iff.1 h
    exact hshown.ne_empty rfl

end Response

end CodeGraph
