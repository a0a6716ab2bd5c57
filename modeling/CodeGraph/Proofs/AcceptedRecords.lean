import CodeGraph.Proofs.AcceptedTexts
import Mathlib.Data.List.TakeWhile

namespace CodeGraph.Json.Reader

variable {α σ : Type} {cs rest : List Char}

theorem TakesValue.of_fails {r : Reader α} {c : Char} (h : ∀ cs, Gives r cs none) :
    TakesValue r c :=
  fun _ _ _ hr => absurd hr (h _).not_reads

theorem Reads.unsignedLine {negative : Bool} {n : Nat}
    (h : Reads (Reader.unsignedLine negative) cs n rest) :
    ∃ l : Literal, l.negative = negative ∧ cs = l.unsigned ++ rest := by
  obtain ⟨x, mid, hnumber, h⟩ := h.bind
  suffices hrest : rest = mid by
    rw [hrest]
    exact hnumber.number
  cases x with
  | float x => exact absurd h (Gives.failHere _ _).not_reads
  | whole i =>
    dsimp only at h
    split at h
    · exact h.pure.2
    · exact absurd h (Gives.failHere _ _).not_reads

namespace ReadsValues

theorem optional {r : Reader α} (hr : ReadsValues r) : ReadsValues (Reader.optional r) := by
  intro cs a rest h
  obtain ⟨blanks, mid, hcs, hblanks, h⟩ := h.peekPastBlanks
  split at h
  · next hn =>
    obtain ⟨tail, rfl⟩ := List.head?_eq_some_iff.1 hn
    replace h := h.bind_of_gives (Gives.advance 'n' tail)
    obtain ⟨_, h⟩ := h.map
    exact ⟨blanks, .null, ['n', 'u', 'l', 'l'], by rw [hcs, h.word]; rfl, hblanks, rfl⟩
  · obtain ⟨a, h⟩ := h.map
    obtain ⟨blanks₂, t, used, hmid, hblanks₂, hused⟩ := hr h
    exact ⟨blanks ++ blanks₂, t, used, by rw [hcs, hmid, List.append_assoc],
      IsBlank.append hblanks hblanks₂, hused⟩

theorem text : ReadsValues Reader.text := by
  refine peek (fun cs => Gives.failNext _ cs) fun c => ?_
  dsimp only
  split
  · next h => exact h ▸ TakesValue.text fun _ _ _ h => h.textBody
  · exact TakesValue.of_fails (Gives.wrongType _)

theorem boolean : ReadsValues Reader.boolean := by
  refine peek (fun cs => Gives.failNext _ cs) fun c => ?_
  dsimp only
  split
  · next hc =>
    subst hc
    refine TakesValue.word (t := .bool true) rfl fun _ _ _ h => ?_
    obtain ⟨_, h⟩ := h.map
    exact h.word
  · split
    · next hc =>
      subst hc
      refine TakesValue.word (t := .bool false) rfl fun _ _ _ h => ?_
      obtain ⟨_, h⟩ := h.map
      exact h.word
    · exact TakesValue.of_fails (Gives.wrongType _)

theorem lineNumber : ReadsValues Reader.lineNumber := by
  rw [lineNumber_eq]
  refine peek (fun cs => Gives.failNext _ cs) fun c => ?_
  dsimp only
  split
  · next hc =>
    subst hc
    exact TakesValue.negative fun _ _ _ h => h.unsignedLine
  · split
    · exact TakesValue.number c fun _ _ _ h => h.unsignedLine
    · exact TakesValue.of_fails (Gives.wrongType _)

theorem list {item : Nat → Reader α} (hitem : ∀ d, ReadsValues (item d)) (depth : Nat) :
    ReadsValues (Reader.list item depth) := by
  refine peek (fun cs => Gives.failNext _ cs) fun c => ?_
  dsimp only
  split
  · next hc =>
    subst hc
    cases depth with
    | zero => exact TakesValue.of_fails (Gives.failNext _)
    | succ depth => exact TakesValue.list fun _ _ _ h => h.listBody (hitem depth)
  · exact TakesValue.of_fails (Gives.wrongType _)

end ReadsValues

namespace Shape

variable {shape : Shape σ} {depth : Nat}

theorem reads_keyStep (hshape : ∀ f ∈ shape.fields, ∀ d r, ReadsValues (f.read d r))
    {draft : Draft σ} {o : Option (Draft σ)} {mid : List Char}
    (h : Reads (keyStep shape depth draft) cs o mid) :
    ElementTurn SpellsMember '\x7d' (fun draft => !draft.started) draft cs o mid := by
  obtain ⟨more, before, hnext, h⟩ := h.bind
  rcases hnext.nextKey with ⟨rfl, hstop⟩ | ⟨rfl, gap, blanks, tail, hcs, hgap, hblanks, rfl⟩
  · obtain ⟨rfl, rfl⟩ := h.pure
    exact hstop
  · obtain ⟨k, behind, hkey, h⟩ := h.bind
    -- whether the key is known or not, a colon and a value follow
    obtain ⟨draft', hstarted, rfl, m, used, htail, hm⟩ : ∃ draft', draft'.started = true ∧
        o = some draft' ∧ ∃ m used, '"' :: tail = used ++ mid ∧ SpellsMember m used := by
      split at h
      · obtain ⟨_, before, hcolon, h⟩ := h.bind
        obtain ⟨_, behind, hread, h⟩ := h.bind
        obtain ⟨rfl, rfl⟩ := h.pure
        exact ⟨_, rfl, rfl, Reads.member ReadsValues.skip hkey hcolon hread⟩
      · next f hf =>
        split at h
        · exact absurd h (Gives.failFloating _ _).not_reads
        · obtain ⟨_, before, hcolon, h⟩ := h.bind
          obtain ⟨_, behind, hread, h⟩ := h.bind
          obtain ⟨rfl, rfl⟩ := h.pure
          have hvalue := hshape f (List.mem_of_find?_eq_some hf) depth draft.record
          exact ⟨_, rfl, rfl, Reads.member hvalue hkey hcolon hread⟩
    refine ⟨by simp only [hstarted]; rfl, gap, blanks, m, used, by rw [hcs, htail], hgap, hblanks,
      hm⟩

theorem reads_ofMembers (hshape : ∀ f ∈ shape.fields, ∀ d r, ReadsValues (f.read d r)) {blank r : σ}
    (h : Reads (ofMembers shape blank depth) cs r rest) :
    ∃ members inner tail, cs = inner ++ rest ∧ rest = '\x7d' :: tail ∧
      SpellsMembers true members inner := by
  obtain ⟨draft, mid, hloop, h⟩ := h.bind
  obtain ⟨members, inner, tail, hcs, hmid, hinner⟩ :=
    Reads.elements (fun _ _ h => h.ne_nil) (fun _ _ _ _ h => reads_keyStep hshape h) hloop
  split at h
  · exact absurd h (Gives.failFloating _ _).not_reads
  · obtain ⟨-, rfl⟩ := h.pure
    exact ⟨members, inner, tail, hcs, hmid, (spellsMembers_iff ..).2 hinner⟩

theorem reads_ofItems {fields : List (Field σ)}
    (hfields : ∀ f ∈ fields, ∀ d r, ReadsValues (f.read d r)) {count : Nat} {r r' : σ} {u : Unit}
    {mid : List Char} (h : Reads (ofItems shape depth count fields r) cs r' mid)
    (hclose : Reads closeList mid u rest) :
    ∃ items inner, cs = inner ++ ']' :: rest ∧ SpellsRun Spells (count == 0) items inner := by
  induction fields generalizing count r cs with
  | nil =>
    obtain ⟨-, rfl⟩ := h.pure
    obtain ⟨blanks, hmid, hblanks⟩ := hclose.closeList
    exact ⟨[], blanks, hmid, hblanks⟩
  | cons f fields ih =>
    have hrest := fun f hf => hfields f (List.mem_cons_of_mem _ hf)
    obtain ⟨more, before, hnext, h⟩ := h.bind
    rcases hnext.nextItem with ⟨rfl, blanks, tail, hcs, hblanks, -⟩ |
      ⟨rfl, gap, blanks, hcs, hgap, hblanks⟩
    · simp only [Bool.false_eq_true, if_false] at h
      split at h
      · exact absurd h (Gives.failFloating _ _).not_reads
      · obtain ⟨items, inner, hbefore, hinner⟩ := ih hrest h
        exact ⟨items, blanks ++ inner, by rw [hcs, hbefore, List.append_assoc],
          hinner.blank_append hblanks⟩
    · obtain ⟨_, behind, hread, h⟩ := h.bind
      obtain ⟨blanks₂, t, used, hbefore, hblanks₂, hused⟩ := hfields f List.mem_cons_self _ _ hread
      obtain ⟨items, inner, hbehind, hinner⟩ := ih hrest h
      refine ⟨t :: items, gap ++ (blanks ++ blanks₂ ++ (used ++ inner)), ?_, gap, blanks ++ blanks₂,
        used, inner, rfl, hgap, hblanks.append hblanks₂, hused, hinner⟩
      rw [hcs, hbefore, hbehind]
      simp only [List.append_assoc]

/-- Whatever a record is read from is a value, if that holds of its fields. -/
theorem readsValues_read (hshape : ∀ f ∈ shape.fields, ∀ d r, ReadsValues (f.read d r)) (blank : σ)
    (depth : Nat) : ReadsValues (shape.read blank depth) := by
  refine ReadsValues.peek (fun cs => Gives.failNext _ cs) fun c => ?_
  dsimp only
  split
  · next hc =>
    subst hc
    cases depth with
    | zero => exact TakesValue.of_fails (Gives.failNext _)
    | succ depth =>
      refine TakesValue.list fun cs r rest h => ?_
      replace h := h.bind_of_gives (Gives.advance '[' cs)
      obtain ⟨_, mid, hitems, h⟩ := h.bind
      obtain ⟨_, after, hclose, h⟩ := h.bind
      obtain ⟨-, rfl⟩ := h.pure
      obtain ⟨items, inner, hcs, hinner⟩ := reads_ofItems hshape hitems.within hclose
      exact ⟨items, inner, hcs, by rw [spellsItems_eq]; exact hinner⟩
  · split
    · next hc =>
      subst hc
      cases depth with
      | zero => exact TakesValue.of_fails (Gives.failNext _)
      | succ depth =>
        refine TakesValue.object fun cs r rest h => ?_
        replace h := h.bind_of_gives (Gives.advance '\x7b' cs)
        obtain ⟨_, mid, hmembers, h⟩ := h.bind
        obtain ⟨members, inner, tail, hcs, hmid, hinner⟩ := reads_ofMembers hshape hmembers.within
        rw [hmid] at h
        replace h := h.bind_of_gives (Gives.closeObject tail)
        obtain ⟨-, rfl⟩ := h.pure
        exact ⟨members, inner, by rw [hcs, hmid], hinner⟩
    · exact TakesValue.of_fails (Gives.wrongType _)

end Shape

theorem run_eq_ok {r : Reader α} {s : String} {a : α} :
    run r s = .ok a ↔ ∃ c, r (Cursor.ofString s) = .ok (a, c) ∧ IsBlank c.rest := by
  unfold run
  match r (Cursor.ofString s) with
  | .error (.placed _) => simp
  | .error (.floating _ _) => simp
  | .ok (b, c) =>
    have hend : c.skipBlanks.rest.isEmpty = true ↔ IsBlank c.rest := by
      rw [skipBlanks_rest, List.isEmpty_iff]
      exact List.dropWhile_eq_nil_iff
    by_cases hblank : IsBlank c.rest
    · simp [hend.2 hblank, hblank]
    · simp [mt hend.1 hblank, hblank]

theorem endsValue_of_isBlank {rest : List Char} (h : IsBlank rest) : EndsValue rest :=
  fun c hc => .inl (h c (List.mem_of_mem_head? hc))

/-- What is read from a document is what is taken from its tree. -/
theorem run_of_writes {r : Reader α} {f : Tree → Option α} (hf : Follows r f) {t : Tree}
    {s : String} (h : Writes t s) : (run r s).toOption = f t := by
  obtain ⟨blanks, cs, after, hs, hblanks, hcs, hafter⟩ := h
  have hgives := hf hblanks hcs (endsValue_of_isBlank hafter) (Cursor.ofString s) hs
  cases hf : f t with
  | none =>
    rw [hf] at hgives
    obtain ⟨failure, hfailure⟩ := outcome_eq_none hgives
    cases hrun : run r s with
    | error fault => rfl
    | ok a =>
      obtain ⟨c, hc, -⟩ := run_eq_ok.1 hrun
      rw [hfailure] at hc
      exact nomatch hc
  | some a =>
    rw [hf] at hgives
    obtain ⟨c, hok, hrest⟩ := outcome_eq_some hgives
    rw [run_eq_ok.2 ⟨c, hok, by rw [hrest]; exact hafter⟩]
    rfl

/-- A document is read exactly if it writes a tree that the reader takes a value from. -/
theorem run_eq_ok_iff {r : Reader α} {f : Tree → Option α} (hr : ReadsValues r) (hf : Follows r f)
    {s : String} {a : α} : run r s = .ok a ↔ ∃ t, Writes t s ∧ f t = some a := by
  constructor
  · intro hrun
    obtain ⟨c, hread, hafter⟩ := run_eq_ok.1 hrun
    have hreads : Reads r s.toList a c.rest := ⟨Cursor.ofString s, c, rfl, rfl, hread⟩
    obtain ⟨blanks, t, used, hs, hblanks, hused⟩ := hr hreads
    have hwrites : Writes t s := ⟨blanks, used, c.rest, hs, hblanks, hused, hafter⟩
    refine ⟨t, hwrites, ?_⟩
    rw [← run_of_writes hf hwrites, hrun]
    rfl
  · rintro ⟨t, hwrites, ht⟩
    have hrun := run_of_writes hf hwrites
    rw [ht] at hrun
    match run r s, hrun with
    | .ok _, rfl => rfl

end CodeGraph.Json.Reader
