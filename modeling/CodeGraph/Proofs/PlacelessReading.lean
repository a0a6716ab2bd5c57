import CodeGraph.Json.Cursor

namespace CodeGraph.Json.Reader

variable {α β σ : Type}

/-- What was read and what is left, if nothing was wrong. -/
def outcome : Except Failure (α × Cursor) → Option (α × List Char)
  | .ok (a, c) => some (a, c.rest)
  | .error _ => none

/-- On the text `cs`, from any place, the reader gives a value and leaves a rest, or it fails. -/
def Gives (r : Reader α) (cs : List Char) (o : Option (α × List Char)) : Prop :=
  ∀ c : Cursor, c.rest = cs → outcome (r c) = o

theorem outcome_eq_some {e : Except Failure (α × Cursor)} {a : α} {rest : List Char}
    (h : outcome e = some (a, rest)) : ∃ c, e = .ok (a, c) ∧ c.rest = rest := by
  match e, h with
  | .ok (_, c), rfl => exact ⟨c, rfl, rfl⟩

theorem outcome_eq_none {e : Except Failure (α × Cursor)} (h : outcome e = none) :
    ∃ f, e = .error f := by
  match e, h with
  | .error f, _ => exact ⟨f, rfl⟩

theorem bind_apply (r : Reader α) (k : α → Reader β) (c : Cursor) :
    (r >>= k) c = match r c with
      | .ok (a, c') => k a c'
      | .error f => .error f := by
  change StateT.bind r k c = _
  unfold StateT.bind
  cases r c with
  | error f => rfl
  | ok p => rfl

theorem discard_eq (r : Reader α) : discard r = r >>= fun _ => pure () := rfl

namespace Gives

variable {r : Reader α} {k : α → Reader β} {cs rest : List Char} {a : α}

theorem bind_some {o : Option (β × List Char)} (h : Gives r cs (some (a, rest)))
    (hk : Gives (k a) rest o) : Gives (r >>= k) cs o := by
  intro c hc
  obtain ⟨m, hm, hrest⟩ := outcome_eq_some (h c hc)
  rw [bind_apply, hm]
  exact hk m hrest

theorem bind_none (h : Gives r cs none) : Gives (r >>= k) cs none := by
  intro c hc
  obtain ⟨f, hf⟩ := outcome_eq_none (h c hc)
  rw [bind_apply, hf]
  rfl

/-- Two readers in sequence, of which the first may fail. -/
theorem bind {o : Option α} {q : α → Option (β × List Char)}
    (h : Gives r cs (o.map fun a => (a, rest))) (hk : ∀ a, Gives (k a) rest (q a)) :
    Gives (r >>= k) cs (o.bind q) := by
  cases o with
  | none => exact bind_none h
  | some a => exact bind_some h (hk a)

theorem pure (a : α) (cs : List Char) : Gives (Pure.pure a) cs (some (a, cs)) := by
  intro c hc
  rw [← hc]
  rfl

/-- What is made of the value read. -/
theorem map {o : Option α} (f : α → β) (h : Gives r cs (o.map fun a => (a, rest))) :
    Gives (do return f (← r)) cs ((o.map f).map fun b => (b, rest)) := by
  have hk := h.bind (k := fun a => Pure.pure (f a)) fun a => pure (f a) rest
  cases o <;> exact hk

theorem failHere (cause : Cause) (cs : List Char) :
    Gives (Reader.failHere (α := α) cause) cs none := fun _ _ => rfl

theorem failNext (cause : Cause) (cs : List Char) :
    Gives (Reader.failNext (α := α) cause) cs none := fun _ _ => rfl

theorem failFloating (cause : Cause) (cs : List Char) :
    Gives (Reader.failFloating (α := α) cause) cs none := fun _ _ => rfl

theorem within {o : Option (α × List Char)} (leave : Cursor → Position) (h : Gives r cs o) :
    Gives (Reader.within leave r) cs o := by
  intro c hc
  rw [← h c hc, Reader.within]
  match r c with
  | .ok _ => rfl
  | .error (.placed _) => rfl
  | .error (.floating _ _) => rfl

/-- How a bracket is left early is of no account for what is read. -/
theorem within_bind {o : Option (β × List Char)} (leave : Cursor → Position)
    (h : Gives (r >>= k) cs o) : Gives (Reader.within leave r >>= k) cs o := by
  intro c hc
  rw [← h c hc, bind_apply, bind_apply, Reader.within]
  match r c with
  | .ok _ => rfl
  | .error (.placed _) => rfl
  | .error (.floating _ _) => rfl

end Gives

theorem advance_rest (c : Cursor) : c.advance.rest = c.rest.tail := by
  unfold Cursor.advance
  split
  · next h => rw [h]; rfl
  · next h => rw [h]; split <;> rfl

theorem skipBlanksFrom_rest (cs : List Char) (line column : Nat) :
    (Cursor.skipBlanksFrom cs line column).rest = cs.dropWhile Cursor.isBlank := by
  fun_induction Cursor.skipBlanksFrom cs line column with
  | case1 line column => rfl
  | case2 rest line column h ih => rw [List.dropWhile_cons_of_pos h, ih]
  | case3 line column ch rest h hn ih => rw [List.dropWhile_cons_of_pos h, ih]
  | case4 line column ch rest h => rw [List.dropWhile_cons_of_neg h]

theorem skipBlanks_rest (c : Cursor) : c.skipBlanks.rest = c.rest.dropWhile Cursor.isBlank :=
  skipBlanksFrom_rest _ _ _

namespace Gives

theorem peek (cs : List Char) : Gives Reader.peek cs (some (cs.head?, cs)) := by
  intro c hc
  rw [← hc]
  rfl

theorem advance (ch : Char) (cs : List Char) : Gives Reader.advance (ch :: cs) (some ((), cs)) := by
  intro c hc
  change some ((), c.advance.rest) = _
  rw [advance_rest, hc]
  rfl

theorem peekPastBlanks (cs : List Char) :
    Gives Reader.peekPastBlanks cs
      (some ((cs.dropWhile Cursor.isBlank).head?, cs.dropWhile Cursor.isBlank)) := by
  intro c hc
  change some (c.skipBlanks.rest.head?, c.skipBlanks.rest) = _
  rw [skipBlanks_rest, hc]

theorem word (w rest : List Char) : Gives (Reader.word w) (w ++ rest) (some ((), rest)) := by
  induction w with
  | nil => exact pure () rest
  | cons ch w ih =>
    refine bind_some (peek _) ?_
    simp only [List.cons_append, List.head?_cons, if_true]
    exact bind_some (advance ch _) ih

end Gives

/-- From the state `s`, a loop that may turn once for each character gives `o` on the text. -/
def Loops (step : σ → Reader (Option σ)) (s : σ) (cs : List Char) (o : Option (σ × List Char)) :
    Prop :=
  ∀ fuel : List Char, cs.length ≤ fuel.length → Gives (iterate step fuel s) cs o

namespace Loops

variable {step : σ → Reader (Option σ)} {s s' : σ} {cs rest : List Char}
variable {o : Option (σ × List Char)}

theorem gives (h : Loops step s cs o) : Gives (repeatStep step s) cs o := by
  intro c hc
  exact h c.rest (Nat.le_of_eq (congrArg List.length hc.symm)) c hc

theorem stop (h : Gives (step s) cs (some (none, rest))) : Loops step s cs (some (s, rest)) := by
  intro fuel _
  rw [iterate]
  exact Gives.bind_some h (Gives.pure s rest)

theorem fail (h : Gives (step s) cs none) : Loops step s cs none := by
  intro fuel _
  rw [iterate]
  exact Gives.bind_none h

/-- A turn that takes something from the text leaves turns enough for the rest. -/
theorem turn (h : Gives (step s) cs (some (some s', rest))) (hlt : rest.length < cs.length)
    (hnext : Loops step s' rest o) : Loops step s cs o := by
  intro fuel hfuel
  rw [iterate]
  apply Gives.bind_some h
  cases fuel with
  | nil => exact absurd hfuel (by simp only [List.length_nil]; omega)
  | cons ch fuel =>
    apply hnext fuel
    rw [List.length_cons] at hfuel
    omega

end Loops

/-- From some place, the reader reads `a` from the text and leaves `rest`. -/
def Reads (r : Reader α) (cs : List Char) (a : α) (rest : List Char) : Prop :=
  ∃ c c' : Cursor, c.rest = cs ∧ c'.rest = rest ∧ r c = .ok (a, c')

theorem Gives.eq_of_reads {r : Reader α} {cs rest : List Char} {o : Option (α × List Char)} {a : α}
    (h : Gives r cs o) (hr : Reads r cs a rest) : o = some (a, rest) := by
  obtain ⟨c, c', hc, rfl, hok⟩ := hr
  rw [← h c hc, hok]
  rfl

theorem Gives.not_reads {r : Reader α} {cs rest : List Char} {a : α} (h : Gives r cs none) :
    ¬Reads r cs a rest :=
  fun hr => nomatch h.eq_of_reads hr

namespace Reads

variable {r : Reader α} {k : α → Reader β} {cs rest : List Char} {a : α} {b : β}

theorem bind (h : Reads (r >>= k) cs b rest) :
    ∃ a mid, Reads r cs a mid ∧ Reads (k a) mid b rest := by
  obtain ⟨c, c', hc, hc', h⟩ := h
  rw [bind_apply] at h
  match hr : r c, h with
  | .ok (a, m), h => exact ⟨a, m.rest, ⟨c, m, hc, rfl, hr⟩, ⟨m, c', rfl, hc', h⟩⟩

/-- A sequence whose first reader is known. -/
theorem bind_of_gives {mid : List Char} (hg : Gives r cs (some (a, mid)))
    (h : Reads (r >>= k) cs b rest) : Reads (k a) mid b rest := by
  obtain ⟨a', mid', hr, hk⟩ := h.bind
  obtain ⟨rfl, rfl⟩ := Prod.mk.inj (Option.some.inj (hg.eq_of_reads hr))
  exact hk

theorem pure {a' : α} (h : Reads (Pure.pure a) cs a' rest) : a' = a ∧ rest = cs := by
  obtain ⟨rfl, rfl⟩ := Prod.mk.inj (Option.some.inj ((Gives.pure a cs).eq_of_reads h))
  exact ⟨rfl, rfl⟩

theorem map {f : α → β} (h : Reads (do return f (← r)) cs b rest) : ∃ a, Reads r cs a rest := by
  obtain ⟨a, mid, hr, hk⟩ := h.bind
  obtain ⟨-, rfl⟩ := hk.pure
  exact ⟨a, hr⟩

theorem within {leave : Cursor → Position} (h : Reads (Reader.within leave r) cs a rest) :
    Reads r cs a rest := by
  obtain ⟨c, c', hc, hc', h⟩ := h
  refine ⟨c, c', hc, hc', ?_⟩
  rw [Reader.within] at h
  match hr : r c, h with
  | .ok _, h => exact h
  | .error (.placed _), h => exact h

theorem peekPastBlanks {k : Option Char → Reader β}
    (h : Reads (Reader.peekPastBlanks >>= k) cs b rest) :
    ∃ blanks mid, cs = blanks ++ mid ∧ (∀ c ∈ blanks, Cursor.isBlank c = true) ∧
      Reads (k mid.head?) mid b rest := by
  refine ⟨cs.takeWhile Cursor.isBlank, cs.dropWhile Cursor.isBlank, ?_, ?_, ?_⟩
  · exact List.takeWhile_append_dropWhile.symm
  · exact fun c hc => List.all_eq_true.1 (List.all_takeWhile ..) c hc
  · exact h.bind_of_gives (Gives.peekPastBlanks cs)

theorem word {w : List Char} {u : Unit} (h : Reads (Reader.word w) cs u rest) : cs = w ++ rest := by
  induction w generalizing cs with
  | nil =>
    obtain ⟨-, rfl⟩ := h.pure
    rfl
  | cons ch w ih =>
    replace h := h.bind_of_gives (Gives.peek cs)
    cases cs with
    | nil => exact absurd h (Gives.failHere _ _).not_reads
    | cons x cs =>
      by_cases hx : x = ch
      · simp only [List.head?_cons, if_pos hx] at h
        replace h := h.bind_of_gives (Gives.advance x cs)
        rw [hx, ih h, List.cons_append]
      · simp only [List.head?_cons, if_neg hx] at h
        exact absurd h (Gives.failNext _ _).not_reads

/-- What is said of a loop that succeeds, if it holds where the loop stops and is carried back over
a turn. Every turn takes something from the text, so the loop ends by a stop. -/
theorem repeatStep {step : σ → Reader (Option σ)} {P : σ → List Char → List Char → Prop}
    (hstop : ∀ s cs rest, Reads (step s) cs none rest → P s cs rest)
    (hturn : ∀ s cs s' mid, Reads (step s) cs (some s') mid → mid.length < cs.length ∧
      ∀ rest, P s' mid rest → P s cs rest)
    {s t : σ} (h : Reads (Reader.repeatStep step s) cs t rest) : P s cs rest := by
  have hloop (fuel : List Char) (s : σ) (cs : List Char) (hfuel : cs.length ≤ fuel.length)
      (h : Reads (iterate step fuel s) cs t rest) : P s cs rest := by
    induction fuel generalizing s cs with
    | nil =>
      rw [iterate] at h
      obtain ⟨o, mid, hstep, hrest⟩ := h.bind
      cases o with
      | none =>
        obtain ⟨-, rfl⟩ := hrest.pure
        exact hstop s cs rest hstep
      | some s' =>
        have hlt := (hturn s cs s' mid hstep).1
        rw [List.length_nil] at hfuel
        omega
    | cons ch fuel ih =>
      rw [iterate] at h
      obtain ⟨o, mid, hstep, hrest⟩ := h.bind
      cases o with
      | none =>
        obtain ⟨-, rfl⟩ := hrest.pure
        exact hstop s cs rest hstep
      | some s' =>
        obtain ⟨hlt, hback⟩ := hturn s cs s' mid hstep
        rw [List.length_cons] at hfuel
        exact hback rest (ih s' mid (by omega) hrest)
  obtain ⟨c, c', rfl, rfl, h⟩ := h
  exact hloop c.rest s c.rest (Nat.le_refl _) ⟨c, c', rfl, rfl, h⟩

end Reads

end CodeGraph.Json.Reader
