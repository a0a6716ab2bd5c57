import CodeGraph.Proofs.RecordReading

namespace CodeGraph.Json

namespace Reader

theorem fourHex?_eq_some {cs : List Char} {n : Nat} (h : fourHex? cs = some n) :
    fourHex? (cs.take 4) = some n ∧ (cs.take 4).length = 4 := by
  match cs, h with
  | _ :: _ :: _ :: _ :: _, h => exact ⟨h, rfl⟩

theorem Reads.hexCode {cs rest : List Char} {n : Nat} (h : Reads Reader.hexCode cs n rest) :
    ∃ digits hdigits, '\\' :: 'u' :: cs = (Piece.code digits n hdigits).chars ++ rest := by
  obtain ⟨c, c', rfl, rfl, h⟩ := h
  unfold Reader.hexCode at h
  split at h
  · next m hm =>
    obtain ⟨rfl, rfl⟩ := Prod.mk.inj (Except.ok.inj h)
    obtain ⟨hfour, hlength⟩ := fourHex?_eq_some hm
    refine ⟨c.rest.take 4, ⟨hlength, hfour⟩, ?_⟩
    simp [Piece.chars]
  · split at h <;> cases h

variable {α : Type} {cs rest : List Char}

namespace Reads

theorem pairMark {wanted : Char} {u : Unit} (h : Reads (Reader.pairMark wanted) cs u rest) :
    cs = wanted :: rest := by
  replace h := h.bind_of_gives (Gives.peek cs)
  cases cs with
  | nil => exact absurd h (Gives.failHere _ _).not_reads
  | cons c cs =>
    by_cases hc : c = wanted
    · simp only [List.head?_cons, if_pos hc] at h
      obtain ⟨-, rfl⟩ := Prod.mk.inj (Option.some.inj ((Gives.advance c cs).eq_of_reads h))
      rw [hc]
    · simp only [List.head?_cons, if_neg hc] at h
      exact absurd h (Gives.failNext _ _).not_reads

/-- A code, alone or as half of a pair, is one piece or two. -/
theorem codeEscape {c : Char} (h : Reads Reader.codeEscape cs c rest) :
    ∃ p q, '\\' :: 'u' :: cs = Quoted.chars (p :: q) ++ rest := by
  obtain ⟨first, mid, hfirst, h⟩ := h.bind
  obtain ⟨digits, hdigits, hcs⟩ := hexCode hfirst
  split at h
  · exact absurd h (Gives.failHere _ _).not_reads
  · split at h
    · obtain ⟨_, mid₁, hback, h⟩ := h.bind
      obtain ⟨_, mid₂, hu, h⟩ := h.bind
      obtain ⟨second, mid₃, hsecond, h⟩ := h.bind
      obtain ⟨digits₂, hdigits₂, hcs₂⟩ := hexCode hsecond
      have hmid : mid = '\\' :: 'u' :: mid₂ := by rw [pairMark hback, pairMark hu]
      split at h
      · obtain ⟨-, rfl⟩ := h.pure
        refine ⟨.code digits first hdigits, [.code digits₂ second hdigits₂], ?_⟩
        rw [hcs, hmid, hcs₂, Quoted.chars_cons, Quoted.chars_cons, List.append_assoc,
          List.append_assoc]
        rfl
      · exact absurd h (Gives.failHere _ _).not_reads
    · obtain ⟨-, rfl⟩ := h.pure
      refine ⟨.code digits first hdigits, [], ?_⟩
      rw [hcs, Quoted.chars_cons, List.append_assoc]
      rfl

theorem escape {c : Char} (h : Reads Reader.escape cs c rest) :
    ∃ p q, '\\' :: cs = Quoted.chars (p :: q) ++ rest := by
  replace h := h.bind_of_gives (Gives.peek cs)
  cases cs with
  | nil => exact absurd h (Gives.failHere _ _).not_reads
  | cons x cs =>
    simp only [List.head?_cons] at h
    split at h
    · next y hy =>
      replace h := h.bind_of_gives (Gives.advance x cs)
      obtain ⟨-, rfl⟩ := h.pure
      exact ⟨.short x y hy, [], rfl⟩
    · split at h
      · next hx =>
        rw [hx] at h ⊢
        replace h := h.bind_of_gives (Gives.advance 'u' cs)
        exact codeEscape h
      · exact absurd h (Gives.failNext _ _).not_reads

theorem skipEscape {u : Unit} (h : Reads Reader.skipEscape cs u rest) :
    ∃ p q, '\\' :: cs = Quoted.chars (p :: q) ++ rest := by
  replace h := h.bind_of_gives (Gives.peek cs)
  cases cs with
  | nil => exact absurd h (Gives.failHere _ _).not_reads
  | cons x cs =>
    simp only [List.head?_cons] at h
    split at h
    · next hy =>
      obtain ⟨y, hy⟩ := Option.isSome_iff_exists.1 hy
      obtain ⟨-, rfl⟩ := Prod.mk.inj (Option.some.inj ((Gives.advance x cs).eq_of_reads h))
      exact ⟨.short x y hy, [], rfl⟩
    · split at h
      · next hx =>
        rw [hx] at h ⊢
        replace h := h.bind_of_gives (Gives.advance 'u' cs)
        obtain ⟨n, mid, hcode, h⟩ := h.bind
        obtain ⟨-, rfl⟩ := h.pure
        obtain ⟨digits, hdigits, hcs⟩ := hexCode hcode
        refine ⟨.code digits n hdigits, [], ?_⟩
        rw [hcs, Quoted.chars_cons, List.append_assoc]
        rfl
      · exact absurd h (Gives.failNext _ _).not_reads

end Reads

/-- One turn over a text: it ends at the quote, or takes some pieces. -/
def TextTurn {σ : Type} (o : Option σ) (cs mid : List Char) : Prop :=
  (o = none ∧ cs = '"' :: mid) ∨ (o ≠ none ∧ ∃ p q, cs = Quoted.chars (p :: q) ++ mid)

namespace Reads

theorem textStep {read : List Char} {o : Option (List Char)} {mid : List Char}
    (h : Reads (Reader.textStep read) cs o mid) : TextTurn o cs mid := by
  replace h := h.bind_of_gives (Gives.peek cs)
  cases cs with
  | nil => exact absurd h (Gives.failHere _ _).not_reads
  | cons x cs =>
    simp only [List.head?_cons] at h
    split at h
    · next hx =>
      replace h := h.bind_of_gives (Gives.advance x cs)
      obtain ⟨ho, rfl⟩ := h.pure
      exact .inl ⟨ho, by rw [hx]⟩
    · next hquote =>
      split at h
      · next hx =>
        replace h := h.bind_of_gives (Gives.advance x cs)
        obtain ⟨c, mid, hescape, h⟩ := h.bind
        obtain ⟨rfl, rfl⟩ := h.pure
        rw [hx]
        exact .inr ⟨Option.some_ne_none _, escape hescape⟩
      · next hback =>
        split at h
        · exact absurd h (Gives.failNext _ _).not_reads
        · next hcontrol =>
          replace h := h.bind_of_gives (Gives.advance x cs)
          obtain ⟨rfl, rfl⟩ := h.pure
          have hplain := Nat.not_lt.1 hcontrol
          exact .inr ⟨Option.some_ne_none _, .plain x ⟨hquote, hback, hplain⟩, [], rfl⟩

theorem skipTextStep {u : Unit} {o : Option Unit} {mid : List Char}
    (h : Reads (Reader.skipTextStep u) cs o mid) : TextTurn o cs mid := by
  replace h := h.bind_of_gives (Gives.peek cs)
  cases cs with
  | nil => exact absurd h (Gives.failHere _ _).not_reads
  | cons x cs =>
    simp only [List.head?_cons] at h
    split at h
    · next hx =>
      replace h := h.bind_of_gives (Gives.advance x cs)
      obtain ⟨ho, rfl⟩ := h.pure
      exact .inl ⟨ho, by rw [hx]⟩
    · next hquote =>
      split at h
      · next hx =>
        replace h := h.bind_of_gives (Gives.advance x cs)
        obtain ⟨c, mid, hescape, h⟩ := h.bind
        obtain ⟨rfl, rfl⟩ := h.pure
        rw [hx]
        exact .inr ⟨Option.some_ne_none _, skipEscape hescape⟩
      · next hback =>
        split at h
        · exact absurd h (Gives.failHere _ _).not_reads
        · next hcontrol =>
          replace h := h.bind_of_gives (Gives.advance x cs)
          obtain ⟨rfl, rfl⟩ := h.pure
          have hplain := Nat.not_lt.1 hcontrol
          exact .inr ⟨Option.some_ne_none _, .plain x ⟨hquote, hback, hplain⟩, [], rfl⟩

/-- A loop of such turns ends behind the closing quote. -/
theorem pieces {σ : Type} {step : σ → Reader (Option σ)}
    (hstep : ∀ s cs o mid, Reads (step s) cs o mid → TextTurn o cs mid)
    {s t : σ} (h : Reads (Reader.repeatStep step s) cs t rest) :
    ∃ q : Quoted, cs = q.chars ++ '"' :: rest := by
  refine repeatStep (P := fun _ cs rest => ∃ q : Quoted, cs = q.chars ++ '"' :: rest) ?_ ?_ h
  · intro s cs rest h
    rcases hstep s cs none rest h with ⟨-, hcs⟩ | ⟨hne, -⟩
    · exact ⟨[], hcs⟩
    · exact absurd rfl hne
  · intro s cs s' mid h
    rcases hstep s cs (some s') mid h with ⟨hsome, -⟩ | ⟨-, p, q, rfl⟩
    · exact nomatch hsome
    · constructor
      · have hp := p.length_chars_pos
        simp only [Quoted.chars_cons, List.length_append]
        omega
      · rintro rest ⟨q', rfl⟩
        refine ⟨p :: q ++ q', ?_⟩
        simp [Quoted.chars]

theorem textBody {s : String} (h : Reads Reader.textBody cs s rest) :
    ∃ q : Quoted, cs = q.chars ++ '"' :: rest := by
  obtain ⟨read, h⟩ := h.map
  exact pieces (fun _ _ _ _ h => textStep h) h

theorem skipTextBody {u : Unit} (h : Reads Reader.skipTextBody cs u rest) :
    ∃ q : Quoted, cs = q.chars ++ '"' :: rest :=
  pieces (fun _ _ _ _ h => skipTextStep h) h

theorem digits {ds : List Char} (h : Reads Reader.digits cs ds rest) :
    cs = ds ++ rest ∧ ∀ c ∈ ds, isDigit c = true := by
  obtain ⟨c, c', rfl, rfl, h⟩ := h
  obtain ⟨rfl, rfl⟩ := Prod.mk.inj (Except.ok.inj h)
  refine ⟨List.takeWhile_append_dropWhile.symm, fun c hc => ?_⟩
  exact List.all_eq_true.1 (List.all_takeWhile ..) c hc

theorem digits_ne_nil {c : Char} {ds : List Char} (hc : isDigit c = true)
    (h : Reads Reader.digits (c :: cs) ds rest) : ds ≠ [] := by
  obtain ⟨cursor, c', hcs, rfl, h⟩ := h
  obtain ⟨rfl, -⟩ := Prod.mk.inj (Except.ok.inj h)
  rw [hcs, List.takeWhile_cons_of_pos hc]
  exact List.cons_ne_nil _ _

theorem wholeThen {ended : Cause} {next : List Char → Option Char → Reader α} {a : α}
    (h : Reads (Reader.wholeThen ended next) cs a rest) :
    ∃ ds tail, cs = ds ++ tail ∧ IsWhole ds ∧ Reads (next ds tail.head?) tail a rest := by
  replace h := h.bind_of_gives (Gives.peek cs)
  cases cs with
  | nil => exact absurd h (Gives.failHere _ _).not_reads
  | cons c cs =>
    simp only [List.head?_cons] at h
    by_cases hc : isDigit c = true
    · simp only [hc, Bool.not_true, Bool.false_eq_true, if_false] at h
      by_cases hzero : c = '0'
      · simp only [hzero, if_true, decide_true, Bool.true_and] at h
        replace h := h.bind_of_gives (Gives.advance '0' cs)
        replace h := h.bind_of_gives (Gives.pure ['0'] cs)
        replace h := h.bind_of_gives (Gives.peek cs)
        split at h
        · exact absurd h (Gives.failNext _ _).not_reads
        · refine ⟨['0'], cs, by rw [hzero]; rfl, ⟨List.cons_ne_nil _ _, ?_, ?_⟩, h⟩
          · exact List.forall_mem_singleton.2 (by decide)
          · exact fun _ hcs => (List.cons.inj hcs).2.symm
      · simp only [hzero, if_false, decide_false, Bool.false_and] at h
        obtain ⟨ds, mid, hds, h⟩ := h.bind
        replace h := h.bind_of_gives (Gives.peek mid)
        obtain ⟨hcs, hdigits⟩ := digits hds
        refine ⟨ds, mid, hcs, ⟨digits_ne_nil hc hds, hdigits, ?_⟩, h⟩
        intro tail htail
        rw [htail] at hcs
        exact absurd (List.cons.inj hcs).1 hzero
    · simp only [hc, Bool.not_false, if_true] at h
      exact absurd h (Gives.failNext _ _).not_reads

def TakesExponent (r : Reader α) : Prop :=
  ∀ ⦃mark cs a rest⦄, mark = 'e' ∨ mark = 'E' → Reads r (mark :: cs) a rest →
    ∃ e : Exponent, mark :: cs = e.chars ++ rest

/-- A reader of a fraction, from its point on, takes digits and perhaps an exponent. -/
def TakesFraction (r : Reader α) : Prop :=
  ∀ ⦃cs a rest⦄, Reads r ('.' :: cs) a rest → ∃ ds, ∃ e : Option Exponent, ds ≠ [] ∧
    (∀ c ∈ ds, isDigit c = true) ∧ cs = ds ++ (e.elim [] Exponent.chars ++ rest)

theorem cons_of_mark (h : (cs.head? == some 'e' || cs.head? == some 'E') = true) :
    ∃ mark tail, cs = mark :: tail ∧ (mark = 'e' ∨ mark = 'E') := by
  cases cs with
  | nil => exact absurd h (by decide)
  | cons mark tail => exact ⟨mark, tail, rfl, by simpa using h⟩

/-- What is read of a number behind its sign is a literal. -/
theorem literal {ended : Cause} {fraction exponent plain : List Char → Reader α} {a : α}
    (hfraction : ∀ ds, TakesFraction (fraction ds)) (hexponent : ∀ ds, TakesExponent (exponent ds))
    (hplain : ∀ ds cs a rest, Reads (plain ds) cs a rest → rest = cs)
    (h : Reads (Reader.wholeThen ended fun ds => tailThen (fraction ds) (exponent ds) (plain ds))
      cs a rest) (negative : Bool) :
    ∃ l : Literal, l.negative = negative ∧ cs = l.unsigned ++ rest := by
  obtain ⟨ds, tail, rfl, hds, h⟩ := wholeThen h
  unfold tailThen at h
  split at h
  · next hpoint =>
    obtain ⟨tail, rfl⟩ := List.head?_eq_some_iff.1 (eq_of_beq hpoint)
    obtain ⟨fs, e, hne, hfs, rfl⟩ := hfraction ds h
    refine ⟨⟨negative, ds, fs, e, hds, hfs⟩, rfl, ?_⟩
    cases e <;>
      simp [Literal.unsigned, Literal.fractionChars, Literal.exponentChars, hne]
  · split at h
    · next hbeq =>
      obtain ⟨mark, tail, rfl, hmark⟩ := cons_of_mark hbeq
      obtain ⟨e, he⟩ := hexponent ds hmark h
      refine ⟨⟨negative, ds, [], some e, hds, List.forall_mem_nil _⟩, rfl, ?_⟩
      simp [Literal.unsigned, Literal.fractionChars, Literal.exponentChars, he]
    · obtain rfl := hplain ds _ _ _ h
      refine ⟨⟨negative, ds, [], none, hds, List.forall_mem_nil _⟩, rfl, ?_⟩
      simp [Literal.unsigned, Literal.fractionChars, Literal.exponentChars]

theorem finishFloat {negative : Bool} {s : Significand} {n : JsonNumber}
    (h : Reads (Reader.finishFloat negative s) cs n rest) : rest = cs := by
  unfold Reader.finishFloat at h
  split at h
  · exact h.pure.2
  · exact absurd h (Gives.failHere _ _).not_reads

theorem exponentSign {below : Bool} (h : Reads Reader.exponentSign cs below rest) :
    ∃ sign, cs = sign ++ rest ∧ (sign = [] ∨ sign = ['+'] ∨ sign = ['-']) := by
  replace h := h.bind_of_gives (Gives.peek cs)
  split at h
  · next hplus =>
    obtain ⟨tail, rfl⟩ := List.head?_eq_some_iff.1 hplus
    replace h := h.bind_of_gives (Gives.advance '+' tail)
    obtain ⟨-, rfl⟩ := h.pure
    exact ⟨['+'], rfl, .inr (.inl rfl)⟩
  · next hminus =>
    obtain ⟨tail, rfl⟩ := List.head?_eq_some_iff.1 hminus
    replace h := h.bind_of_gives (Gives.advance '-' tail)
    obtain ⟨-, rfl⟩ := h.pure
    exact ⟨['-'], rfl, .inr (.inr rfl)⟩
  · obtain ⟨-, rfl⟩ := h.pure
    exact ⟨[], rfl, .inl rfl⟩

/-- The digits of an exponent make one, with the mark and the sign before them. -/
theorem exponent_of_digits {mark c : Char} {sign tail ds : List Char}
    (hmark : mark = 'e' ∨ mark = 'E') (hsign : sign = [] ∨ sign = ['+'] ∨ sign = ['-'])
    (hc : isDigit c = true) (h : Reads Reader.digits (c :: tail) ds rest) :
    ∃ e : Exponent, mark :: (sign ++ c :: tail) = e.chars ++ rest := by
  obtain ⟨htail, hdigits⟩ := digits h
  refine ⟨⟨mark, sign, ds, hmark, hsign, digits_ne_nil hc h, hdigits⟩, ?_⟩
  rw [Exponent.chars_append, htail]

theorem exponentPart (negative : Bool) (s : Significand) :
    TakesExponent (Reader.exponentPart negative s) := by
  intro mark cs n rest hmark h
  replace h := h.bind_of_gives (Gives.advance mark cs)
  obtain ⟨below, mid, hread, h⟩ := h.bind
  obtain ⟨sign, hcs, hsign⟩ := exponentSign hread
  rw [hcs]
  replace h := h.bind_of_gives (Gives.peek mid)
  cases mid with
  | nil => exact absurd h (Gives.failHere _ _).not_reads
  | cons c tail =>
    simp only [List.head?_cons] at h
    split at h
    · exact absurd h (Gives.failNext _ _).not_reads
    · next hc =>
      replace hc : isDigit c = true := by simpa using hc
      obtain ⟨cursor, c', hcursor, hrest, h⟩ := h
      -- the digits are read apart, since a fault in them is placed among them
      obtain ⟨ds, after, hds⟩ : ∃ ds after, Reader.digits cursor = .ok (ds, after) := ⟨_, _, rfl⟩
      simp only [hds] at h
      have hreads : Reads Reader.digits (c :: tail) ds after.rest :=
        ⟨cursor, after, hcursor, rfl, hds⟩
      suffices hafter : c'.rest = after.rest by
        rw [← hrest, hafter]
        exact exponent_of_digits hmark hsign hc hreads
      split at h
      · exact finishFloat ⟨after, c', rfl, rfl, h⟩
      · split at h
        · exact nomatch h
        · rw [(Prod.mk.inj (Except.ok.inj h)).2]

theorem fractionPart (negative : Bool) (s : Significand) :
    TakesFraction (Reader.fractionPart negative s) := by
  intro cs n rest h
  replace h := h.bind_of_gives (Gives.advance '.' cs)
  obtain ⟨ds, mid, hds, h⟩ := h.bind
  obtain ⟨hcs, hdigits⟩ := digits hds
  rw [hcs]
  replace h := h.bind_of_gives (Gives.peek mid)
  split at h
  · split at h
    · exact absurd h (Gives.failHere _ _).not_reads
    · exact absurd h (Gives.failNext _ _).not_reads
  · next hne =>
    replace hne : ds ≠ [] := by simpa using hne
    dsimp only at h
    split at h
    · next hbeq =>
      obtain ⟨mark, tail, rfl, hmark⟩ := cons_of_mark hbeq
      obtain ⟨e, he⟩ := exponentPart _ _ hmark h
      exact ⟨ds, some e, hne, hdigits, by rw [he]; rfl⟩
    · obtain rfl := finishFloat h
      exact ⟨ds, none, hne, hdigits, rfl⟩

theorem number {negative : Bool} {n : JsonNumber} (h : Reads (Reader.number negative) cs n rest) :
    ∃ l : Literal, l.negative = negative ∧ cs = l.unsigned ++ rest := by
  rw [number_eq] at h
  refine literal (fun ds => fractionPart _ _) (fun ds => exponentPart _ _) ?_ h negative
  intro ds cs n rest h
  unfold plainNumber at h
  split at h
  · exact h.pure.2
  · exact finishFloat h

theorem skipExponent : TakesExponent Reader.skipExponent := by
  intro mark cs n rest hmark h
  replace h := h.bind_of_gives (Gives.advance mark cs)
  obtain ⟨below, mid, hread, h⟩ := h.bind
  obtain ⟨sign, hcs, hsign⟩ := exponentSign hread
  rw [hcs]
  replace h := h.bind_of_gives (Gives.peek mid)
  cases mid with
  | nil => exact absurd h (Gives.failHere _ _).not_reads
  | cons c tail =>
    simp only [List.head?_cons] at h
    split at h
    · next hc =>
      obtain ⟨ds, h⟩ := h.map
      exact exponent_of_digits hmark hsign hc h
    · exact absurd h (Gives.failNext _ _).not_reads

theorem skipFraction : TakesFraction Reader.skipFraction := by
  intro cs n rest h
  replace h := h.bind_of_gives (Gives.advance '.' cs)
  obtain ⟨ds, mid, hds, h⟩ := h.bind
  obtain ⟨hcs, hdigits⟩ := digits hds
  rw [hcs]
  split at h
  · exact absurd h (Gives.failNext _ _).not_reads
  · next hne =>
    replace hne : ds ≠ [] := by simpa using hne
    replace h := h.bind_of_gives (Gives.peek mid)
    split at h
    · next hbeq =>
      obtain ⟨mark, tail, rfl, hmark⟩ := cons_of_mark hbeq
      obtain ⟨e, he⟩ := skipExponent hmark h
      exact ⟨ds, some e, hne, hdigits, by rw [he]; rfl⟩
    · obtain ⟨-, rfl⟩ := h.pure
      exact ⟨ds, none, hne, hdigits, rfl⟩

theorem skipNumber {u : Unit} (h : Reads Reader.skipNumber cs u rest) (negative : Bool) :
    ∃ l : Literal, l.negative = negative ∧ cs = l.unsigned ++ rest := by
  rw [skipNumber_eq] at h
  exact literal (fun _ => skipFraction) (fun _ => skipExponent) (fun _ _ _ _ h => h.pure.2) h
    negative

/-- A reader that looks at the next character past blanks, and needs one. -/
theorem peekChar {k : Option Char → Reader α} {a : α} (hnone : ∀ cs, Gives (k none) cs none)
    (h : Reads (Reader.peekPastBlanks >>= k) cs a rest) :
    ∃ blanks c tail, cs = blanks ++ c :: tail ∧ IsBlank blanks ∧
      Reads (k (some c)) (c :: tail) a rest := by
  obtain ⟨blanks, mid, hcs, hblanks, h⟩ := h.peekPastBlanks
  cases mid with
  | nil => exact absurd h (hnone []).not_reads
  | cons c tail => exact ⟨blanks, c, tail, hcs, hblanks, h⟩

theorem nextItem {first b : Bool} {mid : List Char} (h : Reads (Reader.nextItem first) cs b mid) :
    (b = false ∧ ∃ blanks tail, cs = blanks ++ mid ∧ IsBlank blanks ∧ mid = ']' :: tail) ∨
      (b = true ∧
        ∃ gap blanks, cs = gap ++ (blanks ++ mid) ∧ IsGap first gap ∧ IsBlank blanks) := by
  obtain ⟨blanks, c, tail, hcs, hblanks, h⟩ := peekChar (fun cs => Gives.failNext _ cs) h
  dsimp only at h
  split at h
  · next hclose =>
    obtain ⟨rfl, rfl⟩ := h.pure
    exact .inl ⟨rfl, blanks, tail, hcs, hblanks, by rw [hclose]⟩
  · cases first with
    | true =>
      obtain ⟨rfl, rfl⟩ := h.pure
      exact .inr ⟨rfl, [], blanks, hcs, rfl, hblanks⟩
    | false =>
      simp only [Bool.false_eq_true, if_false] at h
      split at h
      · next hcomma =>
        replace h := h.bind_of_gives (Gives.advance c tail)
        obtain ⟨blanks₂, c₂, tail₂, htail, hblanks₂, h⟩ :=
          peekChar (fun cs => Gives.failNext _ cs) h
        dsimp only at h
        split at h
        · exact absurd h (Gives.failNext _ _).not_reads
        · obtain ⟨rfl, rfl⟩ := h.pure
          refine .inr ⟨rfl, blanks ++ [','], blanks₂, ?_, ⟨blanks, rfl, hblanks⟩, hblanks₂⟩
          rw [hcs, hcomma, htail, List.append_assoc]
          rfl
      · exact absurd h (Gives.failNext _ _).not_reads

theorem closeList {u : Unit} (h : Reads Reader.closeList cs u rest) :
    ∃ blanks, cs = blanks ++ ']' :: rest ∧ IsBlank blanks := by
  obtain ⟨blanks, c, tail, hcs, hblanks, h⟩ := peekChar (fun cs => Gives.failNext _ cs) h
  dsimp only at h
  split at h
  · next hclose =>
    obtain ⟨-, rfl⟩ := Prod.mk.inj (Option.some.inj ((Gives.advance c tail).eq_of_reads h))
    exact ⟨blanks, by rw [hcs, hclose], hblanks⟩
  · split at h
    · replace h := h.bind_of_gives (Gives.advance c tail)
      obtain ⟨_, mid, -, h⟩ := h.bind
      split at h
      · exact absurd h (Gives.failNext _ _).not_reads
      · exact absurd h (Gives.failNext _ _).not_reads
    · exact absurd h (Gives.failNext _ _).not_reads

theorem nextKey {first b : Bool} {mid : List Char} (h : Reads (Reader.nextKey first) cs b mid) :
    (b = false ∧ ∃ blanks tail, cs = blanks ++ mid ∧ IsBlank blanks ∧ mid = '\x7d' :: tail) ∨
      (b = true ∧ ∃ gap blanks tail, cs = gap ++ (blanks ++ mid) ∧ IsGap first gap ∧
        IsBlank blanks ∧ mid = '"' :: tail) := by
  obtain ⟨blanks, c, tail, hcs, hblanks, h⟩ := peekChar (fun cs => Gives.failNext _ cs) h
  dsimp only at h
  split at h
  · next hclose =>
    obtain ⟨rfl, rfl⟩ := h.pure
    exact .inl ⟨rfl, blanks, tail, hcs, hblanks, by rw [hclose]⟩
  · cases first with
    | true =>
      simp only [if_true] at h
      split at h
      · next hquote =>
        obtain ⟨rfl, rfl⟩ := h.pure
        exact .inr ⟨rfl, [], blanks, tail, hcs, rfl, hblanks, by rw [hquote]⟩
      · exact absurd h (Gives.failNext _ _).not_reads
    | false =>
      simp only [Bool.false_eq_true, if_false] at h
      split at h
      · next hcomma =>
        replace h := h.bind_of_gives (Gives.advance c tail)
        obtain ⟨blanks₂, c₂, tail₂, htail, hblanks₂, h⟩ :=
          peekChar (fun cs => Gives.failNext _ cs) h
        dsimp only at h
        split at h
        · next hquote =>
          obtain ⟨rfl, rfl⟩ := h.pure
          refine .inr ⟨rfl, blanks ++ [','], blanks₂, tail₂, ?_, ⟨blanks, rfl, hblanks⟩, hblanks₂,
            by rw [hquote]⟩
          rw [hcs, hcomma, htail, List.append_assoc]
          rfl
        · split at h
          · exact absurd h (Gives.failNext _ _).not_reads
          · exact absurd h (Gives.failNext _ _).not_reads
      · exact absurd h (Gives.failNext _ _).not_reads

theorem colon {u : Unit} (h : Reads Reader.colon cs u rest) :
    ∃ blanks, cs = blanks ++ ':' :: rest ∧ IsBlank blanks := by
  obtain ⟨blanks, c, tail, hcs, hblanks, h⟩ := peekChar (fun cs => Gives.failNext _ cs) h
  dsimp only at h
  split at h
  · next hcolon =>
    obtain ⟨-, rfl⟩ := Prod.mk.inj (Option.some.inj ((Gives.advance c tail).eq_of_reads h))
    exact ⟨blanks, by rw [hcs, hcolon], hblanks⟩
  · exact absurd h (Gives.failNext _ _).not_reads

theorem key {s : String} {tail : List Char} (h : Reads Reader.key ('"' :: tail) s rest) :
    ∃ q : Quoted, '"' :: tail = q.spelling ++ rest := by
  replace h := h.bind_of_gives (Gives.advance '"' tail)
  obtain ⟨q, hq⟩ := textBody h
  exact ⟨q, by rw [q.spelling_append, hq]⟩

end Reads

end Reader

theorem SpellsMember.ne_nil {m : Quoted × Tree} {cs : List Char} (h : SpellsMember m cs) :
    cs ≠ [] := by
  obtain ⟨middle, before, used, rfl, -⟩ := h
  exact List.cons_ne_nil _ _

theorem Spells.ne_nil {t : Tree} {cs : List Char} (h : Spells t cs) : cs ≠ [] := by
  obtain ⟨c, tail, rfl, -⟩ := h.begins
  exact List.cons_ne_nil _ _

theorem IsBlank.append {xs ys : List Char} (hx : IsBlank xs) (hy : IsBlank ys) :
    IsBlank (xs ++ ys) := by
  intro c hc
  exact (List.mem_append.1 hc).elim (hx c) (hy c)

/-- Blanks before elements belong to the first gap. -/
theorem SpellsRun.blank_append {α : Type} {spells : α → List Char → Prop} {first : Bool}
    {as : List α} {blanks inner : List Char} (hb : IsBlank blanks)
    (h : SpellsRun spells first as inner) : SpellsRun spells first as (blanks ++ inner) := by
  cases as with
  | nil => exact hb.append h
  | cons a as =>
    obtain ⟨gap, before, used, tail, rfl, hgap, hbefore, hused, htail⟩ := h
    cases first with
    | true =>
      obtain rfl : gap = [] := hgap
      refine ⟨[], blanks ++ before, used, tail, ?_, rfl, hb.append hbefore, hused, htail⟩
      simp
    | false =>
      obtain ⟨left, rfl, hleft⟩ := hgap
      refine ⟨blanks ++ left ++ [','], before, used, tail, ?_, ⟨_, rfl, hb.append hleft⟩, hbefore,
        hused, htail⟩
      simp

namespace Reader

variable {α β σ : Type} {cs rest : List Char}

/-- What the reader reads, past blanks, is an element. -/
def ReadsElements (spells : β → List Char → Prop) (r : Reader α) : Prop :=
  ∀ ⦃cs a rest⦄, Reads r cs a rest → ∃ blanks b used, cs = blanks ++ (used ++ rest) ∧
    IsBlank blanks ∧ spells b used

/-- What the reader reads, past blanks, is a value. -/
def ReadsValues (r : Reader α) : Prop := ReadsElements Spells r

/-- One turn over a bracket: it stops before the closing character, or takes one element with the
gap before it. -/
def ElementTurn (spells : β → List Char → Prop) (close : Char) (first : σ → Bool) (s : σ)
    (cs : List Char) (o : Option σ) (mid : List Char) : Prop :=
  match o with
  | none => ∃ blanks tail, cs = blanks ++ mid ∧ IsBlank blanks ∧ mid = close :: tail
  | some s' => first s' = false ∧ ∃ gap blanks b used, cs = gap ++ (blanks ++ (used ++ mid)) ∧
      IsGap (first s) gap ∧ IsBlank blanks ∧ spells b used

namespace Reads

/-- A loop of such turns goes over the elements of the bracket. -/
theorem elements {spells : β → List Char → Prop} (hne : ∀ b used, spells b used → used ≠ [])
    {close : Char} {first : σ → Bool} {step : σ → Reader (Option σ)}
    (hstep : ∀ s cs o mid, Reads (step s) cs o mid → ElementTurn spells close first s cs o mid)
    {s t : σ} (h : Reads (Reader.repeatStep step s) cs t rest) :
    ∃ bs inner tail, cs = inner ++ rest ∧ rest = close :: tail ∧
      SpellsRun spells (first s) bs inner := by
  refine repeatStep (P := fun s cs rest => ∃ bs inner tail, cs = inner ++ rest ∧
    rest = close :: tail ∧ SpellsRun spells (first s) bs inner) ?_ ?_ h
  · intro s cs rest h
    obtain ⟨blanks, tail, hcs, hblanks, hrest⟩ := hstep s cs none rest h
    exact ⟨[], blanks, tail, hcs, hrest, hblanks⟩
  · intro s cs s' mid h
    obtain ⟨hfirst, gap, blanks, b, used, rfl, hgap, hblanks, hused⟩ := hstep s cs (some s') mid h
    constructor
    · have hpos := List.length_pos_iff.2 (hne b used hused)
      simp only [List.length_append]
      omega
    · rintro rest ⟨bs, inner, tail, rfl, hrest, hinner⟩
      rw [hfirst] at hinner
      refine ⟨b :: bs, gap ++ (blanks ++ (used ++ inner)), tail, ?_, hrest,
        gap, blanks, used, inner, rfl, hgap, hblanks, hused, hinner⟩
      simp only [List.append_assoc]

theorem itemStep {item : Reader α} (hitem : ReadsValues item) {read : List α}
    {o : Option (List α)} {mid : List Char} (h : Reads (Reader.itemStep item read) cs o mid) :
    ElementTurn Spells ']' List.isEmpty read cs o mid := by
  obtain ⟨more, before, hnext, h⟩ := h.bind
  rcases nextItem hnext with ⟨rfl, hstop⟩ | ⟨rfl, gap, blanks, hcs, hgap, hblanks⟩
  · obtain ⟨rfl, rfl⟩ := h.pure
    exact hstop
  · obtain ⟨a, behind, hread, h⟩ := h.bind
    obtain ⟨rfl, rfl⟩ := h.pure
    obtain ⟨blanks₂, t, used, hbefore, hblanks₂, hused⟩ := hitem hread
    refine ⟨rfl, gap, blanks ++ blanks₂, t, used, ?_, hgap, hblanks.append hblanks₂, hused⟩
    rw [hcs, hbefore, List.append_assoc]

theorem listBody {item : Reader α} (hitem : ReadsValues item) {as : List α}
    (h : Reads (Reader.listBody item) ('[' :: cs) as rest) :
    ∃ items inner, cs = inner ++ ']' :: rest ∧ SpellsItems true items inner := by
  replace h := h.bind_of_gives (Gives.advance '[' cs)
  obtain ⟨read, mid, hloop, h⟩ := h.bind
  obtain ⟨items, inner, tail, hcs, hmid, hinner⟩ :=
    elements (fun _ _ h => h.ne_nil) (fun _ _ _ _ h => itemStep hitem h) hloop.within
  rw [hmid] at h
  replace h := h.bind_of_gives (Gives.closeList (List.forall_mem_nil _) tail)
  obtain ⟨-, rfl⟩ := h.pure
  exact ⟨items, inner, by rw [hcs, hmid], by rw [spellsItems_eq]; exact hinner⟩

/-- A key, a colon and a value make a member. -/
theorem member {value : Reader α} (hvalue : ReadsValues value) {k : String} {u : Unit} {a : α}
    {tail behind before : List Char} (hkey : Reads Reader.key ('"' :: tail) k behind)
    (hcolon : Reads Reader.colon behind u before) (hread : Reads value before a rest) :
    ∃ m used, '"' :: tail = used ++ rest ∧ SpellsMember m used := by
  obtain ⟨q, hq⟩ := key hkey
  obtain ⟨middle, hmiddle, hbm⟩ := colon hcolon
  obtain ⟨blanks, t, used, hbefore, hblanks, hused⟩ := hvalue hread
  refine ⟨(q, t), q.spelling ++ (middle ++ ':' :: (blanks ++ used)), ?_, middle, blanks, used, rfl,
    hbm, hblanks, hused⟩
  rw [hq, hmiddle, hbefore]
  simp only [List.append_assoc, List.cons_append]

theorem memberStep {value : Reader Json} (hvalue : ReadsValues value)
    {s : Bool × List (String × Json)} {o : Option (Bool × List (String × Json))} {mid : List Char}
    (h : Reads (Reader.memberStep value s) cs o mid) :
    ElementTurn SpellsMember '\x7d' Prod.fst s cs o mid := by
  obtain ⟨more, before, hnext, h⟩ := h.bind
  rcases nextKey hnext with ⟨rfl, hstop⟩ | ⟨rfl, gap, blanks, tail, hcs, hgap, hblanks, rfl⟩
  · obtain ⟨rfl, rfl⟩ := h.pure
    exact hstop
  · obtain ⟨k, behind, hkey, h⟩ := h.bind
    obtain ⟨_, before, hcolon, h⟩ := h.bind
    obtain ⟨v, behind, hread, h⟩ := h.bind
    obtain ⟨rfl, rfl⟩ := h.pure
    obtain ⟨m, used, htail, hm⟩ := member hvalue hkey hcolon hread
    exact ⟨rfl, gap, blanks, m, used, by rw [hcs, htail], hgap, hblanks, hm⟩

theorem objectBody {value : Reader Json} (hvalue : ReadsValues value) {ms : List (String × Json)}
    (h : Reads (Reader.objectBody value) ('\x7b' :: cs) ms rest) :
    ∃ members inner, cs = inner ++ '\x7d' :: rest ∧ SpellsMembers true members inner := by
  replace h := h.bind_of_gives (Gives.advance '\x7b' cs)
  obtain ⟨read, mid, hloop, h⟩ := h.bind
  obtain ⟨members, inner, tail, hcs, hmid, hinner⟩ :=
    elements (fun _ _ h => h.ne_nil) (fun _ _ _ _ h => memberStep hvalue h) hloop.within
  rw [hmid] at h
  replace h := h.bind_of_gives (Gives.closeObject tail)
  obtain ⟨-, rfl⟩ := h.pure
  exact ⟨members, inner, by rw [hcs, hmid], (spellsMembers_iff ..).2 hinner⟩

end Reads

/-- What the reader reads from a text that begins with `c` is a value. -/
def TakesValue (r : Reader α) (c : Char) : Prop :=
  ∀ ⦃cs a rest⦄, Reads r (c :: cs) a rest → ∃ t used, c :: cs = used ++ rest ∧ Spells t used

namespace TakesValue

variable {r : Reader α}

theorem word {c : Char} {w : List Char} {t : Tree} (ht : Spells t (c :: w))
    (hr : ∀ cs a rest, Reads r cs a rest → cs = w ++ rest) : TakesValue (do advance; r) c := by
  intro cs a rest h
  replace h := h.bind_of_gives (Gives.advance c cs)
  exact ⟨t, c :: w, by rw [hr cs a rest h]; rfl, ht⟩

theorem number (c : Char) (hr : ∀ cs a rest, Reads r cs a rest →
      ∃ l : Literal, l.negative = false ∧ cs = l.unsigned ++ rest) : TakesValue r c := by
  intro cs a rest h
  obtain ⟨l, hneg, hcs⟩ := hr _ _ _ h
  exact ⟨.number l, l.unsigned, hcs, by simp [Spells, Literal.chars, hneg]⟩

theorem negative (hr : ∀ cs a rest, Reads r cs a rest →
      ∃ l : Literal, l.negative = true ∧ cs = l.unsigned ++ rest) :
    TakesValue (do advance; r) '-' := by
  intro cs a rest h
  replace h := h.bind_of_gives (Gives.advance '-' cs)
  obtain ⟨l, hneg, hcs⟩ := hr _ _ _ h
  exact ⟨.number l, '-' :: l.unsigned, by rw [hcs]; rfl, by simp [Spells, Literal.chars, hneg]⟩

theorem text (hr : ∀ cs a rest, Reads r cs a rest → ∃ q : Quoted, cs = q.chars ++ '"' :: rest) :
    TakesValue (do advance; r) '"' := by
  intro cs a rest h
  replace h := h.bind_of_gives (Gives.advance '"' cs)
  obtain ⟨q, hq⟩ := hr _ _ _ h
  exact ⟨.text q, q.spelling, by rw [hq, q.spelling_append], rfl⟩

theorem list (hr : ∀ cs a rest, Reads r ('[' :: cs) a rest →
      ∃ items inner, cs = inner ++ ']' :: rest ∧ SpellsItems true items inner) :
    TakesValue r '[' := by
  intro cs a rest h
  obtain ⟨items, inner, hcs, hinner⟩ := hr _ _ _ h
  refine ⟨.list items, '[' :: inner ++ [']'], ?_, inner, rfl, hinner⟩
  rw [hcs]
  simp

theorem object (hr : ∀ cs a rest, Reads r ('\x7b' :: cs) a rest →
      ∃ members inner, cs = inner ++ '\x7d' :: rest ∧ SpellsMembers true members inner) :
    TakesValue r '\x7b' := by
  intro cs a rest h
  obtain ⟨members, inner, hcs, hinner⟩ := hr _ _ _ h
  refine ⟨.object members, '\x7b' :: inner ++ ['\x7d'], ?_, inner, rfl, hinner⟩
  rw [hcs]
  simp

end TakesValue

/-- A reader that looks at the first character of a value, and takes one from there. -/
theorem ReadsValues.peek {k : Option Char → Reader α} (hnone : ∀ cs, Gives (k none) cs none)
    (hk : ∀ c, TakesValue (k (some c)) c) : ReadsValues (peekPastBlanks >>= k) := by
  intro cs a rest h
  obtain ⟨blanks, c, tail, rfl, hblanks, h⟩ := h.peekChar hnone
  obtain ⟨t, used, hused, hs⟩ := hk c h
  exact ⟨blanks, t, used, by rw [hused], hblanks, hs⟩

theorem Branches.readsValues {b : Branches α} (hnull : TakesValue b.null 'n')
    (hyes : TakesValue b.yes 't') (hno : TakesValue b.no 'f')
    (hnegative : TakesValue b.negative '-')
    (hplain : ∀ c, TakesValue b.plain c) (htext : TakesValue b.text '"')
    (hlist : TakesValue b.list '[') (hobject : TakesValue b.object '\x7b') :
    ReadsValues b.read := by
  refine ReadsValues.peek (fun cs => Gives.failNext _ cs) fun c => ?_
  dsimp only
  split
  · next h => exact h ▸ hnull
  · split
    · next h => exact h ▸ hyes
    · split
      · next h => exact h ▸ hno
      · split
        · next h => exact h ▸ hnegative
        · split
          · exact hplain c
          · split
            · next h => exact h ▸ htext
            · split
              · next h => exact h ▸ hlist
              · split
                · next h => exact h ▸ hobject
                · exact fun _ _ _ h => absurd h (Gives.failNext _ _).not_reads

theorem ReadsValues.valueWith {list object : Reader Json} (hlist : TakesValue list '[')
    (hobject : TakesValue object '\x7b') : ReadsValues (Reader.valueWith list object) := by
  rw [valueWith_eq]
  refine Branches.readsValues ?_ ?_ ?_ ?_ ?_ ?_ hlist hobject
  · refine TakesValue.word (t := .null) rfl fun cs a rest h => ?_
    obtain ⟨u, h⟩ := h.map
    exact h.word
  · refine TakesValue.word (t := .bool true) rfl fun cs a rest h => ?_
    obtain ⟨u, h⟩ := h.map
    exact h.word
  · refine TakesValue.word (t := .bool false) rfl fun cs a rest h => ?_
    obtain ⟨u, h⟩ := h.map
    exact h.word
  · refine TakesValue.negative fun cs a rest h => ?_
    obtain ⟨n, h⟩ := h.map
    exact h.number
  · refine fun c => TakesValue.number c fun cs a rest h => ?_
    obtain ⟨n, h⟩ := h.map
    exact h.number
  · refine TakesValue.text fun cs a rest h => ?_
    obtain ⟨s, h⟩ := h.map
    exact h.textBody

theorem ReadsValues.value (depth : Nat) : ReadsValues (Reader.value depth) := by
  induction depth with
  | zero =>
    exact ReadsValues.valueWith (fun _ _ _ h => absurd h (Gives.failNext _ _).not_reads)
      (fun _ _ _ h => absurd h (Gives.failNext _ _).not_reads)
  | succ depth ih =>
    refine ReadsValues.valueWith ?_ ?_
    · refine TakesValue.list fun cs j rest h => ?_
      obtain ⟨items, h⟩ := h.map
      exact h.listBody ih
    · refine TakesValue.object fun cs j rest h => ?_
      obtain ⟨members, h⟩ := h.map
      exact h.objectBody ih

section skipping

variable {close : Char} {ended unseparated : Cause} {spells : β → List Char → Prop}
variable {element : Reader Unit}

theorem Reads.skipSeparator {more : Bool}
    (h : Reads (Reader.skipSeparator close ended unseparated) cs more rest) :
    ∃ blanks, cs = blanks ++ (if more then ',' else close) :: rest ∧ IsBlank blanks := by
  obtain ⟨blanks, c, tail, hcs, hblanks, h⟩ := h.peekChar (fun cs => Gives.failNext _ cs)
  dsimp only at h
  split at h
  · next hc =>
    replace h := h.bind_of_gives (Gives.advance c tail)
    obtain ⟨rfl, rfl⟩ := h.pure
    exact ⟨blanks, by rw [hcs, hc]; rfl, hblanks⟩
  · split at h
    · next hc =>
      replace h := h.bind_of_gives (Gives.advance c tail)
      obtain ⟨rfl, rfl⟩ := h.pure
      exact ⟨blanks, by rw [hcs, hc]; rfl, hblanks⟩
    · exact absurd h (Gives.failNext _ _).not_reads

/-- A loop over elements, each with the comma or the closing character behind it. -/
theorem Reads.skipLoop (helement : ReadsElements spells element) {u : Unit}
    (h : Reads (Reader.repeatStep (fun _ => do
        element
        if ← Reader.skipSeparator close ended unseparated then return some () else return none) ())
      cs u rest) :
    ∃ b bs blanks used inner, cs = blanks ++ (used ++ (inner ++ close :: rest)) ∧ IsBlank blanks ∧
      spells b used ∧ SpellsRun spells false bs inner := by
  refine repeatStep (P := fun _ cs rest => ∃ b bs blanks used inner,
    cs = blanks ++ (used ++ (inner ++ close :: rest)) ∧ IsBlank blanks ∧ spells b used ∧
      SpellsRun spells false bs inner) ?_ ?_ h
  · intro _ cs rest h
    obtain ⟨_, mid, hread, h⟩ := h.bind
    obtain ⟨blanks, b, used, hcs, hblanks, hused⟩ := helement hread
    obtain ⟨more, after, hmore, h⟩ := h.bind
    obtain ⟨blanks₂, hmid, hblanks₂⟩ := hmore.skipSeparator
    cases more with
    | true => exact nomatch h.pure.1
    | false =>
      obtain ⟨-, rfl⟩ := h.pure
      exact ⟨b, [], blanks, used, blanks₂, by rw [hcs, hmid]; rfl, hblanks, hused, hblanks₂⟩
  · intro _ cs _ mid h
    obtain ⟨_, behind, hread, h⟩ := h.bind
    obtain ⟨blanks, b, used, hcs, hblanks, hused⟩ := helement hread
    obtain ⟨more, after, hmore, h⟩ := h.bind
    obtain ⟨blanks₂, hbehind, hblanks₂⟩ := hmore.skipSeparator
    cases more with
    | false => exact nomatch h.pure.1
    | true =>
      obtain ⟨-, rfl⟩ := h.pure
      constructor
      · rw [hcs, hbehind]
        simp only [List.length_append, List.length_cons]
        omega
      · rintro rest ⟨b', bs, blanks₃, used₃, inner, rfl, hblanks₃, hused₃, hinner⟩
        refine ⟨b, b' :: bs, blanks, used, blanks₂ ++ [','] ++ (blanks₃ ++ (used₃ ++ inner)), ?_,
          hblanks, hused, blanks₂ ++ [','], blanks₃, used₃, inner, rfl, ⟨blanks₂, rfl, hblanks₂⟩,
          hblanks₃, hused₃, hinner⟩
        rw [hcs, hbehind]
        simp

theorem Reads.skipElements (helement : ReadsElements spells element) {opening : Char} {u : Unit}
    (h : Reads (Reader.skipElements close ended unseparated element) (opening :: cs) u rest) :
    ∃ bs inner, cs = inner ++ close :: rest ∧ SpellsRun spells true bs inner := by
  replace h := h.bind_of_gives (Gives.advance opening cs)
  obtain ⟨blanks, c, tail, hcs, hblanks, h⟩ := h.peekChar (fun cs => Gives.failNext _ cs)
  dsimp only at h
  split at h
  · next hc =>
    obtain ⟨-, rfl⟩ := Prod.mk.inj (Option.some.inj ((Gives.advance c tail).eq_of_reads h))
    exact ⟨[], blanks, by rw [hcs, hc], hblanks⟩
  · obtain ⟨b, bs, blanks₂, used, inner, htail, hblanks₂, hused, hinner⟩ := skipLoop helement h
    refine ⟨b :: bs, blanks ++ blanks₂ ++ (used ++ inner), ?_, [], blanks ++ blanks₂, used, inner,
      rfl, rfl, hblanks.append hblanks₂, hused, hinner⟩
    rw [hcs, htail]
    simp

end skipping

theorem Reads.skipKey {u : Unit} (h : Reads Reader.skipKey cs u rest) :
    ∃ blanks middle, ∃ q : Quoted, cs = blanks ++ (q.spelling ++ (middle ++ ':' :: rest)) ∧
      IsBlank blanks ∧ IsBlank middle := by
  obtain ⟨blanks, c, tail, hcs, hblanks, h⟩ := h.peekChar (fun cs => Gives.failNext _ cs)
  dsimp only at h
  split at h
  · next hc =>
    replace h := h.bind_of_gives (Gives.advance c tail)
    obtain ⟨_, mid, htext, h⟩ := h.bind
    obtain ⟨q, hq⟩ := htext.skipTextBody
    obtain ⟨middle, hmid, hmiddle⟩ := h.colon
    exact ⟨blanks, middle, q, by rw [hcs, hc, hq, hmid, q.spelling_append], hblanks, hmiddle⟩
  · exact absurd h (Gives.failNext _ _).not_reads

theorem ReadsElements.skipMember {value : Reader Unit} (hvalue : ReadsValues value) :
    ReadsElements SpellsMember (do Reader.skipKey; value) := by
  intro cs u rest h
  obtain ⟨_, mid, hkey, h⟩ := h.bind
  obtain ⟨blanks, middle, q, hcs, hblanks, hmiddle⟩ := hkey.skipKey
  obtain ⟨before, t, used, hmid, hbefore, hused⟩ := hvalue h
  refine ⟨blanks, (q, t), q.spelling ++ (middle ++ ':' :: (before ++ used)), ?_, hblanks,
    middle, before, used, rfl, hmiddle, hbefore, hused⟩
  rw [hcs, hmid]
  simp only [List.append_assoc, List.cons_append]

theorem ReadsValues.skipValue (fuel : List Char) : ReadsValues (Reader.skipValue fuel) := by
  induction fuel with
  | nil => exact fun _ _ _ h => absurd h (Gives.failNext _ _).not_reads
  | cons ch fuel ih =>
    rw [skipValue_cons]
    refine Branches.readsValues ?_ ?_ ?_ ?_ ?_ ?_ ?_ ?_
    · exact TakesValue.word (t := .null) rfl fun _ _ _ h => h.word
    · exact TakesValue.word (t := .bool true) rfl fun _ _ _ h => h.word
    · exact TakesValue.word (t := .bool false) rfl fun _ _ _ h => h.word
    · exact TakesValue.negative fun _ _ _ h => h.skipNumber true
    · exact fun c => TakesValue.number c fun _ _ _ h => h.skipNumber false
    · exact TakesValue.text fun _ _ _ h => h.skipTextBody
    · refine TakesValue.list fun cs u rest h => ?_
      obtain ⟨items, inner, hcs, hinner⟩ := h.skipElements ih
      exact ⟨items, inner, hcs, by rw [spellsItems_eq]; exact hinner⟩
    · refine TakesValue.object fun cs u rest h => ?_
      obtain ⟨members, inner, hcs, hinner⟩ := h.skipElements (ReadsElements.skipMember ih)
      exact ⟨members, inner, hcs, (spellsMembers_iff ..).2 hinner⟩

theorem ReadsValues.skip : ReadsValues Reader.skip := by
  rintro cs u rest ⟨c, c', rfl, rfl, h⟩
  exact ReadsValues.skipValue c.rest ⟨c, c', rfl, rfl, h⟩

end Reader

end CodeGraph.Json
