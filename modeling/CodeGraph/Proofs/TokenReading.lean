import CodeGraph.Proofs.JsonGrammar
import CodeGraph.Proofs.PlacelessReading

namespace CodeGraph.Json.Reader

theorem codeEscape_eq : codeEscape = (do
    let first ← hexCode
    if Quoted.isLowHalf first then failHere .loneSurrogate
    else if Quoted.isHighHalf first then
      pairMark '\\'
      pairMark 'u'
      let second ← hexCode
      if Quoted.isLowHalf second then return Quoted.paired first second
      else failHere .loneSurrogate
    else return Char.ofNat first) := rfl

namespace Gives

theorem hexCode {digits : List Char} {n : Nat}
    (h : digits.length = 4 ∧ fourHex? digits = some n) (rest : List Char) :
    Gives Reader.hexCode (digits ++ rest) (some (n, rest)) := by
  match digits, h with
  | [a, b, c, d], ⟨_, hcode⟩ =>
    intro cursor hcursor
    have hfour : fourHex? ([a, b, c, d] ++ rest) = some n := hcode
    simp only [Reader.hexCode, hcursor, hfour]
    rfl

theorem pairMark (ch : Char) (rest : List Char) :
    Gives (Reader.pairMark ch) (ch :: rest) (some ((), rest)) := by
  refine bind_some (peek _) ?_
  simp only [List.head?_cons, if_true]
  exact advance ch rest

theorem pairMark_fails {ch : Char} {cs : List Char} (h : cs.head? ≠ some ch) :
    Gives (Reader.pairMark ch) cs none := by
  refine bind_some (peek cs) ?_
  cases hcs : cs.head? with
  | none => exact failHere _ _
  | some x =>
    have hx : x ≠ ch := fun he => h (he ▸ hcs)
    simp only [if_neg hx]
    exact failNext _ _

variable {digits digits' : List Char} {n m : Nat}

theorem codeEscape_low (h : digits.length = 4 ∧ fourHex? digits = some n)
    (hlow : Quoted.isLowHalf n = true) (rest : List Char) :
    Gives Reader.codeEscape (digits ++ rest) none := by
  rw [codeEscape_eq]
  refine bind_some (hexCode h rest) ?_
  rw [if_pos hlow]
  exact failHere _ _

theorem codeEscape_plain (h : digits.length = 4 ∧ fourHex? digits = some n)
    (hlow : ¬Quoted.isLowHalf n = true) (hhigh : ¬Quoted.isHighHalf n = true) (rest : List Char) :
    Gives Reader.codeEscape (digits ++ rest) (some (Char.ofNat n, rest)) := by
  rw [codeEscape_eq]
  refine bind_some (hexCode h rest) ?_
  rw [if_neg hlow, if_neg hhigh]
  exact pure _ _

/-- Behind the first half of a pair, what is no code ends the reading. -/
theorem codeEscape_alone (h : digits.length = 4 ∧ fourHex? digits = some n)
    (hlow : ¬Quoted.isLowHalf n = true) (hhigh : Quoted.isHighHalf n = true) {rest : List Char}
    (hrest : ∀ tail, rest ≠ '\\' :: 'u' :: tail) :
    Gives Reader.codeEscape (digits ++ rest) none := by
  rw [codeEscape_eq]
  refine bind_some (hexCode h rest) ?_
  rw [if_neg hlow, if_pos hhigh]
  by_cases hslash : rest.head? = some '\\'
  · obtain ⟨tail, rfl⟩ := List.head?_eq_some_iff.1 hslash
    refine bind_some (pairMark _ _) (bind_none (pairMark_fails ?_))
    intro hu
    obtain ⟨tail', rfl⟩ := List.head?_eq_some_iff.1 hu
    exact hrest tail' rfl
  · exact bind_none (pairMark_fails hslash)

theorem codeEscape_pair (h : digits.length = 4 ∧ fourHex? digits = some n)
    (hlow : ¬Quoted.isLowHalf n = true) (hhigh : Quoted.isHighHalf n = true)
    (h' : digits'.length = 4 ∧ fourHex? digits' = some m) (rest : List Char) :
    Gives Reader.codeEscape (digits ++ '\\' :: 'u' :: (digits' ++ rest))
      (if Quoted.isLowHalf m then some (Quoted.paired n m, rest) else none) := by
  rw [codeEscape_eq]
  refine bind_some (hexCode h _) ?_
  rw [if_neg hlow, if_pos hhigh]
  refine bind_some (pairMark _ _) (bind_some (pairMark _ _) (bind_some (hexCode h' rest) ?_))
  cases hm : Quoted.isLowHalf m with
  | true => exact pure _ _
  | false => exact failHere _ _

theorem escape_short {letter c : Char} (h : simpleEscape? letter = some c) (rest : List Char) :
    Gives Reader.escape (letter :: rest) (some (c, rest)) := by
  refine bind_some (peek _) ?_
  simp only [List.head?_cons, h]
  exact bind_some (advance letter rest) (pure c rest)

theorem escape_code {rest : List Char} {o : Option (Char × List Char)}
    (h : Gives Reader.codeEscape rest o) : Gives Reader.escape ('u' :: rest) o := by
  refine bind_some (peek _) ?_
  exact bind_some (advance 'u' rest) h

variable (read : List Char)

theorem textStep_quote (rest : List Char) :
    Gives (Reader.textStep read) ('"' :: rest) (some (none, rest)) := by
  refine bind_some (peek _) ?_
  exact bind_some (advance '"' rest) (pure _ _)

theorem textStep_plain {c : Char} (h : c ≠ '"' ∧ c ≠ '\\' ∧ 0x20 ≤ c.toNat) (rest : List Char) :
    Gives (Reader.textStep read) (c :: rest) (some (some (c :: read), rest)) := by
  refine bind_some (peek _) ?_
  simp only [List.head?_cons, if_neg h.1, if_neg h.2.1, if_neg (Nat.not_lt.2 h.2.2)]
  exact bind_some (advance c rest) (pure _ _)

theorem textStep_escape {rest tail : List Char} {c : Char}
    (h : Gives Reader.escape rest (some (c, tail))) :
    Gives (Reader.textStep read) ('\\' :: rest) (some (some (c :: read), tail)) := by
  refine bind_some (peek _) (bind_some (advance '\\' rest) ?_)
  exact bind_some h (pure _ _)

theorem textStep_escape_fails {rest : List Char} (h : Gives Reader.escape rest none) :
    Gives (Reader.textStep read) ('\\' :: rest) none := by
  refine bind_some (peek _) (bind_some (advance '\\' rest) ?_)
  exact bind_none h

end Gives

/-- Only a code begins with a backslash and a `u`. -/
theorem chars_ne_code {q : Quoted} (hq : ∀ digits m h q', q = .code digits m h :: q' → False)
    (rest tail : List Char) : q.chars ++ '"' :: rest ≠ '\\' :: 'u' :: tail := by
  intro h
  match q, hq with
  | [], _ => exact absurd (List.cons.inj h).1 (by decide)
  | .plain c hc :: q, _ => exact hc.2.1 (List.cons.inj h).1
  | .short letter c hc :: q, _ =>
    have hu : letter = 'u' := (List.cons.inj (List.cons.inj h).2).1
    subst hu
    exact absurd (show none = some c from hc) (Option.some_ne_none c).symm
  | .code digits m hm :: q, hq => exact hq digits m hm q rfl

theorem chars_code (digits : List Char) (n : Nat) (h : digits.length = 4 ∧ fourHex? digits = some n)
    (q : Quoted) (rest : List Char) : Quoted.chars (.code digits n h :: q) ++ '"' :: rest =
      '\\' :: 'u' :: (digits ++ (q.chars ++ '"' :: rest)) := by
  simp [Quoted.chars_cons, Piece.chars]

/-- A turn that takes the character `c` from the text. -/
theorem textStep_turn {q : Quoted} {c : Char} {cs read rest : List Char}
    (hstep : Gives (textStep read) cs (some (some (c :: read), q.chars ++ '"' :: rest)))
    (hlt : (q.chars ++ '"' :: rest).length < cs.length)
    (hnext : Loops textStep (c :: read) (q.chars ++ '"' :: rest)
      (q.meant?.map fun cs => (cs.reverse ++ c :: read, rest))) :
    Loops textStep read cs
      ((q.meant?.map (c :: ·)).map fun cs => (cs.reverse ++ read, rest)) := by
  refine Loops.turn hstep hlt ?_
  simpa [Option.map_map, Function.comp_def] using hnext

/-- The loop over a text puts the characters meant before those read, the last of them first. -/
theorem textStep_loops (q : Quoted) (read rest : List Char) :
    Loops textStep read (q.chars ++ '"' :: rest)
      (q.meant?.map fun cs => (cs.reverse ++ read, rest)) := by
  fun_induction Quoted.meant? q generalizing read with
  | case1 => exact Loops.stop (Gives.textStep_quote read rest)
  | case2 c h q ih =>
    exact textStep_turn (Gives.textStep_plain read h _) (Nat.lt_succ_self _) (ih (c :: read))
  | case3 letter c h q ih =>
    change Loops textStep read ('\\' :: letter :: (Quoted.chars q ++ '"' :: rest)) _
    refine textStep_turn (Gives.textStep_escape read (Gives.escape_short h _)) ?_ (ih (c :: read))
    simp only [List.length_cons]
    omega
  | case4 digits n h q hlow =>
    rw [chars_code]
    refine Loops.fail (Gives.textStep_escape_fails read ?_)
    exact Gives.escape_code (Gives.codeEscape_low h hlow _)
  | case5 digits n h hlow hhigh digits' m h' q hlow' ih =>
    have hcode := Gives.codeEscape_pair h hlow hhigh h' (Quoted.chars q ++ '"' :: rest)
    rw [if_pos hlow'] at hcode
    have hstep := Gives.textStep_escape read (Gives.escape_code hcode)
    rw [chars_code, chars_code]
    refine textStep_turn hstep ?_ (ih (Quoted.paired n m :: read))
    simp only [List.length_cons, List.length_append]
    omega
  | case6 digits n h hlow hhigh digits' m h' q hlow' =>
    have hcode := Gives.codeEscape_pair h hlow hhigh h' (Quoted.chars q ++ '"' :: rest)
    rw [if_neg hlow'] at hcode
    rw [chars_code, chars_code]
    exact Loops.fail (Gives.textStep_escape_fails read (Gives.escape_code hcode))
  | case7 digits n h q hlow hhigh hq =>
    rw [chars_code]
    have hcode := Gives.codeEscape_alone h hlow hhigh (chars_ne_code hq rest)
    exact Loops.fail (Gives.textStep_escape_fails read (Gives.escape_code hcode))
  | case8 digits n h q hlow hhigh ih =>
    rw [chars_code]
    have hcode := Gives.codeEscape_plain h hlow hhigh (Quoted.chars q ++ '"' :: rest)
    have hstep := Gives.textStep_escape read (Gives.escape_code hcode)
    refine textStep_turn hstep ?_ (ih (Char.ofNat n :: read))
    simp only [List.length_cons, List.length_append]
    omega

theorem Gives.textBody (q : Quoted) (rest : List Char) :
    Gives Reader.textBody (q.chars ++ '"' :: rest) (q.text?.map fun s => (s, rest)) := by
  have hloop := (textStep_loops q [] rest).gives
  cases hq : q.meant? with
  | none =>
    rw [hq] at hloop
    rw [Quoted.text?, hq]
    exact bind_none hloop
  | some cs =>
    rw [hq] at hloop
    rw [Quoted.text?, hq]
    have hcs : (cs.reverse ++ []).reverse = cs := by simp
    refine bind_some hloop ?_
    rw [hcs]
    exact pure _ _

namespace Gives

theorem skipEscape_short {letter c : Char} (h : simpleEscape? letter = some c)
    (rest : List Char) : Gives Reader.skipEscape (letter :: rest) (some ((), rest)) := by
  refine bind_some (peek _) ?_
  simp only [List.head?_cons, h, Option.isSome_some, if_true]
  exact advance letter rest

theorem skipEscape_code {digits : List Char} {n : Nat}
    (h : digits.length = 4 ∧ fourHex? digits = some n) (rest : List Char) :
    Gives Reader.skipEscape ('u' :: (digits ++ rest)) (some ((), rest)) := by
  refine bind_some (peek _) ?_
  exact bind_some (advance 'u' _) (bind_some (hexCode h rest) (pure _ _))

theorem skipTextStep_escape {rest tail : List Char}
    (h : Gives Reader.skipEscape rest (some ((), tail))) :
    Gives (Reader.skipTextStep ()) ('\\' :: rest) (some (some (), tail)) := by
  refine bind_some (peek _) (bind_some (advance '\\' rest) ?_)
  exact bind_some h (pure _ _)

/-- A skipped text may hold any pieces. -/
theorem skipTextStep_piece (p : Piece) (rest : List Char) :
    Gives (Reader.skipTextStep ()) (p.chars ++ rest) (some (some (), rest)) := by
  cases p with
  | plain c h =>
    refine bind_some (peek _) ?_
    simp only [Piece.chars, List.cons_append, List.nil_append, List.head?_cons, if_neg h.1,
      if_neg h.2.1, if_neg (Nat.not_lt.2 h.2.2)]
    exact bind_some (advance c rest) (pure _ _)
  | short letter c h => exact skipTextStep_escape (skipEscape_short h rest)
  | code digits n h => exact skipTextStep_escape (skipEscape_code h rest)

end Gives

theorem Gives.skipTextBody (q : Quoted) (rest : List Char) :
    Gives Reader.skipTextBody (q.chars ++ '"' :: rest) (some ((), rest)) := by
  have hloop : Loops skipTextStep () (q.chars ++ '"' :: rest) (some ((), rest)) := by
    induction q with
    | nil => exact Loops.stop (bind_some (peek _) (bind_some (advance '"' rest) (pure _ _)))
    | cons p q ih =>
      have hpos := p.length_chars_pos
      rw [Quoted.chars_cons, List.append_assoc]
      refine Loops.turn (skipTextStep_piece p _) ?_ ih
      simp only [List.length_append]
      omega
  exact hloop.gives

/-- What may stand behind a number: nothing that goes on with it. -/
def EndsNumber (rest : List Char) : Prop :=
  ∀ c ∈ rest.head?, isDigit c = false ∧ c ≠ '.' ∧ c ≠ 'e' ∧ c ≠ 'E'

def NoDigit (rest : List Char) : Prop := ∀ c ∈ rest.head?, isDigit c = false

theorem isDigit_ne {c x : Char} (hc : isDigit c = true) (hx : isDigit x = false) : c ≠ x := by
  rintro rfl
  rw [hc] at hx
  exact absurd hx (by decide)

theorem EndsNumber.noDigit {rest : List Char} (h : EndsNumber rest) : NoDigit rest :=
  fun c hc => (h c hc).1

theorem EndsNumber.head?_ne {rest : List Char} (h : EndsNumber rest) :
    rest.head? ≠ some '.' ∧ rest.head? ≠ some 'e' ∧ rest.head? ≠ some 'E' :=
  ⟨fun hc => (h _ hc).2.1 rfl, fun hc => (h _ hc).2.2.1 rfl, fun hc => (h _ hc).2.2.2 rfl⟩

theorem takeWhile_digits {ds rest : List Char} (hds : ∀ c ∈ ds, isDigit c = true)
    (hrest : NoDigit rest) :
    (ds ++ rest).takeWhile isDigit = ds ∧ (ds ++ rest).dropWhile isDigit = rest := by
  rw [List.takeWhile_append_of_pos hds, List.dropWhile_append_of_pos hds]
  cases rest with
  | nil => simp
  | cons c rest =>
    have hc : ¬isDigit c = true := by simp [hrest c rfl]
    rw [List.takeWhile_cons_of_neg hc, List.dropWhile_cons_of_neg hc]
    simp

theorem Gives.digits {ds rest : List Char} (hds : ∀ c ∈ ds, isDigit c = true)
    (hrest : NoDigit rest) : Gives Reader.digits (ds ++ rest) (some (ds, rest)) := by
  intro c hc
  obtain ⟨htake, hdrop⟩ := takeWhile_digits hds hrest
  simp only [Reader.digits, outcome, hc, htake, hdrop]

/-- The whole digits of a number, handed on with the next character. -/
def wholeThen {α : Type} (ended : Cause) (next : List Char → Option Char → Reader α) :
    Reader α := do
  match ← peek with
  | none => failHere ended
  | some c =>
    if !isDigit c then failNext .badNumber
    else
      let ds ← if c = '0' then do advance; pure ['0'] else digits
      let ch ← peek
      if c = '0' && ch.any isDigit then failNext .badNumber else next ds ch

/-- What follows the whole digits, as the next character decides. -/
def tailThen {α : Type} (fraction exponent plain : Reader α) (next : Option Char) : Reader α :=
  if next == some '.' then fraction
  else if next == some 'e' || next == some 'E' then exponent
  else plain

/-- A number without fraction and exponent. -/
def plainNumber (negative : Bool) (s : Significand × Bool) : Reader JsonNumber :=
  if s.2 then pure (wholeNumber negative s.1.value) else finishFloat negative s.1

theorem number_eq (negative : Bool) : number negative = wholeThen .endInValue fun ds =>
    tailThen (fractionPart negative (Significand.ofWhole 0 ds).1)
      (exponentPart negative (Significand.ofWhole 0 ds).1)
      (plainNumber negative (Significand.ofWhole 0 ds)) := rfl

theorem skipNumber_eq :
    skipNumber = wholeThen .badNumber fun _ => tailThen skipFraction skipExponent (pure ()) := rfl

namespace Gives

variable (l : Literal)

theorem wholeThen {α : Type} (ended : Cause) {next : List Char → Option Char → Reader α}
    {tail : List Char} (htail : NoDigit tail) {o : Option (α × List Char)}
    (h : Gives (next l.whole tail.head?) tail o) :
    Gives (Reader.wholeThen ended next) (l.whole ++ tail) o := by
  obtain ⟨c, cs, hwhole⟩ := List.exists_cons_of_ne_nil l.isWhole.nonempty
  have hc : isDigit c = true := l.isWhole.isDigits c (by rw [hwhole]; exact List.mem_cons_self)
  have hnext : tail.head?.any isDigit = false := by
    cases hhead : tail.head? with
    | none => rfl
    | some x => exact htail x hhead
  have hpeek : Gives (do
      let ch ← Reader.peek
      if c = '0' && ch.any isDigit then Reader.failNext .badNumber
      else next l.whole ch) tail o := by
    refine bind_some (peek tail) ?_
    rw [hnext, Bool.and_false]
    exact h
  refine bind_some (peek _) ?_
  simp only [hwhole, List.cons_append, List.head?_cons, hc, Bool.not_true, Bool.false_eq_true,
    if_false]
  by_cases hzero : c = '0'
  · have hcs : cs = [] := l.isWhole.noLeadingZero cs (hzero ▸ hwhole)
    rw [hwhole, hcs, hzero] at hpeek
    rw [if_pos hzero, hcs, hzero]
    exact bind_some (advance '0' tail) (bind_some (pure _ _) hpeek)
  · rw [if_neg hzero, ← List.cons_append, ← hwhole]
    exact bind_some (digits l.isWhole.isDigits htail) hpeek

theorem exponentChars_noDigit {rest : List Char} (hrest : EndsNumber rest) :
    NoDigit (l.exponentChars ++ rest) := by
  unfold Literal.exponentChars
  cases l.exponent with
  | none => exact hrest.noDigit
  | some e =>
    intro c hc
    have hmark : c = e.mark := (Option.some.inj hc).symm
    rcases e.isMark with h | h <;> rw [hmark, h] <;> rfl

theorem tail_noDigit {rest : List Char} (hrest : EndsNumber rest) :
    NoDigit (l.fractionChars ++ (l.exponentChars ++ rest)) := by
  unfold Literal.fractionChars
  split
  · exact exponentChars_noDigit l hrest
  · intro c hc
    rw [← Option.some.inj hc]
    rfl

theorem tailThen {α : Type} {fraction exponent plain : Reader α} {rest : List Char}
    (hrest : EndsNumber rest) {o : Option (α × List Char)}
    (hfraction : l.fraction ≠ [] →
      Gives fraction ('.' :: (l.fraction ++ (l.exponentChars ++ rest))) o)
    (hexponent : ∀ e, l.fraction = [] → l.exponent = some e → Gives exponent (e.chars ++ rest) o)
    (hplain : l.fraction = [] → l.exponent = none → Gives plain rest o) :
    Gives (Reader.tailThen fraction exponent plain
      (l.fractionChars ++ (l.exponentChars ++ rest)).head?)
      (l.fractionChars ++ (l.exponentChars ++ rest)) o := by
  unfold Literal.fractionChars Reader.tailThen
  by_cases hf : l.fraction = []
  · rw [if_pos hf, List.nil_append]
    unfold Literal.exponentChars
    cases he : l.exponent with
    | none =>
      have hne := hrest.head?_ne
      rw [List.nil_append, if_neg (by simp [hne.1]), if_neg (by simp [hne.2])]
      exact hplain hf he
    | some e =>
      have hdot : ¬((some e.mark == some '.') = true) := by
        rcases e.isMark with h | h <;> rw [h] <;> decide
      rw [e.head?_chars, if_neg hdot, if_pos e.isMark_beq]
      exact hexponent e hf he
  · rw [if_neg hf]
    exact hfraction hf

theorem finishFloat (negative : Bool) (s : Significand) (rest : List Char) :
    Gives (Reader.finishFloat negative s) rest ((floatOf? negative s).map fun x => (x, rest)) := by
  unfold Reader.finishFloat floatOf?
  cases s.toFloat? with
  | none => exact failHere _ _
  | some x => exact pure _ _

theorem exponentSign (e : Exponent) (rest : List Char) :
    Gives Reader.exponentSign (e.sign ++ (e.digits ++ rest))
      (some (e.below, e.digits ++ rest)) := by
  refine bind_some (peek _) ?_
  unfold Exponent.below
  rcases e.isSign with h | h | h
  · obtain ⟨c, cs, hdigits⟩ := List.exists_cons_of_ne_nil e.nonempty
    have hc : isDigit c = true := e.isDigits c (by rw [hdigits]; exact List.mem_cons_self)
    rw [h, hdigits]
    split
    · next heq => exact absurd (Option.some.inj heq) (isDigit_ne hc rfl)
    · next heq => exact absurd (Option.some.inj heq) (isDigit_ne hc rfl)
    · exact pure _ _
  · rw [h]
    exact bind_some (advance '+' _) (pure _ _)
  · rw [h]
    exact bind_some (advance '-' _) (pure _ _)

theorem exponentPart (e : Exponent) (negative : Bool) (s : Significand) {rest : List Char}
    (hrest : NoDigit rest) : Gives (Reader.exponentPart negative s) (e.chars ++ rest)
      ((e.scaled? negative s).map fun x => (x, rest)) := by
  obtain ⟨c, cs, hdigits⟩ := List.exists_cons_of_ne_nil e.nonempty
  have hc : isDigit c = true := e.isDigits c (by rw [hdigits]; exact List.mem_cons_self)
  rw [e.chars_append]
  refine bind_some (advance e.mark _) (bind_some (exponentSign e rest) (bind_some (peek _) ?_))
  have hhead : (e.digits ++ rest).head? = some c := by rw [hdigits]; rfl
  simp only [hhead, hc, Bool.not_true, Bool.false_eq_true, if_false]
  intro cursor hcursor
  obtain ⟨m, hm, hrest⟩ := outcome_eq_some (digits e.isDigits hrest cursor hcursor)
  simp only [hm]
  unfold Exponent.scaled?
  cases exponentOf 0 0 e.digits with
  | ok n => exact finishFloat negative _ rest m hrest
  | error count =>
    by_cases hlarge : (s.value != 0 && !e.below) = true
    · simp only [if_pos hlarge]
      rfl
    · simp only [if_neg hlarge, outcome, hrest]
      rfl

theorem fractionPart (hfraction : l.fraction ≠ []) (s : Significand × Bool) {rest : List Char}
    (hrest : EndsNumber rest) :
    Gives (Reader.fractionPart l.negative s.1) ('.' :: (l.fraction ++ (l.exponentChars ++ rest)))
      ((l.numberFrom? s).map fun x => (x, rest)) := by
  have hnonempty : l.fraction.isEmpty = false := by simpa using hfraction
  refine bind_some (advance '.' _) (bind_some
    (digits l.isFraction (exponentChars_noDigit l hrest)) (bind_some (peek _) ?_))
  simp only [hnonempty, Bool.false_eq_true, if_false]
  unfold Literal.exponentChars Literal.numberFrom?
  cases l.exponent with
  | none =>
    have hmark : ¬((rest.head? == some 'e' || rest.head? == some 'E') = true) := by
      simp [hrest.head?_ne.2]
    simp only [List.nil_append, if_neg hmark, hfraction, false_and, if_false]
    exact finishFloat _ _ _
  | some e =>
    simp only [e.head?_chars, e.isMark_beq, if_true]
    exact exponentPart e _ _ hrest.noDigit

/-- A number is read up to where it ends, as the number meant. -/
theorem number {rest : List Char} (hrest : EndsNumber rest) :
    Gives (Reader.number l.negative) (l.unsigned ++ rest) (l.number?.map fun x => (x, rest)) := by
  rw [Literal.unsigned, List.append_assoc, List.append_assoc, number_eq]
  refine wholeThen l _ (tail_noDigit l hrest) (tailThen l hrest ?_ ?_ ?_)
  · intro hfraction
    exact fractionPart l hfraction _ hrest
  · intro e hfraction he
    rw [Literal.number?, Literal.numberFrom?, he, hfraction]
    exact exponentPart e _ _ hrest.noDigit
  · intro hfraction he
    rw [Literal.number?, Literal.numberFrom?, he, hfraction]
    unfold Reader.plainNumber
    cases (Significand.ofWhole 0 l.whole).2 with
    | true => exact pure _ _
    | false => exact finishFloat _ _ _

theorem skipExponent (e : Exponent) {rest : List Char} (hrest : NoDigit rest) :
    Gives Reader.skipExponent (e.chars ++ rest) (some ((), rest)) := by
  obtain ⟨c, cs, hdigits⟩ := List.exists_cons_of_ne_nil e.nonempty
  have hc : isDigit c = true := e.isDigits c (by rw [hdigits]; exact List.mem_cons_self)
  have hhead : (e.digits ++ rest).head? = some c := by rw [hdigits]; rfl
  rw [e.chars_append]
  refine bind_some (advance e.mark _) (bind_some (exponentSign e rest) (bind_some (peek _) ?_))
  simp only [hhead, hc, if_true, discard_eq]
  exact bind_some (digits e.isDigits hrest) (pure _ _)

theorem skipFraction (hfraction : l.fraction ≠ []) {rest : List Char} (hrest : EndsNumber rest) :
    Gives Reader.skipFraction ('.' :: (l.fraction ++ (l.exponentChars ++ rest)))
      (some ((), rest)) := by
  have hnonempty : l.fraction.isEmpty = false := by simpa using hfraction
  refine bind_some (advance '.' _) (bind_some
    (digits l.isFraction (exponentChars_noDigit l hrest)) ?_)
  simp only [hnonempty, Bool.false_eq_true, if_false]
  refine bind_some (peek _) ?_
  unfold Literal.exponentChars
  cases l.exponent with
  | none =>
    have hmark : ¬((rest.head? == some 'e' || rest.head? == some 'E') = true) := by
      simp [hrest.head?_ne.2]
    simp only [List.nil_append, if_neg hmark]
    exact pure _ _
  | some e =>
    simp only [e.head?_chars, e.isMark_beq, if_true]
    exact skipExponent e hrest.noDigit

theorem skipNumber {rest : List Char} (hrest : EndsNumber rest) :
    Gives Reader.skipNumber (l.unsigned ++ rest) (some ((), rest)) := by
  rw [Literal.unsigned, List.append_assoc, List.append_assoc, skipNumber_eq]
  refine wholeThen l _ (tail_noDigit l hrest) (tailThen l hrest ?_ ?_ ?_)
  · intro hfraction
    exact skipFraction l hfraction hrest
  · intro e _ _
    exact skipExponent e hrest.noDigit
  · intro _ _
    exact pure _ _

end Gives

end CodeGraph.Json.Reader
