import CodeGraph.Proofs.CompactTexts

namespace CodeGraph.Json

/-- No piece is the beginning of another one. -/
theorem Piece.append_inj {p p' : Piece} {rest rest' : List Char}
    (h : p.chars ++ rest = p'.chars ++ rest') : p = p' ∧ rest = rest' := by
  cases p with
  | plain c hc =>
    cases p' with
    | plain c' hc' =>
      obtain ⟨rfl, hrest⟩ := List.cons.inj h
      exact ⟨rfl, hrest⟩
    | short letter c' hletter => exact absurd (List.cons.inj h).1 hc.2.1
    | code digits unit hdigits => exact absurd (List.cons.inj h).1 hc.2.1
  | short letter c hletter =>
    cases p' with
    | plain c' hc' => exact absurd (List.cons.inj h).1.symm hc'.2.1
    | short letter' c' hletter' =>
      obtain ⟨-, h⟩ := List.cons.inj h
      obtain ⟨rfl, hrest⟩ := List.cons.inj h
      obtain rfl : c = c' := Option.some.inj (hletter.symm.trans hletter')
      exact ⟨rfl, hrest⟩
    | code digits unit hdigits =>
      obtain ⟨-, h⟩ := List.cons.inj h
      obtain ⟨rfl, -⟩ := List.cons.inj h
      cases hletter
  | code digits unit hdigits =>
    cases p' with
    | plain c' hc' => exact absurd (List.cons.inj h).1.symm hc'.2.1
    | short letter c' hletter =>
      obtain ⟨-, h⟩ := List.cons.inj h
      obtain ⟨rfl, -⟩ := List.cons.inj h
      cases hletter
    | code digits' unit' hdigits' =>
      obtain ⟨-, h⟩ := List.cons.inj h
      obtain ⟨-, h⟩ := List.cons.inj h
      obtain ⟨rfl, hrest⟩ := List.append_inj h (hdigits.1.trans hdigits'.1.symm)
      obtain rfl : unit = unit' := Option.some.inj (hdigits.2.symm.trans hdigits'.2)
      exact ⟨rfl, hrest⟩

theorem Piece.append_ne_quote (p : Piece) (rest rest' : List Char) :
    p.chars ++ rest ≠ '"' :: rest' := by
  intro h
  cases p with
  | plain c hc => exact hc.1 (List.cons.inj h).1
  | short letter c hletter => exact absurd (List.cons.inj h).1 (by decide)
  | code digits unit hdigits => exact absurd (List.cons.inj h).1 (by decide)

theorem Quoted.append_inj {q q' : Quoted} {rest rest' : List Char}
    (h : q.spelling ++ rest = q'.spelling ++ rest') : q = q' ∧ rest = rest' := by
  rw [spelling_append, spelling_append] at h
  replace h := (List.cons.inj h).2
  induction q generalizing q' with
  | nil =>
    cases q' with
    | nil => exact ⟨rfl, (List.cons.inj h).2⟩
    | cons p' q' =>
      rw [chars_cons, List.append_assoc] at h
      exact absurd h.symm (p'.append_ne_quote _ _)
  | cons p q ih =>
    cases q' with
    | nil =>
      rw [chars_cons, List.append_assoc] at h
      exact absurd h (p.append_ne_quote _ _)
    | cons p' q' =>
      rw [chars_cons, chars_cons, List.append_assoc, List.append_assoc] at h
      obtain ⟨rfl, hq⟩ := Piece.append_inj h
      obtain ⟨rfl, hrest⟩ := ih hq
      exact ⟨rfl, hrest⟩

theorem Exponent.isDigit_sign (e : Exponent) : ∀ c ∈ e.sign, Reader.isDigit c = false := by
  rcases e.isSign with h | h | h <;> rw [h] <;> simp <;> rfl

theorem Exponent.chars_inj {e e' : Exponent} (h : e.chars = e'.chars) : e = e' := by
  have hdigits (e : Exponent) :
      (e.sign ++ e.digits).dropWhile (fun c => !Reader.isDigit c) = e.digits := by
    obtain ⟨c, cs, hcs⟩ := List.exists_cons_of_ne_nil e.nonempty
    have hc : Reader.isDigit c = true := e.isDigits c (by rw [hcs]; exact List.mem_cons_self)
    rw [List.dropWhile_append_of_pos fun c hc => by rw [e.isDigit_sign c hc]; rfl, hcs,
      List.dropWhile_cons_of_neg (by rw [hc]; decide)]
  obtain ⟨hmark, htail⟩ := List.cons.inj h
  replace htail : e.sign ++ e.digits = e'.sign ++ e'.digits := htail
  have hsame : e.digits = e'.digits := by rw [← hdigits e, ← hdigits e', htail]
  have hsign : e.sign = e'.sign := by
    rw [hsame] at htail
    exact List.append_cancel_right htail
  cases e
  cases e'
  simp_all

namespace Literal

variable {l l' : Literal}

theorem exponentChars_ne_dot (l : Literal) (cs : List Char) : l.exponentChars ≠ '.' :: cs := by
  unfold exponentChars
  cases l.exponent with
  | none => exact fun h => by cases h
  | some e =>
    intro h
    have hmark : e.mark = '.' := (List.cons.inj h).1
    rcases e.isMark with he | he <;> rw [he] at hmark <;> cases hmark

theorem exponent_eq_of_chars (h : l.exponentChars = l'.exponentChars) :
    l.exponent = l'.exponent := by
  unfold exponentChars at h
  cases he : l.exponent with
  | none =>
    cases he' : l'.exponent with
    | none => rfl
    | some e' => simp [he, he', Exponent.chars] at h
  | some e =>
    cases he' : l'.exponent with
    | none => simp [he, he', Exponent.chars] at h
    | some e' =>
      rw [he, he'] at h
      rw [Exponent.chars_inj h]

theorem tail_inj (h : l.fractionChars ++ l.exponentChars = l'.fractionChars ++ l'.exponentChars) :
    l.fraction = l'.fraction ∧ l.exponent = l'.exponent := by
  have hends : Reader.EndsNumber [] := fun c hc => by cases hc
  unfold fractionChars at h
  by_cases hf : l.fraction = []
  · by_cases hf' : l'.fraction = []
    · rw [if_pos hf, if_pos hf'] at h
      exact ⟨hf.trans hf'.symm, exponent_eq_of_chars h⟩
    · rw [if_pos hf, if_neg hf'] at h
      exact absurd h (l.exponentChars_ne_dot _)
  · by_cases hf' : l'.fraction = []
    · rw [if_neg hf, if_pos hf'] at h
      exact absurd h.symm (l'.exponentChars_ne_dot _)
    · rw [if_neg hf, if_neg hf'] at h
      -- both fractions end where the digits behind the point do
      have hdigits (l : Literal) := Reader.takeWhile_digits l.isFraction
        (Reader.Gives.exponentChars_noDigit l hends)
      simp only [List.append_nil] at hdigits
      have htail := (List.cons.inj h).2
      change l.fraction ++ l.exponentChars = l'.fraction ++ l'.exponentChars at htail
      refine ⟨?_, exponent_eq_of_chars ?_⟩
      · rw [← (hdigits l).1, ← (hdigits l').1, htail]
      · rw [← (hdigits l).2, ← (hdigits l').2, htail]

theorem unsigned_inj (hnegative : l.negative = l'.negative) (h : l.unsigned = l'.unsigned) :
    l = l' := by
  have hends : Reader.EndsNumber [] := fun c hc => by cases hc
  have hdigits (l : Literal) := Reader.takeWhile_digits l.isWhole.isDigits
    (Reader.Gives.tail_noDigit l hends)
  simp only [List.append_nil] at hdigits
  unfold unsigned at h
  have hwhole : l.whole = l'.whole := by rw [← (hdigits l).1, ← (hdigits l').1, h]
  have htail : l.fractionChars ++ l.exponentChars = l'.fractionChars ++ l'.exponentChars := by
    rw [← (hdigits l).2, ← (hdigits l').2, h]
  obtain ⟨hfraction, hexponent⟩ := tail_inj htail
  cases l
  cases l'
  simp_all

theorem chars_inj (h : l.chars = l'.chars) : l = l' := by
  have hminus (l : Literal) (cs : List Char) : l.unsigned ≠ '-' :: cs := by
    obtain ⟨c, tail, hl, hc⟩ := l.unsigned_head
    rw [hl]
    intro heq
    rw [(List.cons.inj heq).1] at hc
    cases hc
  unfold chars at h
  cases hn : l.negative with
  | true =>
    cases hn' : l'.negative with
    | true =>
      simp only [hn, hn', if_true] at h
      exact unsigned_inj (hn.trans hn'.symm) (List.cons.inj h).2
    | false =>
      simp only [hn, hn', if_true, Bool.false_eq_true, if_false] at h
      exact absurd h.symm (hminus l' _)
  | false =>
    cases hn' : l'.negative with
    | true =>
      simp only [hn, hn', if_true, Bool.false_eq_true, if_false] at h
      exact absurd h (hminus l _)
    | false =>
      simp only [hn, hn', Bool.false_eq_true, if_false] at h
      exact unsigned_inj (hn.trans hn'.symm) h

end Literal

theorem IsBlank.dropWhile_append {blanks : List Char} (hb : IsBlank blanks) {c : Char}
    (hc : Cursor.isBlank c = false) (cs : List Char) :
    (blanks ++ c :: cs).dropWhile Cursor.isBlank = c :: cs := by
  rw [List.dropWhile_append_of_pos hb, List.dropWhile_cons_of_neg (by rw [hc]; decide)]

theorem IsBlank.append_inj {blanks blanks' cs cs' : List Char} {c c' : Char} (hb : IsBlank blanks)
    (hb' : IsBlank blanks') (hc : Cursor.isBlank c = false) (hc' : Cursor.isBlank c' = false)
    (h : blanks ++ c :: cs = blanks' ++ c' :: cs') : c :: cs = c' :: cs' := by
  rw [← hb.dropWhile_append hc, ← hb'.dropWhile_append hc', h]

section runs

variable {α : Type} {spells : α → List Char → Prop} {as as' : List α} {first : Bool}
variable {cs : List Char}

theorem SpellsRun.ends (h : SpellsRun spells false as cs) : EndsValue cs := fun c hc =>
  h.endsValue (.inl rfl) [] c (List.mem_head?_append_of_mem_head? hc)

variable (hspells : ∀ a cs, spells a cs → ∃ c tail, cs = c :: tail ∧ Cursor.isBlank c = false)
include hspells

theorem SpellsRun.not_blank {a : α} (h : SpellsRun spells first (a :: as) cs) : ¬IsBlank cs := by
  obtain ⟨gap, blanks, used, rest, rfl, -, -, hused, -⟩ := h
  obtain ⟨c, tail, rfl, hc⟩ := hspells _ _ hused
  intro hblank
  have hblank := hblank c (by simp)
  rw [hc] at hblank
  cases hblank

/-- Two runs of elements in one text begin alike, if their first elements do. -/
theorem SpellsRun.head_eq {a a' : α} (h : SpellsRun spells first (a :: as) cs)
    (h' : SpellsRun spells first (a' :: as') cs) : ∃ used rest used' rest',
      used ++ rest = used' ++ rest' ∧ spells a used ∧ spells a' used' ∧
      SpellsRun spells false as rest ∧ SpellsRun spells false as' rest' := by
  obtain ⟨gap, blanks, used, rest, hcs, hgap, hblanks, hused, hrest⟩ := h
  obtain ⟨gap', blanks', used', rest', hcs', hgap', hblanks', hused', hrest'⟩ := h'
  refine ⟨used, rest, used', rest', ?_, hused, hused', hrest, hrest'⟩
  obtain ⟨c, tail, rfl, hc⟩ := hspells _ _ hused
  obtain ⟨c', tail', rfl, hc'⟩ := hspells _ _ hused'
  rw [hcs] at hcs'
  cases first with
  | true =>
    obtain rfl : gap = [] := hgap
    obtain rfl : gap' = [] := hgap'
    exact hblanks.append_inj hblanks' hc hc' hcs'
  | false =>
    obtain ⟨before, rfl, hbefore⟩ := hgap
    obtain ⟨before', rfl, hbefore'⟩ := hgap'
    rw [List.append_assoc, List.append_assoc] at hcs'
    have hbehind := (List.cons.inj (hbefore.append_inj hbefore' rfl rfl hcs')).2
    exact hblanks.append_inj hblanks' hc hc' hbehind

end runs

/-- Values of one kind. -/
inductive Tree.Alike : Tree → Tree → Prop
  | null : Alike .null .null
  | bool (b : Bool) : Alike (.bool b) (.bool b)
  | number (l l' : Literal) : Alike (.number l) (.number l')
  | text (q q' : Quoted) : Alike (.text q) (.text q')
  | list (items items' : List Tree) : Alike (.list items) (.list items')
  | object (members members' : List (Quoted × Tree)) : Alike (.object members) (.object members')

/-- The character that a value begins with, where a minus sign stands for all numbers. -/
def Tree.mark : Tree → Char
  | .null => 'n'
  | .bool true => 't'
  | .bool false => 'f'
  | .number _ => '-'
  | .text _ => '"'
  | .list _ => '['
  | .object _ => '\x7b'

theorem Tree.Begins.mark_eq {t : Tree} {c : Char} (h : t.Begins c) :
    t.mark = if Reader.isDigit c then '-' else c := by
  match t, h with
  | .null, rfl | .bool true, rfl | .bool false, rfl | .text _, rfl | .list _, rfl
  | .object _, rfl | .number _, .inl rfl => rfl
  | .number _, .inr hc => exact (if_pos hc).symm

theorem Tree.alike_of_mark : (t t' : Tree) → t.mark = t'.mark → t.Alike t'
  | .null, .null, _ => .null
  | .bool true, .bool true, _ => .bool true
  | .bool false, .bool false, _ => .bool false
  | .number l, .number l', _ => .number l l'
  | .text q, .text q', _ => .text q q'
  | .list items, .list items', _ => .list items items'
  | .object members, .object members', _ => .object members members'

theorem Spells.alike {t t' : Tree} {cs : List Char} (h : Spells t cs) (h' : Spells t' cs) :
    t.Alike t' := by
  obtain ⟨c, tail, rfl, hc⟩ := h.begins
  obtain ⟨c', tail', hcs, hc'⟩ := h'.begins
  obtain ⟨rfl, -⟩ := List.cons.inj hcs
  exact t.alike_of_mark t' (hc.mark_eq.trans hc'.mark_eq.symm)

/-- A value ends where its text does, whatever follows. -/
theorem Spells.append_inj {t t' : Tree} {cs cs' rest rest' : List Char} (h : Spells t cs)
    (h' : Spells t' cs') (hrest : EndsValue rest) (hrest' : EndsValue rest')
    (happend : cs ++ rest = cs' ++ rest') : cs = cs' ∧ rest = rest' := by
  have hbare : IsBlank [] := List.forall_mem_nil _
  have hskip := Reader.Follows.skip hbare h hrest
  have hskip' := Reader.Follows.skip hbare h' hrest'
  rw [← happend] at hskip'
  have hsame := (hskip ⟨_, 1, 0⟩ rfl).symm.trans (hskip' ⟨_, 1, 0⟩ rfl)
  obtain rfl : rest = rest' := (Prod.mk.inj (Option.some.inj hsame)).2
  exact ⟨List.append_cancel_right happend, rfl⟩

theorem SpellsMember.head {m : Quoted × Tree} {cs : List Char} (h : SpellsMember m cs) :
    ∃ c tail, cs = c :: tail ∧ Cursor.isBlank c = false := by
  obtain ⟨middle, before, used, rfl, -⟩ := h
  exact ⟨'"', _, Quoted.spelling_append _ _, rfl⟩

theorem Spells.first {t : Tree} {cs : List Char} (h : Spells t cs) :
    ∃ c tail, cs = c :: tail ∧ Cursor.isBlank c = false := by
  obtain ⟨c, tail, hcs, hc, -⟩ := h.head
  exact ⟨c, tail, hcs, hc⟩

mutual

theorem Tree.eq_of_spells : (t : Tree) → ∀ {t' : Tree} {cs : List Char},
    Spells t cs → Spells t' cs → t = t'
  | .null, t', cs, h, h' => by
    cases h.alike h'
    rfl
  | .bool b, t', cs, h, h' => by
    cases h.alike h'
    rfl
  | .number l, t', cs, h, h' => by
    cases h.alike h' with
    | number _ l' => rw [Literal.chars_inj (h.symm.trans h')]
  | .text q, t', cs, h, h' => by
    cases h.alike h' with
    | text _ q' =>
      have hsame : q.spelling = q'.spelling := h.symm.trans h'
      obtain ⟨rfl, -⟩ := Quoted.append_inj (congrArg (· ++ ['"']) hsame)
      rfl
  | .list items, t', cs, h, h' => by
    cases h.alike h' with
    | list _ items' =>
      obtain ⟨inner, hcs, hinner⟩ := h
      obtain ⟨inner', hcs', hinner'⟩ := h'
      rw [spellsItems_eq] at hinner hinner'
      have hsame := List.append_cancel_right (List.cons.inj (hcs.symm.trans hcs')).2
      rw [items_eq_of_spells items hinner (hsame ▸ hinner')]
  | .object members, t', cs, h, h' => by
    cases h.alike h' with
    | object _ members' =>
      obtain ⟨inner, hcs, hinner⟩ := h
      obtain ⟨inner', hcs', hinner'⟩ := h'
      rw [spellsMembers_iff] at hinner hinner'
      have hsame := List.append_cancel_right (List.cons.inj (hcs.symm.trans hcs')).2
      rw [members_eq_of_spells members hinner (hsame ▸ hinner')]

theorem items_eq_of_spells : (items : List Tree) → ∀ {items' : List Tree} {first : Bool}
    {cs : List Char}, SpellsRun Spells first items cs → SpellsRun Spells first items' cs →
      items = items'
  | [], [], _, _, _, _ => rfl
  | [], _ :: _, _, _, h, h' => absurd h (h'.not_blank fun _ _ => Spells.first)
  | _ :: _, [], _, _, h, h' => absurd h' (h.not_blank fun _ _ => Spells.first)
  | t :: items, t' :: items', _, _, h, h' => by
    obtain ⟨used, rest, used', rest', happend, hused, hused', hrest, hrest'⟩ :=
      h.head_eq (fun _ _ => Spells.first) h'
    obtain ⟨rfl, rfl⟩ := hused.append_inj hused' hrest.ends hrest'.ends happend
    rw [t.eq_of_spells hused hused', items_eq_of_spells items hrest hrest']

theorem members_eq_of_spells : (members : List (Quoted × Tree)) →
    ∀ {members' : List (Quoted × Tree)} {first : Bool} {cs : List Char},
      SpellsRun SpellsMember first members cs → SpellsRun SpellsMember first members' cs →
        members = members'
  | [], [], _, _, _, _ => rfl
  | [], _ :: _, _, _, h, h' => absurd h (h'.not_blank fun _ _ => SpellsMember.head)
  | _ :: _, [], _, _, h, h' => absurd h' (h.not_blank fun _ _ => SpellsMember.head)
  | (q, t) :: members, (q', t') :: members', _, _, h, h' => by
    obtain ⟨_, rest, _, rest', happend, ⟨middle, before, used, rfl, hmiddle, hbefore, hused⟩,
      ⟨middle', before', used', rfl, hmiddle', hbefore', hused'⟩, hrest, hrest'⟩ :=
      h.head_eq (fun _ _ => SpellsMember.head) h'
    simp only [List.append_assoc, List.cons_append] at happend
    obtain ⟨rfl, hbehind⟩ := Quoted.append_inj happend
    have hvalue := (List.cons.inj (hmiddle.append_inj hmiddle' rfl rfl hbehind)).2
    obtain ⟨c, tail, rfl, hc⟩ := hused.first
    obtain ⟨c', tail', rfl, hc'⟩ := hused'.first
    replace hvalue := hbefore.append_inj hbefore' hc hc' hvalue
    obtain ⟨hsame, rfl⟩ := hused.append_inj hused' hrest.ends hrest'.ends hvalue
    rw [t.eq_of_spells hused (hsame ▸ hused'), members_eq_of_spells members hrest hrest']

end

/-- A document has one tree. -/
theorem Writes.eq {t t' : Tree} {s : String} (h : Writes t s) (h' : Writes t' s) : t = t' := by
  obtain ⟨blanks, cs, after, hs, hblanks, hcs, hafter⟩ := h
  obtain ⟨blanks', cs', after', hs', hblanks', hcs', hafter'⟩ := h'
  obtain ⟨c, tail, rfl, hc⟩ := hcs.first
  obtain ⟨c', tail', rfl, hc'⟩ := hcs'.first
  rw [hs] at hs'
  have hsame := hblanks.append_inj hblanks' hc hc' hs'
  obtain ⟨hsame, -⟩ := hcs.append_inj hcs' (Reader.endsValue_of_isBlank hafter)
    (Reader.endsValue_of_isBlank hafter') hsame
  exact t.eq_of_spells hcs (hsame ▸ hcs')

end CodeGraph.Json
