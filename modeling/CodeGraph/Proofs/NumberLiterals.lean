import CodeGraph.Proofs.JsonGrammar
import Mathlib.Data.List.Induction

namespace CodeGraph.Json

theorem Reader.toNat_of_isDigit {c : Char} (h : isDigit c = true) : 48 ≤ c.toNat ∧ c.toNat ≤ 57 :=
  Char.isDigit_iff_toNat.1 h

theorem Significand.digitValue_eq (c : Char) : digitValue c = c.toNat - 48 := rfl

theorem Reader.digitChar_digitValue {c : Char} (h : isDigit c = true) :
    Nat.digitChar (Significand.digitValue c) = c := by
  have hbounds := toNat_of_isDigit h
  have hchar : ∀ n < 10, Nat.digitChar n = Char.ofNat (48 + n) := by decide
  rw [Significand.digitValue_eq, hchar _ (by omega), Nat.add_sub_cancel' hbounds.1,
    Char.ofNat_toNat]

def valueOf (ds : List Char) : Nat := Nat.ofDigitChars 10 ds 0

theorem valueOf_append (ds : List Char) (c : Char) :
    valueOf (ds ++ [c]) = 10 * valueOf ds + Significand.digitValue c := by
  rw [valueOf, Nat.ofDigitChars_append]
  rfl

theorem IsWhole.of_append {ds : List Char} {c : Char} (h : IsWhole (ds ++ [c])) (hds : ds ≠ []) :
    IsWhole ds ∧ 0 < valueOf ds := by
  obtain ⟨d, tail, rfl⟩ := List.exists_cons_of_ne_nil hds
  have hd : d ≠ '0' := by
    rintro rfl
    refine absurd (h.noLeadingZero _ rfl) ?_
    exact List.append_ne_nil_of_right_ne_nil _ (List.cons_ne_nil _ _)
  have hdigits : ∀ x ∈ d :: tail, Reader.isDigit x = true :=
    fun x hx => h.isDigits x (List.mem_append_left _ hx)
  refine ⟨⟨hds, hdigits, fun cs hcs => absurd (List.cons.inj hcs).1 hd⟩, ?_⟩
  have hbounds := Reader.toNat_of_isDigit (hdigits d List.mem_cons_self)
  have hne : d.toNat ≠ 48 := fun h48 => hd (Char.toNat_inj.1 h48)
  rw [valueOf, Nat.ofDigitChars_cons, Nat.ofDigitChars_eq_ofDigitChars_zero]
  have hpos : 0 < 10 ^ tail.length * (10 * 0 + (d.toNat - '0'.toNat)) :=
    Nat.mul_pos (Nat.pow_pos (by decide)) (by have : '0'.toNat = 48 := rfl; omega)
  omega

theorem IsWhole.minus_notMem {ds : List Char} (h : IsWhole ds) : '-' ∉ ds := by
  intro hminus
  exact absurd (h.isDigits _ hminus) (by decide)

/-- Digits without a leading zero are the decimal text of their value. -/
theorem IsWhole.toDigits_valueOf {ds : List Char} (h : IsWhole ds) :
    Nat.toDigits 10 (valueOf ds) = ds := by
  induction ds using List.reverseRecOn with
  | nil => exact absurd rfl h.nonempty
  | append_singleton ds c ih =>
    have hc : Reader.isDigit c = true := h.isDigits c (List.mem_append_right _ List.mem_cons_self)
    have hbounds := Reader.toNat_of_isDigit hc
    have hlt : Significand.digitValue c < 10 := by rw [Significand.digitValue_eq]; omega
    have hlast : Nat.toDigits 10 (Significand.digitValue c) = [c] := by
      rw [Nat.toDigits_of_lt_base hlt, Reader.digitChar_digitValue hc]
    rw [valueOf_append]
    by_cases hds : ds = []
    · rw [hds]
      simpa [valueOf] using hlast
    · obtain ⟨hwhole, hpos⟩ := h.of_append hds
      rw [← Nat.toDigits_append_toDigits (by decide) hpos hlt, ih hwhole, hlast]

theorem valueOf_toDigits (n : Nat) : valueOf (Nat.toDigits 10 n) = n :=
  Nat.ofDigitChars_ten_toDigits

theorem toDigits_noLeadingZero (n : Nat) {cs : List Char} (h : Nat.toDigits 10 n = '0' :: cs) :
    cs = [] := by
  induction n using Nat.strongRecOn generalizing cs with
  | ind n ih =>
    by_cases hn : n < 10
    · rw [Nat.toDigits_of_lt_base hn] at h
      exact (List.cons.inj h).2.symm
    · have hsplit := Nat.toDigits_append_toDigits (b := 10) (n := n / 10) (d := n % 10) (by decide)
        (by omega) (by omega)
      rw [Nat.div_add_mod, h] at hsplit
      obtain ⟨d, ds, hds⟩ :=
        List.exists_cons_of_ne_nil (Nat.toDigits_ne_nil (n := n / 10) (b := 10))
      rw [hds] at hsplit
      have hd : d = '0' := (List.cons.inj hsplit).1
      rw [hd] at hds
      -- so the number without its last digit is zero, which it is not
      have hzero := valueOf_toDigits (n / 10)
      rw [hds, ih (n / 10) (by omega) hds] at hzero
      have : valueOf ['0'] = 0 := by decide
      omega

theorem isWhole_toDigits (n : Nat) : IsWhole (Nat.toDigits 10 n) where
  nonempty := Nat.toDigits_ne_nil
  isDigits _ hc := Nat.isDigit_of_mem_toDigits (by decide) (by decide) hc
  noLeadingZero _ hcs := toDigits_noLeadingZero n hcs

theorem le_ofDigitChars (cs : List Char) (n : Nat) : n ≤ Nat.ofDigitChars 10 cs n := by
  rw [Nat.ofDigitChars_eq_ofDigitChars_zero]
  have := Nat.le_mul_of_pos_left n (Nat.pow_pos (n := cs.length) (show 0 < 10 by decide))
  omega

/-- All digits of a number are read if it fits, and it fits if all of them are. -/
theorem Significand.ofWhole_eq (cs : List Char) (value : Nat) (hvalue : fits value = true) :
    (Nat.ofDigitChars 10 cs value < 0x10000000000000000 →
      ofWhole value cs = (⟨Nat.ofDigitChars 10 cs value, 0⟩, true)) ∧
    ((ofWhole value cs).2 = true → Nat.ofDigitChars 10 cs value < 0x10000000000000000) := by
  induction cs generalizing value with
  | nil => exact ⟨fun _ => rfl, fun _ => of_decide_eq_true hvalue⟩
  | cons c cs ih =>
    have hnext : 10 * value + (c.toNat - '0'.toNat) = value * 10 + digitValue c := by
      rw [Nat.mul_comm]
      rfl
    rw [Nat.ofDigitChars_cons, hnext, ofWhole]
    by_cases hfits : fits (value * 10 + digitValue c) = true
    · simp only [hfits, if_true]
      exact ih _ hfits
    · simp only [hfits, if_false, Bool.false_eq_true]
      refine ⟨fun hlt => absurd ?_ hfits, fun h => nomatch h⟩
      exact decide_eq_true (Nat.lt_of_le_of_lt (le_ofDigitChars cs _) hlt)

theorem toList_toString (i : Int) :
    (toString i).toList = if 0 ≤ i then Nat.toDigits 10 i.toNat
      else '-' :: Nat.toDigits 10 (-i).toNat := by
  rw [Int.toString_eq_repr, Int.repr_eq_if]
  split
  · rw [Nat.repr_eq_ofList_toDigits, String.toList_ofList]
  · simp only [Nat.repr_eq_ofList_toDigits, String.toList_append, String.toList_ofList]
    rfl

theorem isDigit_of_mem_toString {i : Int} {c : Char} (h : c ∈ (toString i).toList) :
    Reader.isDigit c = true ∨ c = '-' := by
  rw [toList_toString] at h
  split at h
  · exact .inl ((isWhole_toDigits _).isDigits c h)
  · exact (List.mem_cons.1 h).symm.imp ((isWhole_toDigits _).isDigits c) id

/-- A literal of nothing but digits and a sign. -/
theorem Literal.plain_of_chars {l : Literal}
    (h : ∀ c ∈ l.chars, Reader.isDigit c = true ∨ c = '-') :
    l.fraction = [] ∧ l.exponent = none := by
  have hmem {c : Char} (hc : c ∈ l.fractionChars ++ l.exponentChars) : c ∈ l.chars := by
    unfold Literal.chars Literal.unsigned
    split
    · exact List.mem_cons_of_mem _ (List.mem_append_right _ hc)
    · exact List.mem_append_right _ hc
  constructor
  · by_contra hne
    have hpoint : '.' ∈ l.fractionChars ++ l.exponentChars := by
      simp [Literal.fractionChars, hne]
    exact absurd (h '.' (hmem hpoint)) (by decide)
  · cases he : l.exponent with
    | none => rfl
    | some e =>
      have hmark : e.mark ∈ l.fractionChars ++ l.exponentChars := by
        simp [Literal.exponentChars, he, Exponent.chars]
      have hcases := h e.mark (hmem hmark)
      rcases e.isMark with hm | hm <;> rw [hm] at hcases <;> exact absurd hcases (by decide)

theorem Literal.chars_of_plain {l : Literal} (hf : l.fraction = []) (he : l.exponent = none) :
    l.chars = if l.negative then '-' :: l.whole else l.whole := by
  simp [Literal.chars, Literal.unsigned, Literal.fractionChars, Literal.exponentChars, hf, he]

theorem floatOf?_ne_whole (negative : Bool) (s : Significand) (i : Int) :
    floatOf? negative s ≠ some (.whole i) := by
  unfold floatOf?
  cases s.toFloat? <;> exact nofun

theorem Exponent.scaled?_ne_whole (e : Exponent) (negative : Bool) (s : Significand) (i : Int) :
    e.scaled? negative s ≠ some (.whole i) := by
  unfold Exponent.scaled?
  split
  · exact floatOf?_ne_whole _ _ i
  · split <;> exact nofun

theorem wholeNumber_eq_whole_iff {negative : Bool} {n : Nat} {i : Int} :
    Reader.wholeNumber negative n = .whole i ↔
      if negative then 0 < n ∧ n ≤ 0x8000000000000000 ∧ i = -n else i = n := by
  unfold Reader.wholeNumber
  cases negative with
  | false =>
    simp only [Bool.false_eq_true, if_false, JsonNumber.whole.injEq]
    exact eq_comm
  | true =>
    simp only [if_true]
    split
    · next h =>
      simp only [Bool.or_eq_true, beq_iff_eq, decide_eq_true_eq] at h
      simp only [reduceCtorEq, false_iff]
      omega
    · next h =>
      simp only [Bool.or_eq_true, beq_iff_eq, decide_eq_true_eq] at h
      simp only [JsonNumber.whole.injEq]
      omega

/-- A literal is a whole number if it is plain and its digits fit. -/
theorem Literal.number?_eq_whole_iff_plain {l : Literal} {i : Int} :
    l.number? = some (.whole i) ↔ (l.fraction = [] ∧ l.exponent = none) ∧
      valueOf l.whole < 0x10000000000000000 ∧
      Reader.wholeNumber l.negative (valueOf l.whole) = .whole i := by
  obtain ⟨hfit, hlt⟩ := Significand.ofWhole_eq l.whole 0 rfl
  unfold Literal.number? Literal.numberFrom?
  constructor
  · intro h
    split at h
    · exact absurd h (Exponent.scaled?_ne_whole _ _ _ _)
    · next he =>
      split at h
      · next hplain =>
        rw [hfit (hlt hplain.2), Option.some.injEq] at h
        exact ⟨⟨hplain.1, he⟩, hlt hplain.2, h⟩
      · exact absurd h (floatOf?_ne_whole _ _ _)
  · rintro ⟨⟨hf, he⟩, hvalue, h⟩
    simp only [he, hf, hfit hvalue, and_self, if_true]
    exact congrArg some h

/-- A literal is a whole number exactly if it is the decimal text of one that fits. -/
theorem Literal.number?_eq_whole_iff {l : Literal} {i : Int} :
    l.number? = some (.whole i) ↔
      l.chars = (toString i).toList ∧ -0x8000000000000000 ≤ i ∧ i < 0x10000000000000000 := by
  rw [Literal.number?_eq_whole_iff_plain, wholeNumber_eq_whole_iff, toList_toString]
  constructor
  · rintro ⟨⟨hf, he⟩, hlt, h⟩
    rw [Literal.chars_of_plain hf he]
    have hwhole := l.isWhole.toDigits_valueOf
    cases hneg : l.negative with
    | false =>
      obtain rfl : i = valueOf l.whole := by simpa [hneg] using h
      refine ⟨?_, by omega, by omega⟩
      rw [if_neg Bool.false_ne_true, if_pos (by omega), Int.toNat_natCast, hwhole]
    | true =>
      obtain ⟨hpos, hle, rfl⟩ : 0 < valueOf l.whole ∧ valueOf l.whole ≤ 0x8000000000000000 ∧
          i = -valueOf l.whole := by simpa [hneg] using h
      refine ⟨?_, by omega, by omega⟩
      rw [if_pos rfl, if_neg (by omega), Int.neg_neg, Int.toNat_natCast, hwhole]
  · rintro ⟨hchars, hlow, hhigh⟩
    obtain ⟨hf, he⟩ := Literal.plain_of_chars fun c hc => by
      rw [hchars, ← toList_toString] at hc
      exact isDigit_of_mem_toString hc
    rw [Literal.chars_of_plain hf he] at hchars
    refine ⟨⟨hf, he⟩, ?_⟩
    -- the sign of the number is that of the literal, and the digits are the same
    cases hneg : l.negative with
    | false =>
      rw [hneg, if_neg Bool.false_ne_true] at hchars
      split at hchars
      · next hi =>
        have hvalue : valueOf l.whole = i.toNat := by rw [hchars, valueOf_toDigits]
        rw [hvalue, if_neg Bool.false_ne_true]
        omega
      · exact absurd (hchars ▸ List.mem_cons_self) l.isWhole.minus_notMem
    | true =>
      rw [hneg, if_pos rfl] at hchars
      split at hchars
      · exact absurd (hchars ▸ List.mem_cons_self) (isWhole_toDigits i.toNat).minus_notMem
      · next hi =>
        have hvalue : valueOf l.whole = (-i).toNat := by
          rw [(List.cons.inj hchars).2, valueOf_toDigits]
        rw [hvalue, if_pos rfl]
        omega

/-- The literal of a whole number. -/
def Literal.ofInt (i : Int) : Literal :=
  ⟨i < 0, Nat.toDigits 10 i.natAbs, [], none, isWhole_toDigits _, List.forall_mem_nil _⟩

theorem Literal.chars_ofInt (i : Int) : (Literal.ofInt i).chars = (toString i).toList := by
  rw [Literal.chars_of_plain rfl rfl, toList_toString]
  by_cases hi : 0 ≤ i
  · rw [if_pos hi, show i.toNat = i.natAbs by omega]
    simp [Literal.ofInt, hi]
  · rw [if_neg hi, show (-i).toNat = i.natAbs by omega]
    simp [Literal.ofInt, Int.not_le.1 hi]

end CodeGraph.Json
