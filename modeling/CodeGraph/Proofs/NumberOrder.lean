import Mathlib
import CodeGraph.Geometry

namespace CodeGraph

/-- The real numbers as an arithmetic: what the definitions compute when nothing is rounded. -/
noncomputable instance : Scalar ℝ where
  decLt := Classical.decRel _
  decLe := Classical.decRel _
  ofNat := Nat.cast
  sqrt := Real.sqrt
  sin := Real.sin
  cos := Real.cos
  pi := Real.pi

noncomputable instance : Graded ℝ ℝ := ⟨id, id⟩

/-- Less than compares only numbers that equal themselves, and is a strict weak order on those. -/
class WeaklyOrdered (α : Type) [Scalar α] : Prop where
  comparable : ∀ {x y : α}, x < y → (x == x) = true ∧ (y == y) = true
  irrefl : ∀ x : α, ¬x < x
  trans : ∀ {x y z : α}, x < y → y < z → x < z
  splits : ∀ {x y z : α}, (y == y) = true → x < z → x < y ∨ y < z

namespace WeaklyOrdered

theorem of_rank {α κ : Type} [Scalar α] [LinearOrder κ] (rank : α → Option κ)
    (hlt : ∀ x y : α, x < y ↔ ∃ a b, rank x = some a ∧ rank y = some b ∧ a < b)
    (hself : ∀ x : α, (x == x) = true ↔ (rank x).isSome = true) : WeaklyOrdered α where
  comparable h := by
    obtain ⟨a, b, ha, hb, -⟩ := (hlt _ _).1 h
    rw [hself, hself, ha, hb]
    exact ⟨rfl, rfl⟩
  irrefl x h := by
    obtain ⟨a, b, ha, hb, hab⟩ := (hlt _ _).1 h
    cases ha.symm.trans hb
    exact lt_irrefl a hab
  trans h h' := by
    obtain ⟨a, b, ha, hb, hab⟩ := (hlt _ _).1 h
    obtain ⟨b', c, hb', hc, hbc⟩ := (hlt _ _).1 h'
    cases hb.symm.trans hb'
    exact (hlt _ _).2 ⟨a, c, ha, hc, hab.trans hbc⟩
  splits hy h := by
    obtain ⟨a, c, ha, hc, hac⟩ := (hlt _ _).1 h
    obtain ⟨b, hb⟩ := Option.isSome_iff_exists.1 ((hself _).1 hy)
    rcases lt_or_ge a b with hab | hba
    · exact .inl ((hlt _ _).2 ⟨a, b, ha, hb, hab⟩)
    · exact .inr ((hlt _ _).2 ⟨b, c, hb, hc, hba.trans_lt hac⟩)

end WeaklyOrdered

instance : WeaklyOrdered ℝ := by
  apply WeaklyOrdered.of_rank fun x : ℝ => some x
  · intro x y
    simp
  · intro x
    simp

namespace FloatOrder

open Float.Model

/-- The rank of a float: by its sign and whether it is finite, then by its exponent, then by its
mantissa. The two zeros share one. -/
def rank : UnpackedFloat → Option (ℤ ×ₗ ℤ ×ₗ ℤ)
  | .notANumber => none
  | .infinity .negative => some (toLex (-2, toLex (0, 0)))
  | .finite .negative m e _ => some (toLex (-1, toLex (-e, -m)))
  | .zero _ => some (toLex (0, toLex (0, 0)))
  | .finite .positive m e _ => some (toLex (1, toLex (e, m)))
  | .infinity .positive => some (toLex (2, toLex (0, 0)))

theorem lt_iff_rank (x y : UnpackedFloat) :
    x.lt y = true ↔ ∃ a b, rank x = some a ∧ rank y = some b ∧ a < b := by
  have hsigns : compare UnpackedFloat.Sign.negative .positive = .lt := rfl
  unfold UnpackedFloat.lt
  -- only two finite numbers of one sign are compared by more than their kinds
  rcases x with (_ | _) | _ | _ | ⟨(_ | _), m, e, _⟩ <;>
    rcases y with (_ | _) | _ | _ | ⟨(_ | _), m', e', _⟩ <;>
    simp [UnpackedFloat.compare, hsigns, rank, Prod.Lex.toLex_lt_toLex, Ordering.swap_eq_lt,
      Ordering.then_eq_lt, Ordering.then_eq_gt, compare_lt_iff_lt, compare_gt_iff_gt]

theorem beq_self_iff_rank (x : UnpackedFloat) : x.beq x = true ↔ (rank x).isSome = true := by
  have hrank : (rank x).isSome = true ↔ x ≠ .notANumber := by
    rcases x with (_ | _) | _ | _ | ⟨(_ | _), _, _, _⟩ <;> simp [rank]
  rw [hrank, UnpackedFloat.beq_iff_ne_notANumber_and_eq]
  simp

theorem lt_iff (x y : Float) : x < y ↔ x.toModel.unpack.lt y.toModel.unpack = true := by
  have h : (x < y) = (Float.lt x y = true) := rfl
  rw [h, Float.lt, decide_eq_true_iff]
  rfl

instance : WeaklyOrdered Float := by
  apply WeaklyOrdered.of_rank fun x : Float => rank x.toModel.unpack
  · intro x y
    exact (lt_iff x y).trans (lt_iff_rank _ _)
  · intro x
    exact beq_self_iff_rank x.toModel.unpack

end FloatOrder

end CodeGraph
