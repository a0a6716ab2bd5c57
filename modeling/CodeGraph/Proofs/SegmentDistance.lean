import Mathlib.Analysis.SpecialFunctions.Trigonometric.Basic
import CodeGraph.Proofs.NumberOrder

namespace CodeGraph

open Set

namespace Point

theorem length_eq_norm (p : Point ℝ) : p.length = ‖(⟨p.x, p.y⟩ : ℂ)‖ := by
  rw [Complex.norm_def, Complex.normSq_apply]
  rfl

theorem squaredLength_nonneg (p : Point ℝ) : 0 ≤ p.squaredLength :=
  add_nonneg (mul_self_nonneg p.x) (mul_self_nonneg p.y)

theorem length_le_length_iff {p q : Point ℝ} : p.length ≤ q.length ↔
    p.squaredLength ≤ q.squaredLength :=
  Real.sqrt_le_sqrt_iff (squaredLength_nonneg q)

theorem length_minus_le (p a d : Point ℝ) (s : ℝ) :
    (p.minus a).length ≤ (p.minus (a.along d s)).length + |s| * d.length := by
  have hway : (⟨(p.minus a).x, (p.minus a).y⟩ : ℂ) =
      ⟨(p.minus (a.along d s)).x, (p.minus (a.along d s)).y⟩ + s * ⟨d.x, d.y⟩ := by
    apply Complex.ext <;> simp [minus, along] <;> ring
  simp only [length_eq_norm]
  rw [hway]
  refine (norm_add_le _ _).trans_eq ?_
  rw [norm_mul, Complex.norm_real, Real.norm_eq_abs]

end Point

theorem Scalar.clamp_mem {lo hi : ℝ} (h : lo ≤ hi) (x : ℝ) : Scalar.clamp lo hi x ∈ Icc lo hi := by
  unfold Scalar.clamp
  split_ifs with hless hgreater
  · exact left_mem_Icc.2 h
  · exact right_mem_Icc.2 h
  · exact ⟨not_lt.1 hless, not_lt.1 hgreater⟩

/-- Seen from a value within the bounds, the clamped value is on the way to the value itself. -/
theorem Scalar.clamp_between {lo hi s : ℝ} (hs : s ∈ Icc lo hi) (x : ℝ) :
    (s - Scalar.clamp lo hi x) ^ 2 + (Scalar.clamp lo hi x - x) ^ 2 ≤ (s - x) ^ 2 := by
  obtain ⟨hlo, hhi⟩ := hs
  unfold Scalar.clamp
  split_ifs with hless hgreater
  · nlinarith
  · nlinarith
  · simp

namespace Segment

variable {p a b : Point ℝ} {s : ℝ}

theorem pointLimit_eq : (pointLimit : ℝ) = 1 / 2 ^ 52 := by
  norm_num [pointLimit]

noncomputable def gapAt (p a b : Point ℝ) (s : ℝ) : ℝ := (p.minus (a.along (b.minus a) s)).length

def gaps (p a b : Point ℝ) : Set ℝ := gapAt p a b '' Icc 0 1

theorem distance_eq_gapAt (p a b : Point ℝ) :
    distance p a b = gapAt p a b (nearestParameter p a b) := rfl

/-- The parameter of the place where the line through `a` and `b` comes nearest to `p`. -/
noncomputable def foot (p a b : Point ℝ) : ℝ :=
  ((p.minus a).x * (b.minus a).x + (p.minus a).y * (b.minus a).y) / (b.minus a).squaredLength

/-- Along the line the squared distance is a parabola around the foot. -/
theorem squaredLength_along (hd : (b.minus a).squaredLength ≠ 0) (s : ℝ) :
    (p.minus (a.along (b.minus a) s)).squaredLength =
      (b.minus a).squaredLength * (s - foot p a b) ^ 2 +
        ((p.minus a).squaredLength - (b.minus a).squaredLength * foot p a b ^ 2) := by
  have hfoot : foot p a b * (b.minus a).squaredLength =
      (p.minus a).x * (b.minus a).x + (p.minus a).y * (b.minus a).y := div_mul_cancel₀ _ hd
  generalize foot p a b = x at hfoot ⊢
  simp only [Point.squaredLength, Point.minus, Point.along] at hfoot ⊢
  linear_combination (2 * s) * hfoot

section long

variable (hlong : pointLimit ≤ (b.minus a).squaredLength)
include hlong

theorem squaredLength_pos : 0 < (b.minus a).squaredLength := by
  refine lt_of_lt_of_le ?_ hlong
  rw [pointLimit_eq]
  positivity

theorem nearestParameter_eq : nearestParameter p a b = Scalar.clamp 0 1 (foot p a b) := by
  have hzero : (0.0 : ℝ) = 0 := by norm_num
  have hone : (1.0 : ℝ) = 1 := by norm_num
  rw [← hzero, ← hone]
  exact if_neg hlong.not_gt

theorem nearestParameter_mem : nearestParameter p a b ∈ Icc 0 1 := by
  rw [nearestParameter_eq hlong]
  exact Scalar.clamp_mem zero_le_one _

/-- How much farther another place of the segment is, in squares. -/
theorem squaredLength_gap_le (hs : s ∈ Icc 0 1) :
    (gap p a b).squaredLength + (b.minus a).squaredLength * (s - nearestParameter p a b) ^ 2 ≤
      (p.minus (a.along (b.minus a) s)).squaredLength := by
  have hpos := squaredLength_pos hlong
  have hbetween := mul_le_mul_of_nonneg_left (Scalar.clamp_between hs (foot p a b)) hpos.le
  rw [gap, squaredLength_along hpos.ne', squaredLength_along hpos.ne', nearestParameter_eq hlong]
  linarith

theorem isLeast_distance : IsLeast (gaps p a b) (distance p a b) := by
  refine ⟨⟨_, nearestParameter_mem hlong, rfl⟩, ?_⟩
  rintro _ ⟨s, hs, rfl⟩
  have hnearest := squaredLength_gap_le (p := p) hlong hs
  have hfarther := mul_nonneg (squaredLength_pos hlong).le (sq_nonneg (s - nearestParameter p a b))
  exact Point.length_le_length_iff.2 (by linarith)

/-- No other parameter is one of the nearest place. -/
theorem eq_nearestParameter (hs : s ∈ Icc 0 1) (h : gapAt p a b s = distance p a b) :
    s = nearestParameter p a b := by
  have hpos := squaredLength_pos hlong
  have hnearest := squaredLength_gap_le (p := p) hlong hs
  have hless : (p.minus (a.along (b.minus a) s)).squaredLength ≤ (gap p a b).squaredLength :=
    Point.length_le_length_iff.1 h.le
  have hsquare : (s - nearestParameter p a b) ^ 2 ≤ 0 := by
    by_contra! hfarther
    linarith [mul_pos hpos hfarther]
  exact sub_eq_zero.1 (pow_eq_zero_iff two_ne_zero |>.1 (le_antisymm hsquare (sq_nonneg _)))

end long

theorem squaredLength_minus_comm (a b : Point ℝ) :
    (a.minus b).squaredLength = (b.minus a).squaredLength := by
  simp only [Point.squaredLength, Point.minus]
  ring

theorem gapAt_swap (p a b : Point ℝ) (s : ℝ) : gapAt p b a s = gapAt p a b (1 - s) := by
  have hplace : b.along (a.minus b) s = a.along (b.minus a) (1 - s) := by
    simp only [Point.along, Point.minus, Point.mk.injEq]
    constructor <;> ring
  rw [gapAt, gapAt, hplace]

theorem gaps_swap (p a b : Point ℝ) : gaps p b a = gaps p a b := by
  have hback : (fun s : ℝ => 1 - s) '' Icc 0 1 = Icc 0 1 := by simp
  have hgaps : gapAt p b a = gapAt p a b ∘ fun s => 1 - s := funext (gapAt_swap p a b)
  rw [gaps, hgaps, image_comp, hback, gaps]

theorem distance_swap (hlong : pointLimit ≤ (b.minus a).squaredLength) :
    distance p b a = distance p a b := by
  have hback := isLeast_distance (p := p) ((squaredLength_minus_comm a b).symm ▸ hlong)
  rw [gaps_swap] at hback
  exact hback.unique (isLeast_distance hlong)

theorem gapAt_zero (p a b : Point ℝ) : gapAt p a b 0 = (p.minus a).length := by
  simp [gapAt, Point.along]

theorem distance_of_short (hshort : (b.minus a).squaredLength < pointLimit) :
    distance p a b = (p.minus a).length := by
  have hzero : nearestParameter p a b = 0 := (if_pos hshort).trans (by norm_num)
  rw [distance_eq_gapAt, hzero, gapAt_zero]

theorem exists_isLeast_gaps (p a b : Point ℝ) : ∃ m, IsLeast (gaps p a b) m := by
  have hsquares : Continuous fun s => (p.minus (a.along (b.minus a) s)).squaredLength := by
    simp only [Point.squaredLength, Point.minus, Point.along]
    fun_prop
  have hgaps : Continuous (gapAt p a b) := Real.continuous_sqrt.comp hsquares
  exact (isCompact_Icc.image hgaps).exists_isLeast ((nonempty_Icc.2 zero_le_one).image _)

theorem length_minus_sub_le {m : ℝ} (hm : IsLeast (gaps p a b) m) :
    |(p.minus a).length - m| ≤ (b.minus a).length := by
  have hleast : m ≤ (p.minus a).length := by
    rw [← gapAt_zero p a b]
    exact hm.2 (mem_image_of_mem _ (left_mem_Icc.2 zero_le_one))
  obtain ⟨s, hs, rfl⟩ := hm.1
  have hway := Point.length_minus_le p a (b.minus a) s
  have hpart : |s| * (b.minus a).length ≤ (b.minus a).length := by
    rw [abs_of_nonneg hs.1]
    exact mul_le_of_le_one_left (Real.sqrt_nonneg _) hs.2
  rw [abs_of_nonneg (sub_nonneg.2 hleast), sub_le_iff_le_add']
  exact hway.trans (add_le_add_right hpart _)

/-- A segment whose squared length is at least `2 ^ (-52)`: the distance of a point is the least one
from a place of it, the parameter that is computed is the only one between zero and one that attains
it, and the order of the ends does not matter. Of a shorter segment it is the distance from its
first end, and the least one differs from that by the length of the segment at most. -/
theorem distance_least_along_segment (p a b : Point ℝ) :
    (1 / 2 ^ 52 ≤ (b.minus a).squaredLength →
      IsLeast ((fun s => (p.minus (a.along (b.minus a) s)).length) '' Icc 0 1) (distance p a b) ∧
      nearestParameter p a b ∈ Icc 0 1 ∧
      (∀ s ∈ Icc (0 : ℝ) 1, (p.minus (a.along (b.minus a) s)).length = distance p a b ↔
        s = nearestParameter p a b) ∧
      distance p b a = distance p a b) ∧
    ((b.minus a).squaredLength < 1 / 2 ^ 52 →
      distance p a b = (p.minus a).length ∧
      ∃ m, IsLeast ((fun s => (p.minus (a.along (b.minus a) s)).length) '' Icc 0 1) m ∧
        |distance p a b - m| ≤ (b.minus a).length) := by
  rw [← pointLimit_eq]
  constructor
  · intro hlong
    refine ⟨isLeast_distance hlong, nearestParameter_mem hlong, fun s hs => ⟨?_, ?_⟩,
      distance_swap hlong⟩
    · exact eq_nearestParameter hlong hs
    · rintro rfl
      rfl
  · intro hshort
    obtain ⟨m, hm⟩ := exists_isLeast_gaps p a b
    rw [distance_of_short hshort]
    exact ⟨rfl, m, hm, length_minus_sub_le hm⟩

/-- Past its second end a segment is as far as that end, seen from both sides, and one that counts
as a point is as far as its first end. -/
theorem distance_past_end :
    IsLeast ((fun s => ((⟨6, 3⟩ : Point ℝ).minus (Point.along ⟨0, 0⟩ (Point.minus ⟨2, 0⟩ ⟨0, 0⟩)
        s)).length) '' Icc 0 1) 5 ∧
      distance (⟨6, 3⟩ : Point ℝ) ⟨2, 0⟩ ⟨0, 0⟩ = 5 ∧
      distance (⟨4, 3⟩ : Point ℝ) ⟨0, 0⟩ ⟨1 / 2 ^ 30, 0⟩ = 5 := by
  have hlength : (⟨4, 3⟩ : Point ℝ).length = 5 := by
    have hsquare : (⟨4, 3⟩ : Point ℝ).squaredLength = 5 ^ 2 := by
      norm_num [Point.squaredLength]
    rw [Point.length, hsquare]
    exact Real.sqrt_sq (by norm_num)
  have hlong : 1 / 2 ^ 52 ≤ (Point.minus (⟨2, 0⟩ : Point ℝ) ⟨0, 0⟩).squaredLength := by
    norm_num [Point.squaredLength, Point.minus]
  have hshort : (Point.minus (⟨1 / 2 ^ 30, 0⟩ : Point ℝ) ⟨0, 0⟩).squaredLength < 1 / 2 ^ 52 := by
    norm_num [Point.squaredLength, Point.minus]
  obtain ⟨hleast, -, hattains, hswap⟩ :=
    (distance_least_along_segment ⟨6, 3⟩ ⟨0, 0⟩ ⟨2, 0⟩).1 hlong
  have hend : 1 = nearestParameter (⟨6, 3⟩ : Point ℝ) ⟨0, 0⟩ ⟨2, 0⟩ := by
    rw [nearestParameter_eq (pointLimit_eq.trans_le hlong)]
    norm_num [foot, Scalar.clamp, Point.squaredLength, Point.minus]
  have hfar : distance (⟨6, 3⟩ : Point ℝ) ⟨0, 0⟩ ⟨2, 0⟩ = 5 := by
    rw [← (hattains 1 (by norm_num)).2 hend, ← hlength]
    norm_num [Point.minus, Point.along]
  rw [hfar] at hleast hswap
  refine ⟨hleast, hswap, ?_⟩
  rw [((distance_least_along_segment ⟨4, 3⟩ ⟨0, 0⟩ ⟨1 / 2 ^ 30, 0⟩).2 hshort).1, ← hlength]
  norm_num [Point.minus]

end Segment

end CodeGraph
