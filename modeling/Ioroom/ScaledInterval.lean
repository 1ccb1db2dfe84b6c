import Mathlib.Algebra.Order.Field.Basic
import Mathlib.Algebra.Order.Group.Pointwise.Interval

/-!
# Scaled intervals

The ends of an interval after a multiplication.  A negative factor exchanges them, and the images of
the old ends, taken in the old order, are the new ends only for a positive factor or a single point.
-/

namespace ScaledInterval

open Set

variable {R : Type*} [Field R] [LinearOrder R] [IsStrictOrderedRing R] {lower upper scale : R}

theorem ends_of_pos (ordered : lower ≤ upper) (positive : 0 < scale) :
    IsLeast ((· * scale) '' Icc lower upper) (lower * scale) ∧
      IsGreatest ((· * scale) '' Icc lower upper) (upper * scale) := by
  have monotone : Monotone (· * scale) := fun _ _ le => mul_le_mul_of_nonneg_right le positive.le
  exact ⟨monotone.map_isLeast (isLeast_Icc ordered),
    monotone.map_isGreatest (isGreatest_Icc ordered)⟩

theorem ends_of_neg (ordered : lower ≤ upper) (negative : scale < 0) :
    IsLeast ((· * scale) '' Icc lower upper) (upper * scale) ∧
      IsGreatest ((· * scale) '' Icc lower upper) (lower * scale) := by
  have antitone : Antitone (· * scale) :=
    fun _ _ le => mul_le_mul_of_nonpos_right le negative.le
  exact ⟨antitone.map_isGreatest (isGreatest_Icc ordered),
    antitone.map_isLeast (isLeast_Icc ordered)⟩

/-- The scaled ends, in their old order, are the ends of the scaled interval exactly when the factor
is positive or the interval is a point. -/
theorem ends_iff (ordered : lower ≤ upper) (nonzero : scale ≠ 0) :
    (IsLeast ((· * scale) '' Icc lower upper) (lower * scale) ∧
        IsGreatest ((· * scale) '' Icc lower upper) (upper * scale)) ↔
      0 < scale ∨ lower = upper := by
  rcases nonzero.lt_or_gt with negative | positive
  · have exchanged := ends_of_neg ordered negative
    constructor
    · rintro ⟨least, _⟩
      exact Or.inr (mul_right_cancel₀ nonzero (least.unique exchanged.1))
    · rintro (positive | rfl)
      · exact absurd positive negative.not_gt
      · exact exchanged
  · exact iff_of_true (ends_of_pos ordered positive) (Or.inl positive)

end ScaledInterval
