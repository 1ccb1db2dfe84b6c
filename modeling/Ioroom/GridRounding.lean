import Mathlib.Algebra.Order.Round
import Mathlib.Tactic.Linarith
import Mathlib.Tactic.Ring

/-!
# Rounding to a grid

Rounding to the nearest multiple of a grid step, ties upwards.  It errs by at most half a step,
commutes with whole steps, and takes values less than a step apart to values at most a step apart.
On a circle whose length is a whole number of steps it therefore has no seam.
-/

namespace GridRounding

variable {R : Type*} [Field R] [LinearOrder R] [FloorRing R]

/-- The multiple of the grid step nearest to a value. -/
def roundTo (grid value : R) : R := round (value / grid) * grid

variable {grid value other : R}

theorem exists_roundTo_eq (grid value : R) : ∃ steps : ℤ, roundTo grid value = steps * grid :=
  ⟨_, rfl⟩

variable [IsStrictOrderedRing R]

theorem abs_roundTo_sub_le (positive : 0 < grid) (value : R) :
    |roundTo grid value - value| ≤ grid / 2 := by
  have error := abs_sub_round (value / grid)
  have scaled : roundTo grid value - value = -((value / grid - round (value / grid)) * grid) := by
    rw [roundTo]
    field_simp
    ring
  calc
    |roundTo grid value - value| = |value / grid - round (value / grid)| * grid := by
      rw [scaled, abs_neg, abs_mul, abs_of_pos positive]
    _ ≤ 1 / 2 * grid := mul_le_mul_of_nonneg_right error positive.le
    _ = grid / 2 := by ring

theorem roundTo_add_mul (positive : 0 < grid) (value : R) (steps : ℤ) :
    roundTo grid (value + steps * grid) = roundTo grid value + steps * grid := by
  have shifted : (value + steps * grid) / grid = value / grid + steps := by
    field_simp
  rw [roundTo, shifted, round_add_intCast, roundTo]
  push_cast
  ring

theorem roundTo_mono (positive : 0 < grid) (ordered : value ≤ other) :
    roundTo grid value ≤ roundTo grid other := by
  have quotients : value / grid + 1 / 2 ≤ other / grid + 1 / 2 := by gcongr
  have rounded : round (value / grid) ≤ round (other / grid) := by
    rw [round_eq, round_eq]
    exact Int.floor_mono quotients
  exact mul_le_mul_of_nonneg_right (Int.cast_le.mpr rounded) positive.le

theorem abs_roundTo_sub_roundTo_le (positive : 0 < grid) (close : |other - value| ≤ grid) :
    |roundTo grid other - roundTo grid value| ≤ grid := by
  obtain ⟨below, above⟩ := abs_le.mp close
  have one_step : ∀ start : R, roundTo grid (start + grid) = roundTo grid start + grid := by
    intro start
    simpa using roundTo_add_mul positive start 1
  have upper := roundTo_mono positive (show other ≤ value + grid by linarith)
  have lower := roundTo_mono positive (show value ≤ other + grid by linarith)
  rw [one_step] at upper lower
  exact abs_le.mpr ⟨by linarith, by linarith⟩

theorem roundTo_add_turns (positive : 0 < grid) {turn : R} {steps : ℤ} (whole : turn = steps * grid)
    (turns : ℤ) : roundTo grid (value + turns * turn) = roundTo grid value + turns * turn := by
  have multiple : (turns : R) * turn = (turns * steps : ℤ) * grid := by
    rw [whole]
    push_cast
    ring
  rw [multiple, roundTo_add_mul positive]

/-- Values which are close modulo a turn round to values which are close modulo a turn. -/
theorem abs_roundTo_add_turns_le (positive : 0 < grid) {turn : R} {steps : ℤ}
    (whole : turn = steps * grid) {turns : ℤ} (close : |other + turns * turn - value| ≤ grid) :
    |roundTo grid other + turns * turn - roundTo grid value| ≤ grid := by
  rw [← roundTo_add_turns positive whole]
  exact abs_roundTo_sub_roundTo_le positive close

end GridRounding
