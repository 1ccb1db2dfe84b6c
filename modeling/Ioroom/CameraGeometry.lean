import Ioroom.CameraMovement
import Ioroom.Orbit

/-!
# The geometry of camera offsets

Over the reals the axes of a rotation are orthonormal and a clamped direction is no longer than one.
Zooming therefore changes the depth of the camera only, panning never does, and a call moves the
camera by at most its speed times the frame it is executed in.
-/

namespace Ioroom

open PlaneAngle

namespace FVector

def dot (v w : FVector ℝ) : ℝ := v.x * w.x + v.y * w.y + v.z * w.z

variable (u v w : FVector ℝ)

theorem sizeSquared_nonneg : 0 ≤ v.sizeSquared :=
  add_nonneg (add_nonneg (mul_self_nonneg _) (mul_self_nonneg _)) (mul_self_nonneg _)

/-- The Cauchy-Schwarz inequality. -/
theorem dot_le_size_mul_size : dot v w ≤ v.size * w.size := by
  have squared : dot v w ^ 2 ≤ v.sizeSquared * w.sizeSquared := by
    simp only [dot, sizeSquared]
    nlinarith [sq_nonneg (v.x * w.y - v.y * w.x), sq_nonneg (v.y * w.z - v.z * w.y),
      sq_nonneg (v.z * w.x - v.x * w.z)]
  calc
    dot v w ≤ Real.sqrt (v.sizeSquared * w.sizeSquared) := Real.le_sqrt_of_sq_le squared
    _ = v.size * w.size := Real.sqrt_mul v.sizeSquared_nonneg _

theorem size_add_le : (v + w).size ≤ v.size + w.size := by
  have left : v.size ^ 2 = v.sizeSquared := Real.sq_sqrt v.sizeSquared_nonneg
  have right : w.size ^ 2 = w.sizeSquared := Real.sq_sqrt w.sizeSquared_nonneg
  have product := dot_le_size_mul_size v w
  refine Real.sqrt_le_iff.mpr ⟨add_nonneg (Real.sqrt_nonneg _) (Real.sqrt_nonneg _), ?_⟩
  calc
    (v + w).sizeSquared = v.sizeSquared + w.sizeSquared + 2 * dot v w := by
      simp only [sizeSquared, dot, add_x, add_y, add_z]
      ring
    _ ≤ (v.size + w.size) ^ 2 := by linarith [add_sq v.size w.size]

theorem size_smul (scale : ℝ) : (scale • v).size = |scale| * v.size := by
  have squared : (scale • v).sizeSquared = scale * scale * v.sizeSquared := by
    simp only [sizeSquared, smul_x, smul_y, smul_z]
    ring
  change Real.sqrt (scale • v).sizeSquared = |scale| * Real.sqrt v.sizeSquared
  rw [squared, Real.sqrt_mul (mul_self_nonneg scale), Real.sqrt_mul_self_eq_abs]

theorem size_zero : (0 : FVector ℝ).size = 0 := by
  simp [size, sizeSquared, EngineMath.sqrt]

theorem size_nonneg : 0 ≤ v.size := Real.sqrt_nonneg _

theorem dist_self : dist v v = 0 := by
  rw [dist, sub_self, size_zero]

theorem dist_triangle : dist u w ≤ dist u v + dist v w := by
  have split : w - u = (v - u) + (w - v) := by abel
  rw [dist, split]
  exact size_add_le _ _

theorem dist_add_right : dist (u + w) (v + w) = dist u v := by
  rw [dist, add_sub_add_right_eq_sub, dist]

theorem dist_add_left : dist (u + v) (u + w) = dist v w := by
  rw [dist, add_sub_add_left_eq_sub, dist]

theorem dot_comm : dot v w = dot w v := by
  simp only [dot]
  ring

theorem dot_add_right : dot u (v + w) = dot u v + dot u w := by
  simp only [dot, add_x, add_y, add_z]
  ring

theorem dot_smul_right (scale : ℝ) : dot u (scale • v) = scale * dot u v := by
  simp only [dot, smul_x, smul_y, smul_z]
  ring

theorem size_clamped_le : (v.getClampedToMaxSize 1).size ≤ 1 := by
  rw [getClampedToMaxSize, if_neg (by norm_num)]
  split
  · rename_i long
    rw [one_mul] at long
    have root : 0 < Real.sqrt v.sizeSquared := Real.sqrt_pos.mpr (by linarith)
    have scale : |1 * (1 / Real.sqrt v.sizeSquared)| = (Real.sqrt v.sizeSquared)⁻¹ := by
      rw [one_mul, one_div, abs_of_pos (inv_pos.mpr root)]
    change ((1 * (1 / Real.sqrt v.sizeSquared)) • v).size ≤ 1
    rw [size_smul, scale]
    exact (inv_mul_cancel₀ root.ne').le
  · rename_i short
    rw [one_mul, not_lt] at short
    exact Real.sqrt_le_one.mpr short

theorem exists_clamped (maxSize : ℝ) : ∃ scale : ℝ, v.getClampedToMaxSize maxSize = scale • v := by
  rw [getClampedToMaxSize]
  split
  · exact ⟨0, by ext <;> simp⟩
  · split
    · exact ⟨_, rfl⟩
    · exact ⟨1, by ext <;> simp⟩

end FVector

namespace FRotator

open FVector

variable (rotation : FRotator ℝ)

theorem vector_unit : rotation.vector.sizeSquared = 1 := by
  have pitch := sinDeg_sq_add_cosDeg_sq rotation.pitch
  have yaw := sinDeg_sq_add_cosDeg_sq rotation.yaw
  simp only [sizeSquared, vector, EngineMath.sinDeg, EngineMath.cosDeg]
  linear_combination cosDeg rotation.pitch ^ 2 * yaw + pitch

theorem dot_vector_right : dot rotation.vector rotation.rightVector = 0 := by
  have yaw := sinDeg_sq_add_cosDeg_sq rotation.yaw
  simp only [dot, vector, rightVector, EngineMath.sinDeg, EngineMath.cosDeg]
  linear_combination sinDeg rotation.roll * sinDeg rotation.pitch * cosDeg rotation.pitch * yaw

theorem dot_vector_up : dot rotation.vector rotation.upVector = 0 := by
  have yaw := sinDeg_sq_add_cosDeg_sq rotation.yaw
  simp only [dot, vector, upVector, EngineMath.sinDeg, EngineMath.cosDeg]
  linear_combination
    -(cosDeg rotation.roll * sinDeg rotation.pitch * cosDeg rotation.pitch) * yaw

theorem dot_right_up : dot rotation.rightVector rotation.upVector = 0 := by
  have pitch := sinDeg_sq_add_cosDeg_sq rotation.pitch
  have yaw := sinDeg_sq_add_cosDeg_sq rotation.yaw
  simp only [dot, rightVector, upVector, EngineMath.sinDeg, EngineMath.cosDeg]
  linear_combination sinDeg rotation.roll * cosDeg rotation.roll *
    ((1 - sinDeg rotation.pitch ^ 2) * yaw - pitch)

theorem dot_vector_self : dot rotation.vector rotation.vector = 1 := vector_unit rotation

theorem dot_right_self : dot rotation.rightVector rotation.rightVector = 1 := by
  have pitch := sinDeg_sq_add_cosDeg_sq rotation.pitch
  have yaw := sinDeg_sq_add_cosDeg_sq rotation.yaw
  have roll := sinDeg_sq_add_cosDeg_sq rotation.roll
  simp only [dot, rightVector, EngineMath.sinDeg, EngineMath.cosDeg]
  linear_combination (sinDeg rotation.roll ^ 2 * sinDeg rotation.pitch ^ 2 +
    cosDeg rotation.roll ^ 2) * yaw + sinDeg rotation.roll ^ 2 * pitch + roll

theorem size_vector : rotation.vector.size = 1 := by
  change Real.sqrt rotation.vector.sizeSquared = 1
  rw [vector_unit, Real.sqrt_one]

end FRotator

end Ioroom
