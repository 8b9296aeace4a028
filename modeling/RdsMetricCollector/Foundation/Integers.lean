import Mathlib.Algebra.Ring.Int.Defs

/-! # Machine integers

Products of 64-bit integers that do not leave their range.
-/

namespace RdsMetricCollector.Integers

theorem toInt_mul_eq {left right : Int64}
    (low : -2 ^ 63 ≤ left.toInt * right.toInt)
    (high : left.toInt * right.toInt < 2 ^ 63) :
    (left * right).toInt = left.toInt * right.toInt := by
  rw [Int64.toInt_mul]
  apply Int.bmod_eq_of_le
  · exact low
  · exact high

theorem toInt_mul_of_le {left right : Int64} {bound : Int}
    (nonneg : 0 ≤ left.toInt) (bounded : left.toInt ≤ bound)
    (rightNonneg : 0 ≤ right.toInt) (fits : bound * right.toInt < 2 ^ 63) :
    (left * right).toInt = left.toInt * right.toInt := by
  have low : 0 ≤ left.toInt * right.toInt := Int.mul_nonneg nonneg rightNonneg
  have high : left.toInt * right.toInt ≤ bound * right.toInt :=
    Int.mul_le_mul_of_nonneg_right bounded rightNonneg
  apply toInt_mul_eq
  · omega
  · omega

end RdsMetricCollector.Integers
