import Mathlib.Data.Rat.Floor
import Mathlib.Tactic.Linarith
import Mathlib.Tactic.Positivity

/-!
# Decimals

A finite decimal is a coefficient and an exponent. PostgreSQL rounds it half away from
zero to the scale of its column and then checks the precision.
-/

namespace LiveData

/-- A finite decimal number. -/
structure Decimal where
  coefficient : Int
  exponent : Int
  deriving DecidableEq, Repr

/-- The number a decimal denotes. -/
def Decimal.value (d : Decimal) : ℚ := d.coefficient * (10 : ℚ) ^ d.exponent

/-- Rounding half away from zero. -/
def roundHalfAway (q : ℚ) : Int := if 0 ≤ q then ⌊q + 1 / 2⌋ else -⌊-q + 1 / 2⌋

/-- `ROUND(q, scale)` of a numeric. -/
def roundTo (scale : Nat) (q : ℚ) : ℚ := roundHalfAway (q * 10 ^ scale) / 10 ^ scale

/-- The hundredths a `NUMERIC(12, 2)` column keeps of a number. -/
def roundToCents (q : ℚ) : Int := roundHalfAway (q * 100)

/-- The rounded number has an absolute value below ten to the tenth. -/
def FitsNumeric12d2 (q : ℚ) : Prop := |roundToCents q| < 10 ^ 12

instance (q : ℚ) : Decidable (FitsNumeric12d2 q) := inferInstanceAs (Decidable (_ < _))

/-- The rounding of a number is symmetric around zero. -/
theorem abs_roundHalfAway (q : ℚ) : |roundHalfAway q| = ⌊|q| + 1 / 2⌋ := by
  have hnonneg : 0 ≤ ⌊|q| + 1 / 2⌋ := Int.floor_nonneg.mpr (by positivity)
  unfold roundHalfAway
  split
  · next h => rw [abs_of_nonneg h] at hnonneg ⊢; exact abs_of_nonneg hnonneg
  · next h =>
    have hq : |q| = -q := abs_of_neg (not_le.mp h)
    rw [hq] at hnonneg ⊢
    rw [abs_neg, abs_of_nonneg hnonneg]

/-- The column takes exactly the numbers that stay clear of the bound by half a cent. -/
theorem fitsNumeric12d2_iff (q : ℚ) : FitsNumeric12d2 q ↔ |q| < 9999999999.995 := by
  have h100 : |q * 100| = |q| * 100 := by rw [abs_mul]; norm_num
  rw [FitsNumeric12d2, roundToCents, abs_roundHalfAway, Int.floor_lt, h100]
  push_cast
  constructor
  · intro h
    linarith
  · intro h
    linarith

end LiveData
