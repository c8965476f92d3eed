import BankLedger.Decimal.Sum
import Mathlib.Algebra.Order.Field.Rat
import Mathlib.Tactic.FieldSimp
import Mathlib.Tactic.Linarith
import Mathlib.Tactic.Positivity
import Mathlib.Tactic.Ring

/-!
# The Number a Decimal Stands For

Every question about decimals is settled on `toRat`. The tests of the library look at the sign, the
coefficient and the scale, and here each of them is shown to say what it should about the number, so
that no later proof has to take a decimal apart.

`Representable` is the other half: which numbers a decimal can stand for at all. A sum of two
decimals need not be one of them, and that is the only reason why money arithmetic has to round.

## Main definitions

* `Representable`: Some decimal stands for the number.
* `ofUnits`: The decimal of some units that are known to be in range.

## Theorems

* `toRat_eq`: The number is the units over the power of ten.
* `toRat_neg`: The opposite decimal stands for the opposite number.
* `isZero_iff`, `isNegative_iff`, `isPositive_iff`: The tests for sign.
* `lt_iff`: The order of decimals is the order of their numbers.
* `natAbs_units`: The units without their sign are the coefficient.
* `ofUnits?_eq_some`: What is built from units has these units.
* `ofUnits?_eq_none_iff`: When nothing can be built from units.
-/

namespace BankLedger

namespace Decimal

theorem toRat_eq (a : Decimal) : a.toRat = (a.units : ℚ) / 10 ^ a.scale := by
  unfold toRat
  rw [Rat.mkRat_eq_div]
  simp only [Nat.pow_eq, Nat.cast_pow, Nat.cast_ofNat]

theorem natAbs_units (a : Decimal) : a.units.natAbs = a.coefficient := by
  unfold units
  split <;> omega

theorem natAbs_units_lt (a : Decimal) : a.units.natAbs < limit := by
  rw [natAbs_units]
  exact a.coefficient_lt

theorem units_eq_zero_iff (a : Decimal) : a.units = 0 ↔ a.coefficient = 0 := by
  rw [← natAbs_units, Int.natAbs_eq_zero]

theorem pow_scale_pos (k : Nat) : (0 : ℚ) < 10 ^ k := by positivity

theorem isZero_iff (a : Decimal) : a.isZero = true ↔ a.toRat = 0 := by
  have hpow := pow_scale_pos a.scale
  rw [toRat_eq, div_eq_zero_iff, Int.cast_eq_zero, units_eq_zero_iff]
  simp only [isZero, beq_iff_eq, hpow.ne', or_false]

theorem isNegative_iff (a : Decimal) : a.isNegative = true ↔ a.toRat < 0 := by
  rw [toRat_eq, div_lt_iff₀ (pow_scale_pos a.scale), zero_mul]
  simp only [isNegative, decide_eq_true_eq, Int.cast_lt_zero]

theorem isPositive_iff (a : Decimal) : a.isPositive = true ↔ 0 < a.toRat := by
  rw [toRat_eq, lt_div_iff₀ (pow_scale_pos a.scale), zero_mul]
  simp only [isPositive, decide_eq_true_eq, Int.cast_pos]

theorem not_isNegative_iff (a : Decimal) : a.isNegative = false ↔ 0 ≤ a.toRat := by
  rw [← not_lt, ← isNegative_iff, Bool.not_eq_true]

/-- Comparing brings both sides to a common scale, which multiplies both by the same power. -/
theorem lt_iff (a b : Decimal) : a.lt b = true ↔ a.toRat < b.toRat := by
  have hunits : a.lt b = true ↔ a.unitsAt b.scale < b.unitsAt a.scale := by
    simp only [lt, compare, beq_iff_eq, Int.compare_eq_lt]
  rw [hunits, toRat_eq, toRat_eq, div_lt_div_iff₀ (pow_scale_pos _) (pow_scale_pos _)]
  unfold unitsAt
  simp only [Nat.pow_eq]
  exact_mod_cast Iff.rfl

theorem units_neg (a : Decimal) : (-a).units = -a.units := by
  change (neg a).units = -a.units
  unfold neg
  split
  · next hzero =>
      have hcoef : a.coefficient = 0 := by simpa only [isZero, beq_iff_eq] using hzero
      have hunits := (units_eq_zero_iff a).mpr hcoef
      rw [hunits, Int.neg_zero]
  · unfold units
    cases a.negative <;> simp

theorem scale_neg (a : Decimal) : (-a).scale = a.scale := by
  change (neg a).scale = a.scale
  unfold neg
  split <;> rfl

theorem toRat_neg (a : Decimal) : (-a).toRat = -a.toRat := by
  rw [toRat_eq, toRat_eq, units_neg, scale_neg, Int.cast_neg, neg_div]

theorem toRat_zero : zero.toRat = 0 := by
  rw [← isZero_iff]
  rfl

/-- Written with `k` more digits behind the point, a decimal still stands for the same number. -/
theorem toRat_eq_unitsAt (a : Decimal) (k : Nat) :
    a.toRat = (a.unitsAt k : ℚ) / 10 ^ (a.scale + k) := by
  rw [toRat_eq, unitsAt, pow_add]
  simp only [Nat.pow_eq, Int.cast_mul, Int.cast_pow, Nat.cast_pow, Nat.cast_ofNat, Int.cast_ofNat]
  rw [mul_div_mul_right _ _ (pow_scale_pos k).ne']

theorem ofUnits?_eq_some {n : Int} {scale : Nat} {r : Decimal} (h : ofUnits? n scale = some r) :
    r.units = n ∧ r.scale = scale := by
  unfold ofUnits? ofParts? at h
  split at h
  · cases h
    refine ⟨?_, rfl⟩
    unfold units
    by_cases hn : n < 0
    · simp only [hn, decide_true, if_true]
      omega
    · simp only [hn, decide_false, Bool.false_eq_true, if_false]
      omega
  · cases h

/-- The decimal with the given units and scale, and zero if they are out of range. -/
def ofUnits (n : Int) (scale : Nat) : Decimal := (ofUnits? n scale).getD zero

theorem ofUnits?_eq_none_iff (n : Int) (scale : Nat) :
    ofUnits? n scale = none ↔ limit ≤ n.natAbs ∨ 28 < scale := by
  unfold ofUnits? ofParts?
  split
  · next hfit =>
      simp only [reduceCtorEq, false_iff]
      omega
  · next hfit =>
      simp only [true_iff]
      omega

theorem exists_ofUnits? {n : Int} {scale : Nat} (hn : n.natAbs < limit) (hs : scale ≤ 28) :
    ∃ r, ofUnits? n scale = some r := by
  rcases hr : ofUnits? n scale with _ | r
  · rw [ofUnits?_eq_none_iff] at hr
    omega
  · exact ⟨r, rfl⟩

/-- Some decimal stands for the number. -/
def Representable (q : ℚ) : Prop := ∃ a : Decimal, a.toRat = q

theorem representable_toRat (a : Decimal) : Representable a.toRat := ⟨a, rfl⟩

theorem Representable.neg {q : ℚ} (h : Representable q) : Representable (-q) := by
  rcases h with ⟨a, rfl⟩
  exact ⟨-a, toRat_neg a⟩

end Decimal

end BankLedger
