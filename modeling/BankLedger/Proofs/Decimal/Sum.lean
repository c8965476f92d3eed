import BankLedger.Proofs.Decimal.Rounding
import BankLedger.Proofs.Decimal.Value

/-!
# When a Sum of Decimals is Exact

A sum is first written out in full and then made to fit. Three things can come of that. It fits as
it stands or after trailing zeros are given up, and then nothing is lost. It fits only after other
digits are given up, and then it is rounded. Or it does not fit even as a whole number, and then
there is no sum.

What separates the first case from the second is not how the sum is computed but a property of the
number: `add?_exact_iff` says that the answer is the sum exactly when some decimal stands for the
sum. The third case has a bound of its own, `add?_eq_none_iff`, half a unit below the first whole
number that has no room.

## Main definitions

* `OutOfRange`: The number is too far from zero to be rounded to a decimal.

## Theorems

* `fit?_eq_some`: What fits was rounded once, at the scale that it has.
* `fit?_near`: What fits is off by at most half of its last digit.
* `fit?_of_representable`: What can be represented fits with nothing lost.
* `fit?_eq_none_iff`: What does not fit is out of range.
* `toRat_add`: The sum of two numbers, from the units at the common scale.
* `abs_toRat_le`, `max_lt_of_outOfRange`: The largest decimal bounds what is in range.
* `add?_of_representable`: A sum that can be represented is found.
* `add?_exact_iff`: A sum is exact when it can be represented.
* `add?_near`: A sum is off by at most half of its last digit.
* `add?_eq_none_iff`: When there is no sum.
* `add?_eq_zero_iff`, `add?_nonneg_iff`: Rounding keeps the sign of a sum.
-/

namespace BankLedger

namespace Decimal

theorem atScale?_eq_some {n : Int} {dropped scale : Nat} {r : Decimal}
    (h : atScale? n dropped scale = some r) :
    r.units = roundEven n (10 ^ dropped) ∧ r.scale = scale := by
  unfold atScale? at h
  rw [Nat.pow_eq] at h
  exact ofUnits?_eq_some h

/-- What fits was rounded once, and has as many digits behind the point as were not dropped. -/
theorem fit?_eq_some {n : Int} {dropped scale : Nat} {r : Decimal}
    (h : fit? n dropped scale = some r) : ∃ k, k + r.scale = dropped + scale ∧ dropped ≤ k ∧
      r.units = roundEven n (10 ^ k) := by
  induction scale generalizing dropped with
  | zero =>
      rcases atScale?_eq_some h with ⟨hunits, hscale⟩
      exact ⟨dropped, by omega, Nat.le_refl _, hunits⟩
  | succ s ih =>
      unfold fit? at h
      rcases hfirst : atScale? n dropped (s + 1) with _ | r'
      · rw [hfirst, Option.none_or] at h
        rcases ih h with ⟨k, hk, hle, hunits⟩
        exact ⟨k, by omega, by omega, hunits⟩
      · rw [hfirst, Option.some_or, Option.some.injEq] at h
        subst h
        rcases atScale?_eq_some hfirst with ⟨hunits, hscale⟩
        exact ⟨dropped, by omega, Nat.le_refl _, hunits⟩

/-- Rounding to the last digit of the answer is off by at most half of it. -/
theorem fit?_near {n : Int} {scale : Nat} {r : Decimal} (h : fit? n 0 scale = some r) :
    |r.toRat - n / 10 ^ scale| ≤ 1 / (2 * 10 ^ r.scale) := by
  rcases fit?_eq_some h with ⟨k, hk, _, hunits⟩
  have hscale : scale = k + r.scale := by omega
  have hpos : 0 < 10 ^ k := Nat.pow_pos (by omega)
  rcases two_mul_roundEven_sub_le n (10 ^ k) hpos with ⟨hhigh, hlow⟩
  -- The error is that of one rounding, counted in units of the digits that were dropped.
  have hdiff : r.toRat - n / 10 ^ scale
      = (2 * ((10 ^ k : Nat) * roundEven n (10 ^ k) - n) : Int) / (2 * 10 ^ k * 10 ^ r.scale) := by
    rw [toRat_eq, hunits, hscale, pow_add]
    push_cast
    field_simp
  rw [hdiff, abs_div, abs_of_pos (show (0 : ℚ) < 2 * 10 ^ k * 10 ^ r.scale by positivity),
    div_le_div_iff₀ (by positivity) (by positivity)]
  have habs : |((2 * ((10 ^ k : Nat) * roundEven n (10 ^ k) - n) : Int) : ℚ)| ≤ 10 ^ k := by
    rw [← Int.cast_abs]
    exact_mod_cast abs_le.mpr ⟨hlow, hhigh⟩
  calc |((2 * ((10 ^ k : Nat) * roundEven n (10 ^ k) - n) : Int) : ℚ)| * (2 * 10 ^ r.scale)
      ≤ 10 ^ k * (2 * 10 ^ r.scale) := mul_le_mul_of_nonneg_right habs (by positivity)
    _ = 1 * (2 * 10 ^ k * 10 ^ r.scale) := by ring

/-- Units that have room once multiplied by a power of ten have room before. -/
theorem natAbs_lt_of_mul_pow {a : Decimal} {m : Int} {k : Nat} (h : m * 10 ^ k = a.units) :
    m.natAbs < limit := by
  have hlt := natAbs_units_lt a
  rw [← h, Int.natAbs_mul] at hlt
  have hone : 1 ≤ ((10 : Int) ^ k).natAbs := Int.natAbs_pos.mpr (by positivity)
  exact Nat.lt_of_le_of_lt (Nat.le_mul_of_pos_right _ hone) hlt

/-- Units of a number that can be represented either have room, or end in a zero that stands behind
    the point and can be given up: the decimal that stands for the number has fewer digits there. -/
theorem natAbs_lt_or_spare_zero {a : Decimal} {m : Int} {scale : Nat}
    (h : a.toRat = (m : ℚ) / 10 ^ scale) :
    m.natAbs < limit ∨ ∃ s m', scale = s + 1 ∧ m = 10 * m' := by
  have heq : m * 10 ^ a.scale = a.units * 10 ^ scale := by
    rw [toRat_eq, div_eq_div_iff (pow_scale_pos _).ne' (pow_scale_pos _).ne'] at h
    exact_mod_cast h.symm
  rcases Nat.lt_or_ge a.scale scale with hfewer | hmore
  · -- The units have a zero for each digit that the decimal does not need.
    right
    refine ⟨scale - 1, a.units * 10 ^ (scale - 1 - a.scale), by omega, ?_⟩
    have hsplit : scale = (scale - 1 - a.scale) + 1 + a.scale := by omega
    rw [hsplit, pow_add, ← mul_assoc] at heq
    have hunits := Int.eq_of_mul_eq_mul_right (by positivity) heq
    rw [hunits]
    ring
  · left
    have hsplit : a.scale = (a.scale - scale) + scale := by omega
    rw [hsplit, pow_add, ← mul_assoc] at heq
    exact natAbs_lt_of_mul_pow (Int.eq_of_mul_eq_mul_right (by positivity) heq)

/-- Units that have room as they stand are found at the first attempt. -/
theorem fit?_of_room (m : Int) (dropped scale : Nat) (hscale : scale ≤ 28)
    (hroom : m.natAbs < limit) : ∃ r, fit? ((10 ^ dropped : Nat) * m) dropped scale = some r ∧
      r.toRat = (m : ℚ) / 10 ^ scale := by
  rcases exists_ofUnits? hroom hscale with ⟨r, hr⟩
  have hfirst : atScale? ((10 ^ dropped : Nat) * m) dropped scale = some r := by
    unfold atScale?
    rw [Nat.pow_eq, roundEven_mul m (10 ^ dropped) (by positivity), hr]
  rcases ofUnits?_eq_some hr with ⟨hunits, hrs⟩
  refine ⟨r, ?_, by rw [toRat_eq, hunits, hrs]⟩
  cases scale with
  | zero => exact hfirst
  | succ s =>
      unfold fit?
      rw [hfirst, Option.some_or]

-- By induction on the digits behind the point. What was dropped so far was only zeros, which the
-- factor `10 ^ dropped` keeps in the statement.
/-- What can be represented fits with nothing lost, because every attempt divides evenly until the
    units have room. -/
theorem fit?_of_representable (m : Int) (dropped scale : Nat) (hscale : scale ≤ 28)
    (hrep : Representable ((m : ℚ) / 10 ^ scale)) :
    ∃ r, fit? ((10 ^ dropped : Nat) * m) dropped scale = some r ∧
      r.toRat = (m : ℚ) / 10 ^ scale := by
  induction scale generalizing m dropped with
  | zero =>
      rcases hrep with ⟨a, ha⟩
      rcases natAbs_lt_or_spare_zero ha with hroom | ⟨s, m', hs, _⟩
      · exact fit?_of_room m dropped 0 hscale hroom
      · omega
  | succ s ih =>
      rcases hrep with ⟨a, ha⟩
      by_cases hroom : m.natAbs < limit
      · exact fit?_of_room m dropped (s + 1) hscale hroom
      · rcases natAbs_lt_or_spare_zero ha with hlt | ⟨_, m', _, hm⟩
        · exact absurd hlt hroom
        have hquot : (m' : ℚ) / 10 ^ s = (m : ℚ) / 10 ^ (s + 1) := by
          rw [hm, pow_succ]
          push_cast
          field_simp
        rcases ih m' (dropped + 1) (by omega) (by rw [hquot]; exact ⟨a, ha⟩) with ⟨r, hr, hval⟩
        refine ⟨r, ?_, by rw [hval, hquot]⟩
        have hfirst : atScale? ((10 ^ dropped : Nat) * m) dropped (s + 1) = none := by
          unfold atScale?
          rw [Nat.pow_eq, roundEven_mul m (10 ^ dropped) (by positivity), ofUnits?_eq_none_iff]
          omega
        have hunits : ((10 ^ dropped : Nat) : Int) * m = (10 ^ (dropped + 1) : Nat) * m' := by
          rw [hm]
          push_cast
          ring
        unfold fit?
        rw [hfirst, Option.none_or, hunits, hr]

/-- The number is so far from zero that as a whole number it would be rounded to one that has no
    room. -/
def OutOfRange (q : ℚ) : Prop := (2 * limit - 1 : ℚ) / 2 ≤ |q|

/-- Units divided by a power of ten are out of range as a whole number says it. -/
theorem outOfRange_div_iff (n : Int) (k : Nat) :
    OutOfRange ((n : ℚ) / 10 ^ k) ↔ (2 * limit - 1) * (10 ^ k : Nat) ≤ 2 * |n| := by
  unfold OutOfRange
  rw [abs_div, abs_of_pos (pow_scale_pos k), div_le_div_iff₀ (by norm_num) (pow_scale_pos k),
    mul_comm |(n : ℚ)| 2, ← Int.cast_abs]
  exact_mod_cast Iff.rfl

theorem atScale?_eq_none_iff (n : Int) (dropped scale : Nat) (hscale : scale ≤ 28) :
    atScale? n dropped scale = none ↔ (2 * limit - 1) * (10 ^ dropped : Nat) ≤ 2 * |n| := by
  have hround := le_natAbs_roundEven_iff n (10 ^ dropped) (by positivity) limit (by decide)
    (by decide)
  unfold atScale?
  rw [ofUnits?_eq_none_iff, Nat.pow_eq, ← hround]
  omega

/-- What does not fit is out of range: the last attempt gives up all digits behind the point, and
    the ones before it ask for more. -/
theorem fit?_eq_none_iff (n : Int) (dropped scale : Nat) (hscale : scale ≤ 28) :
    fit? n dropped scale = none ↔ OutOfRange ((n : ℚ) / 10 ^ (dropped + scale)) := by
  rw [outOfRange_div_iff]
  induction scale generalizing dropped with
  | zero =>
      unfold fit?
      rw [atScale?_eq_none_iff n dropped 0 hscale, Nat.add_zero]
  | succ s ih =>
      unfold fit?
      rw [Option.or_eq_none_iff, atScale?_eq_none_iff n dropped (s + 1) hscale,
        ih (dropped + 1) (by omega), show dropped + 1 + s = dropped + (s + 1) by omega]
      have hmono : (10 : Int) ^ dropped ≤ 10 ^ (dropped + (s + 1)) :=
        pow_le_pow_right₀ (by norm_num) (by omega)
      -- The bound grows with the digits that are given up, so the later attempts decide.
      constructor
      · exact fun h => h.2
      · intro h
        refine ⟨?_, h⟩
        refine le_trans ?_ h
        have hfactor : (0 : Int) ≤ 2 * limit - 1 := by decide
        push_cast
        exact mul_le_mul_of_nonneg_left hmono hfactor

theorem commonScale_le (a b : Decimal) : commonScale a b ≤ 28 := by
  unfold commonScale
  exact Nat.max_le.mpr ⟨a.scale_le, b.scale_le⟩

/-- The sum of two numbers, from the units at the common scale. -/
theorem toRat_add (a b : Decimal) :
    a.toRat + b.toRat = (sumUnits a b : ℚ) / 10 ^ commonScale a b := by
  have ha : a.scale + (commonScale a b - a.scale) = commonScale a b :=
    Nat.add_sub_cancel' (Nat.le_max_left _ _)
  have hb : b.scale + (commonScale a b - b.scale) = commonScale a b :=
    Nat.add_sub_cancel' (Nat.le_max_right _ _)
  rw [toRat_eq_unitsAt a (commonScale a b - a.scale),
    toRat_eq_unitsAt b (commonScale a b - b.scale), ha, hb, ← add_div, sumUnits, Int.cast_add]

/-- No decimal is out of range. -/
theorem not_outOfRange_toRat (a : Decimal) : ¬ OutOfRange a.toRat := by
  rw [toRat_eq, outOfRange_div_iff, not_le]
  have hlt := natAbs_units_lt a
  have hone : (1 : Int) ≤ (10 ^ a.scale : Nat) := by exact_mod_cast Nat.one_le_pow _ _ (by norm_num)
  have habs : |a.units| + 1 ≤ (limit : Int) := by
    rw [Int.abs_eq_natAbs]
    omega
  calc 2 * |a.units| < (2 * limit - 1) * 1 := by omega
    _ ≤ (2 * limit - 1) * (10 ^ a.scale : Nat) :=
        mul_le_mul_of_nonneg_left hone (by decide)

/-- No decimal is farther from zero than the largest one. -/
theorem abs_toRat_le (a : Decimal) : |a.toRat| ≤ max.toRat := by
  have hmax : max.toRat = limit - 1 := by
    norm_num [toRat_eq, max, units, limit]
  have hunits : (|a.units| : ℚ) ≤ limit - 1 := by
    have hlt := natAbs_units_lt a
    have hint : |a.units| ≤ (limit : Int) - 1 := by
      rw [Int.abs_eq_natAbs]
      omega
    exact_mod_cast hint
  rw [toRat_eq, abs_div, abs_of_pos (pow_scale_pos _), hmax]
  exact (div_le_self (abs_nonneg _) (one_le_pow₀ (by norm_num))).trans hunits

/-- What is out of range is farther from zero than the largest decimal. -/
theorem max_lt_of_outOfRange {q : ℚ} (h : OutOfRange q) : max.toRat < |q| := by
  have hmax : max.toRat < (2 * limit - 1 : ℚ) / 2 := by
    norm_num [toRat_eq, max, units, limit]
  exact hmax.trans_le h

/-- The sum, when neither side is zero, is what fits of the exact one; a side that is zero leaves
    the other as it is. -/
theorem add?_cases (a b : Decimal) :
    (∃ r, a.add? b = some r ∧ Exact a b r) ∨
      a.add? b = fit? (sumUnits a b) 0 (commonScale a b) := by
  unfold add?
  split
  · next ha =>
      left
      refine ⟨b, rfl, ?_⟩
      unfold Exact
      rw [(isZero_iff a).mp ha, zero_add]
  · split
    · next hb =>
        left
        refine ⟨a, rfl, ?_⟩
        unfold Exact
        rw [(isZero_iff b).mp hb, add_zero]
    · exact Or.inr rfl

/-- A sum that can be represented is found, with nothing lost. -/
theorem add?_of_representable {a b : Decimal} (h : Representable (a.toRat + b.toRat)) :
    ∃ r, a.add? b = some r ∧ Exact a b r := by
  rcases add?_cases a b with hexact | hfit
  · exact hexact
  · unfold Exact
    rw [toRat_add] at h ⊢
    have hfound := fit?_of_representable (sumUnits a b) 0 (commonScale a b) (commonScale_le a b) h
    rw [pow_zero, Nat.cast_one, one_mul] at hfound
    rw [hfit]
    exact hfound

/-- A sum is exact when it can be represented, and only then. -/
theorem add?_exact_iff {a b r : Decimal} (h : a.add? b = some r) :
    Exact a b r ↔ Representable (a.toRat + b.toRat) := by
  constructor
  · exact fun hexact => ⟨r, hexact⟩
  · intro hrep
    rcases add?_of_representable hrep with ⟨r', hr', hexact⟩
    rw [h, Option.some.injEq] at hr'
    rw [hr']
    exact hexact

/-- A sum is off by at most half of its last digit. -/
theorem add?_near {a b r : Decimal} (h : a.add? b = some r) :
    |r.toRat - (a.toRat + b.toRat)| ≤ 1 / (2 * 10 ^ r.scale) := by
  rcases add?_cases a b with ⟨r', hr', hexact⟩ | hfit
  · rw [h, Option.some.injEq] at hr'
    rw [hr', hexact, sub_self, abs_zero]
    positivity
  · rw [toRat_add]
    exact fit?_near (hfit ▸ h)

/-- There is no sum when the number is out of range, and only then. -/
theorem add?_eq_none_iff (a b : Decimal) :
    a.add? b = none ↔ OutOfRange (a.toRat + b.toRat) := by
  rcases add?_cases a b with ⟨r, hr, hexact⟩ | hfit
  · rw [hr, ← hexact]
    simp only [reduceCtorEq, not_outOfRange_toRat]
  · rw [hfit, fit?_eq_none_iff _ _ _ (commonScale_le a b), Nat.zero_add, toRat_add]

/-- A sum that is rounded away entirely was no larger than what fits without rounding. -/
theorem add?_eq_zero_iff {a b r : Decimal} (h : a.add? b = some r) :
    r.toRat = 0 ↔ a.toRat + b.toRat = 0 := by
  constructor
  · intro hzero
    have hnear := add?_near h
    rw [hzero, zero_sub, abs_neg, toRat_add, abs_div, abs_of_pos (pow_scale_pos _),
      div_le_div_iff₀ (pow_scale_pos _) (by positivity)] at hnear
    have hone : (1 : ℚ) ≤ 2 * 10 ^ r.scale := by
      have hscale : (1 : ℚ) ≤ 10 ^ r.scale := one_le_pow₀ (by norm_num)
      linarith
    -- So few units have room, and a sum with room is not rounded at all.
    have hsmall : |(sumUnits a b : ℚ)| ≤ 10 ^ 28 := calc
      |(sumUnits a b : ℚ)| = |(sumUnits a b : ℚ)| * 1 := (mul_one _).symm
      _ ≤ |(sumUnits a b : ℚ)| * (2 * 10 ^ r.scale) :=
          mul_le_mul_of_nonneg_left hone (abs_nonneg _)
      _ ≤ 1 * 10 ^ commonScale a b := hnear
      _ ≤ 10 ^ 28 := by
          rw [one_mul]
          exact pow_le_pow_right₀ (by norm_num) (commonScale_le a b)
    have hroom : (sumUnits a b).natAbs < limit := by
      rw [← Int.cast_abs, Int.abs_eq_natAbs] at hsmall
      have hnat : (sumUnits a b).natAbs ≤ 10 ^ 28 := by exact_mod_cast hsmall
      exact Nat.lt_of_le_of_lt hnat (by decide)
    rcases exists_ofUnits? hroom (commonScale_le a b) with ⟨x, hx⟩
    rcases ofUnits?_eq_some hx with ⟨hunits, hscale⟩
    have hrep : Representable (a.toRat + b.toRat) :=
      ⟨x, by rw [toRat_add, toRat_eq, hunits, hscale]⟩
    rw [← (add?_exact_iff h).mpr hrep, hzero]
  · intro hzero
    have hexact := (add?_exact_iff h).mpr (hzero ▸ ⟨zero, toRat_zero⟩)
    rw [hexact, hzero]

/-- Rounding keeps the sign of a sum: it moves by less than the last digit, and never to zero. -/
theorem add?_nonneg_iff {a b r : Decimal} (h : a.add? b = some r) :
    0 ≤ r.toRat ↔ 0 ≤ a.toRat + b.toRat := by
  have hnear := abs_le.mp (add?_near h)
  have hpow := pow_scale_pos r.scale
  have hhalf : 1 / (2 * 10 ^ r.scale) < 1 / (10 : ℚ) ^ r.scale :=
    one_div_lt_one_div_of_lt hpow (by linarith)
  have hhalfpos : (0 : ℚ) < 1 / (2 * 10 ^ r.scale) := by positivity
  constructor
  · intro hr
    rcases hr.lt_or_eq with hpos | hzero
    · -- The answer is at least one last digit above zero, and off by at most half of one.
      rw [toRat_eq, div_pos_iff_of_pos_right hpow, Int.cast_pos] at hpos
      have hdigit : 1 / (10 : ℚ) ^ r.scale ≤ r.toRat := by
        rw [toRat_eq, div_le_div_iff_of_pos_right hpow]
        exact_mod_cast hpos
      linarith
    · rw [(add?_eq_zero_iff h).mp hzero.symm]
  · intro hsum
    by_contra hneg
    rw [not_le] at hneg
    -- A negative answer is at least one last digit below zero.
    have hdigit : r.toRat ≤ -(1 / (10 : ℚ) ^ r.scale) := by
      rw [toRat_eq, div_lt_iff₀ hpow, zero_mul, Int.cast_lt_zero] at hneg
      rw [toRat_eq, ← neg_div, div_le_div_iff_of_pos_right hpow]
      have hunits : r.units ≤ -1 := by omega
      exact_mod_cast hunits
    linarith

end Decimal

end BankLedger
