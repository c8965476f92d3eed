import BankLedger.Proofs.Decimal.Sum

/-!
# Sums Go the Right Way

A sum that is rounded may be far from the exact one, as far as half of its last digit. All the same
it never crosses one of its two sides: adding something positive never lowers a number, and adding
something negative never raises it.

There are two cases. A side with no more digits behind the point than the rounded sum stands on
the grid to which the sum is rounded, and rounding to a grid does not cross its points. A side
with more digits does not stand there. But then the sum had to give up digits that this side has
room for, so it is farther from zero than every decimal with these digits, and rounding leaves
enough of the distance.

## Theorems

* `le_roundEven_of_lt`: Rounding reaches what is less than half a unit above.
* `fit?_crowded`: Digits are given up only when there is no room for one more.
* `add?_neg`: Addition does not prefer a side.
* `le_of_fit?_on_grid`, `le_of_fit?_off_grid`: A rounded sum does not cross a decimal.
* `le_add?_of_nonneg`, `add?_le_of_nonpos`: A sum lies on the right side of what was added to.
-/

namespace BankLedger

namespace Decimal

/-- Rounding reaches every number that is less than half a unit above the quotient. -/
theorem le_roundEven_of_lt {n : Int} {d : Nat} (hd : 0 < d) {m : Int}
    (h : (2 * m - 1) * d < 2 * n) : m ≤ roundEven n d := by
  rcases two_mul_roundEven_sub_le n d hd with ⟨_, hlow⟩
  have hdpos : (0 : Int) < d := by omega
  have hmul : (2 * m - 2) * d < 2 * roundEven n d * d := by linarith
  have hlt := lt_of_mul_lt_mul_right hmul hdpos.le
  omega

-- By induction on the digits behind the point, as they are given up one after the other.
/-- Digits are given up only when there is no room for the units with one more of them. -/
theorem fit?_crowded {n : Int} {dropped scale : Nat} {r : Decimal} (hscale : scale ≤ 28)
    (h : fit? n dropped scale = some r) : r.scale = scale ∨ ∃ k, scale = k + 1 + r.scale ∧
      (2 * limit - 1) * (10 ^ (dropped + k) : Nat) ≤ 2 * |n| := by
  induction scale generalizing dropped with
  | zero => exact Or.inl (atScale?_eq_some h).2
  | succ s ih =>
      unfold fit? at h
      rcases Option.or_eq_some_iff.mp h with hfirst | ⟨hfirst, hlater⟩
      · exact Or.inl (atScale?_eq_some hfirst).2
      · rcases ih (by omega) hlater with hlast | ⟨k, hk, hcrowded⟩
        · exact Or.inr ⟨0, by omega, (atScale?_eq_none_iff n dropped (s + 1) hscale).mp hfirst⟩
        · refine Or.inr ⟨k + 1, by omega, ?_⟩
          rw [show dropped + (k + 1) = dropped + 1 + k by omega]
          exact hcrowded

section Symmetry

theorem ofUnits?_neg (n : Int) (scale : Nat) :
    ofUnits? (-n) scale = (ofUnits? n scale).map (-·) := by
  unfold ofUnits? ofParts?
  rw [Int.natAbs_neg]
  split
  · rw [Option.map_some, Option.some.injEq]
    change _ = neg _
    unfold neg isZero
    by_cases hzero : n = 0
    · simp [hzero]
    · have hsign : decide (-n < 0) = !decide (n < 0) := by
        rw [← decide_not, decide_eq_decide]
        omega
      rw [hsign]
      simp [hzero]
  · rfl

theorem fit?_neg (n : Int) (dropped scale : Nat) :
    fit? (-n) dropped scale = (fit? n dropped scale).map (-·) := by
  have hscale (dropped scale : Nat) :
      atScale? (-n) dropped scale = (atScale? n dropped scale).map (-·) := by
    unfold atScale?
    rw [Nat.pow_eq, roundEven_neg n (10 ^ dropped) (by positivity), ofUnits?_neg]
  induction scale generalizing dropped with
  | zero => exact hscale dropped 0
  | succ s ih =>
      unfold fit?
      rw [hscale, ih]
      cases atScale? n dropped (s + 1) <;> rfl

theorem isZero_neg (a : Decimal) : (-a).isZero = a.isZero := by
  rw [Bool.eq_iff_iff, isZero_iff, isZero_iff, toRat_neg, neg_eq_zero]

theorem sumUnits_neg (a b : Decimal) : sumUnits (-a) (-b) = -sumUnits a b := by
  unfold sumUnits commonScale unitsAt
  rw [scale_neg, scale_neg, units_neg, units_neg]
  ring

/-- Addition does not prefer a side. -/
theorem add?_neg (a b : Decimal) : (-a).add? (-b) = (a.add? b).map (-·) := by
  have hscale : commonScale (-a) (-b) = commonScale a b := by
    unfold commonScale
    rw [scale_neg, scale_neg]
  unfold add?
  rw [isZero_neg, isZero_neg, sumUnits_neg, hscale, fit?_neg]
  cases a.isZero
  · cases b.isZero <;> rfl
  · rfl

end Symmetry

section Crossing

variable {a : Decimal} {n : Int} {scale : Nat} {r : Decimal}

/-- A decimal on the grid of the rounded sum is not crossed. -/
theorem le_of_fit?_on_grid (h : fit? n 0 scale = some r) (hle : a.toRat ≤ n / 10 ^ scale)
    (hgrid : a.scale ≤ r.scale) : a.toRat ≤ r.toRat := by
  rcases fit?_eq_some h with ⟨k, hk, _, hunits⟩
  have hscale : scale = r.scale + k := by omega
  have ha : a.toRat = (a.unitsAt (r.scale - a.scale) : ℚ) / 10 ^ r.scale := by
    rw [toRat_eq_unitsAt a (r.scale - a.scale), Nat.add_sub_cancel' hgrid]
  -- On the grid the units of the sum are at least those of the decimal, with `k` zeros behind.
  have hbelow : a.unitsAt (r.scale - a.scale) * (10 ^ k : Nat) ≤ n := by
    rw [ha, hscale, pow_add, div_le_div_iff₀ (pow_scale_pos _) (by positivity),
      mul_comm (10 ^ r.scale : ℚ), ← mul_assoc, mul_le_mul_iff_left₀ (pow_scale_pos _)] at hle
    exact_mod_cast hle
  have hpow : 0 < 10 ^ k := Nat.pow_pos (by omega)
  have hround : a.unitsAt (r.scale - a.scale) ≤ roundEven n (10 ^ k) := by
    refine le_roundEven_of_lt hpow ?_
    have hpos : (0 : Int) < (10 ^ k : Nat) := by exact_mod_cast hpow
    linarith
  rw [ha, toRat_eq r, hunits, div_le_div_iff_of_pos_right (pow_scale_pos _)]
  exact_mod_cast hround

/-- A decimal with as many digits behind the point, or more, is no farther from zero than the
    coefficient has room. -/
theorem abs_mul_pow_le {k : Nat} (hk : k ≤ a.scale) : |a.toRat * 10 ^ k| ≤ limit - 1 := by
  have hunits : (|a.units| : ℚ) ≤ limit - 1 := by
    have hlt := natAbs_units_lt a
    have hint : |a.units| ≤ (limit : Int) - 1 := by
      rw [Int.abs_eq_natAbs]
      omega
    exact_mod_cast hint
  have hscale : a.toRat * 10 ^ k = a.units / 10 ^ (a.scale - k) := by
    rw [toRat_eq, div_mul_eq_mul_div, div_eq_div_iff (pow_scale_pos _).ne' (pow_scale_pos _).ne',
      mul_assoc, ← pow_add, Nat.add_sub_cancel' hk]
  rw [hscale, abs_div, abs_of_pos (pow_scale_pos _)]
  exact (div_le_self (abs_nonneg _) (one_le_pow₀ (by norm_num))).trans hunits

/-- The whole number that rounding reaches when the last digit had to be given up. -/
def crowdedUnits : Nat := limit / 10 + 1

-- Everything is counted in units of one digit more than the sum has. There the sum is farther from
-- zero than the decimal can be, so it is above zero, and what rounding can take from it is less
-- than what it has in advance.
/-- A decimal that stands between the points of the grid is not crossed either. -/
theorem le_of_fit?_off_grid (hscale : scale ≤ 28) (h : fit? n 0 scale = some r)
    (hle : a.toRat ≤ n / 10 ^ scale) (hgrid : r.scale < a.scale) (ha : a.scale ≤ scale) :
    a.toRat ≤ r.toRat := by
  rcases fit?_crowded hscale h with hlast | ⟨k, hk, hcrowded⟩
  · omega
  rcases fit?_eq_some h with ⟨k', hk', _, hunits⟩
  obtain rfl : k' = k + 1 := by omega
  have hpow := pow_scale_pos k
  have hsmall := abs_le.mp (abs_mul_pow_le (a := a) (k := r.scale + 1) hgrid)
  have hsum : (n : ℚ) / 10 ^ scale * 10 ^ (r.scale + 1) = n / 10 ^ k := by
    rw [hk, show k + 1 + r.scale = k + (r.scale + 1) by omega, pow_add]
    field_simp
  have habove : a.toRat * 10 ^ (r.scale + 1) ≤ n / 10 ^ k := by
    rw [← hsum]
    exact mul_le_mul_of_nonneg_right hle (by positivity)
  have hfar : (2 * limit - 1 : ℚ) * 10 ^ k ≤ 2 * n := by
    have hcrowded' : (2 * limit - 1 : ℚ) * 10 ^ k ≤ 2 * |(n : ℚ)| := by
      rw [Nat.zero_add] at hcrowded
      exact_mod_cast hcrowded
    rcases le_or_gt 0 n with hn | hn
    · rwa [abs_of_nonneg (by exact_mod_cast hn)] at hcrowded'
    · rw [abs_of_neg (by exact_mod_cast hn)] at hcrowded'
      have hbelow : (n : ℚ) / 10 ^ k ≤ -((2 * limit - 1) / 2) := by
        rw [div_le_iff₀ hpow]
        linarith
      linarith [hsmall.1]
  have hround : (crowdedUnits : Int) ≤ r.units := by
    rw [hunits]
    refine le_roundEven_of_lt (Nat.pow_pos (by omega)) ?_
    have hlead : (2 * crowdedUnits - 1 : ℚ) * 10 < 2 * limit - 1 := by
      norm_num [crowdedUnits, limit]
    have hlt : (2 * crowdedUnits - 1 : ℚ) * 10 ^ (k + 1) < 2 * n := by
      rw [pow_succ]
      nlinarith
    exact_mod_cast hlt
  have hreach : a.toRat * 10 ^ (r.scale + 1) ≤ r.toRat * 10 ^ (r.scale + 1) := by
    have hr : r.toRat * 10 ^ (r.scale + 1) = r.units * 10 := by
      rw [toRat_eq, pow_succ]
      field_simp
    have hround' : (crowdedUnits : ℚ) ≤ r.units := by exact_mod_cast hround
    have hlead : (limit - 1 : ℚ) ≤ crowdedUnits * 10 := by norm_num [crowdedUnits, limit]
    rw [hr]
    linarith [hsmall.2]
  exact le_of_mul_le_mul_right hreach (by positivity)

end Crossing

variable {a b r : Decimal}

/-- Adding something that is not negative does not lower a number. -/
theorem le_add?_of_nonneg (h : a.add? b = some r) (hb : 0 ≤ b.toRat) : a.toRat ≤ r.toRat := by
  rcases add?_cases a b with ⟨r', hr', hexact⟩ | hfit
  · rw [h, Option.some.injEq] at hr'
    rw [hr', hexact]
    linarith
  · rw [h] at hfit
    have hle : a.toRat ≤ sumUnits a b / 10 ^ commonScale a b := by
      rw [← toRat_add]
      linarith
    rcases Nat.lt_or_ge r.scale a.scale with hoff | hon
    · exact le_of_fit?_off_grid (commonScale_le a b) hfit.symm hle hoff (Nat.le_max_left _ _)
    · exact le_of_fit?_on_grid hfit.symm hle hon

/-- Adding something that is not positive does not raise it. -/
theorem add?_le_of_nonpos (h : a.add? b = some r) (hb : b.toRat ≤ 0) : r.toRat ≤ a.toRat := by
  have hneg : (-a).add? (-b) = some (-r) := by
    rw [add?_neg, h]
    rfl
  have hle := le_add?_of_nonneg hneg (by rw [toRat_neg]; linarith)
  rw [toRat_neg, toRat_neg] at hle
  linarith

end Decimal

end BankLedger
