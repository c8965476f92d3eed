import BankLedger.Proofs.Binary64.Shortest
import BankLedger.Proofs.Decimal.Plain

/-!
# There and Back

A decimal is rounded to the nearest binary fraction, and the fraction is written as its shortest
decimal. What comes back is the decimal that went in when that was the shortest one already, and
otherwise it is another number.

Fifteen significant digits always survive, because two decimals of fifteen digits are never rounded
to the same fraction. With more digits it depends on the number.

## Main definitions

* `ReadsBack`: The number is the shortest decimal of the fraction nearest to it.

## Theorems

* `ofDecimal?_eq_some`: Every decimal of the range of money is near a fraction with all its bits.
* `readsBack_iff_ofPlain?`: What is written is read as the number when the number reads back.
* `readsBack_of_digits`: Fifteen digits read back.
-/

namespace BankLedger

namespace Decimal

/-- What is representable is a whole number of the smallest steps. -/
theorem Representable.exists_nat {q : ℚ} (h : Representable q) (hq : 0 ≤ q) :
    ∃ c : Nat, q = c * 10 ^ (-28 : Int) := by
  rcases h with ⟨a, rfl⟩
  -- Digits that are not there up to the last place are filled up with zeros.
  refine ⟨a.coefficient * 10 ^ (28 - a.scale), ?_⟩
  have hunits : a.units = a.coefficient := by
    have hnonneg := (not_isNegative_iff a).mpr hq
    unfold isNegative at hnonneg
    have habs := natAbs_units a
    have hle : ¬ a.units < 0 := of_decide_eq_false hnonneg
    omega
  have hsplit : (10 : ℚ) ^ 28 = 10 ^ a.scale * 10 ^ (28 - a.scale) := by
    have hscale := a.scale_le
    rw [← pow_add]
    congr 1
    omega
  have hpos := pow_scale_pos a.scale
  have hpos' := pow_scale_pos (28 - a.scale)
  rw [toRat_eq, hunits, zpow_neg, show ((28 : Int)) = ((28 : Nat) : Int) from rfl, zpow_natCast,
    hsplit]
  push_cast
  field_simp

theorem Representable.lt_limit {q : ℚ} (h : Representable q) : q < limit := by
  rcases h with ⟨a, rfl⟩
  have hunits : (a.units : ℚ) < limit := by
    have hlt := a.natAbs_units_lt
    have hlt' : a.units < limit := by omega
    exact_mod_cast hlt'
  rw [toRat_eq, div_lt_iff₀ (pow_scale_pos a.scale)]
  have hone : (1 : ℚ) ≤ 10 ^ a.scale := one_le_pow₀ (by norm_num)
  have hlimit : (0 : ℚ) < limit := by norm_num [limit]
  nlinarith

end Decimal

namespace Binary64

/-- The numbers of the range of money: not below the smallest step, and with at most 96 bits before
    the point. -/
def InRange (q : ℚ) : Prop := (1 : ℚ) / 10 ^ 28 ≤ q ∧ q < 2 ^ 96

theorem inRange_of_representable {q : ℚ} (h : Decimal.Representable q) (hq : 0 < q) :
    InRange q := by
  rcases h.exists_nat hq.le with ⟨c, hc⟩
  have hlimit := h.lt_limit
  refine ⟨?_, by norm_num [Decimal.limit] at hlimit ⊢; exact hlimit⟩
  have hcpos : 1 ≤ c := by
    by_contra hzero
    have hzero' : c = 0 := by omega
    rw [hc, hzero', Nat.cast_zero, zero_mul] at hq
    exact lt_irrefl 0 hq
  have hstep : (0 : ℚ) < 10 ^ (-28 : Int) := ten_zpow_pos _
  have hcast : (1 : ℚ) ≤ c := by exact_mod_cast hcpos
  have hten : (10 : ℚ) ^ (-28 : Int) = 1 / 10 ^ 28 := by norm_num
  rw [hc, ← hten]
  nlinarith

/-- The exponents of the range of money are far from both ends. -/
theorem exponent_bounds {q : ℚ} (hq : InRange q) {e : Int} (h : InBinade q e) :
    -147 < e ∧ e < 44 := by
  rcases h with ⟨hlow, hhigh⟩
  rw [le_div_iff₀ (two_zpow_pos e)] at hlow
  rw [div_lt_iff₀ (two_zpow_pos e)] at hhigh
  -- Either end of the range lies between two powers of two, and their exponents are compared.
  constructor
  · have hlt : (2 : ℚ) ^ (-94 : Int) < 2 ^ (53 + e) := by
      have hstep : (2 : ℚ) ^ (-94 : Int) ≤ 1 / 10 ^ 28 := by norm_num
      have hsplit : (2 : ℚ) ^ (53 + e) = 2 ^ 53 * 2 ^ e := by
        rw [zpow_add₀ (by norm_num)]
        norm_num
      rw [hsplit]
      exact lt_of_le_of_lt (le_trans hstep hq.1) hhigh
    rw [zpow_lt_zpow_iff_right₀ (by norm_num)] at hlt
    omega
  · have hlt : (2 : ℚ) ^ (52 + e) < 2 ^ (96 : Int) := by
      have hsplit : (2 : ℚ) ^ (52 + e) = 2 ^ 52 * 2 ^ e := by
        rw [zpow_add₀ (by norm_num)]
        norm_num
      rw [hsplit]
      exact_mod_cast lt_of_le_of_lt hlow hq.2
    rw [zpow_lt_zpow_iff_right₀ (by norm_num)] at hlt
    omega

theorem isNormal_of_bounds (negative : Bool) {m : Nat} {e : Int} (hlow : leadingBit ≤ m)
    (hhigh : m < 2 * leadingBit) (he : -147 < e ∧ e ≤ 44) : IsNormal ⟨negative, m, e⟩ := by
  refine ⟨hlow, hhigh, ?_, ?_⟩
  · unfold minExponent
    simp only
    omega
  · unfold maxExponent
    simp only
    omega

/-- Every ratio of the range of money is near a fraction with all its bits. -/
theorem ofRatio?_eq_some (negative : Bool) {n d : Nat} (hn : 0 < n) (hd : 0 < d)
    (hq : InRange ((n : ℚ) / d)) :
    ∃ x, x.IsNormal ∧ x.negative = negative ∧ ofRatio? negative n d = some x := by
  rcases unitExponent_eq n d hn hd with ⟨e, hbinade, hunit⟩
  rcases ofRatio?_eq negative hn hd with ⟨m, hm, hrun⟩
  have hbounds := exponent_bounds hq hbinade
  have hunit' : unitExponent n d = e := by
    unfold minExponent at hunit
    omega
  rw [hunit'] at hm hrun
  rcases (hm m).mp rfl with ⟨⟨hmhigh, hmlow⟩, _⟩
  -- Rounding moves by half a unit at most, so only the carry leaves the binade.
  have hlow : leadingBit ≤ m := by
    have hlt : (2 : ℚ) ^ 52 < m + 1 := by
      have hle := hbinade.1
      linarith
    have hlt' : 2 ^ 52 < m + 1 := by exact_mod_cast hlt
    unfold leadingBit
    omega
  have hhigh : m ≤ 2 * leadingBit := by
    have hlt : (m : ℚ) < 2 ^ 53 + 1 := by
      have hle := hbinade.2
      linarith
    have hlt' : m < 2 ^ 53 + 1 := by exact_mod_cast hlt
    unfold leadingBit
    omega
  by_cases hcarry : m = 2 * leadingBit
  · have hnormal := isNormal_of_bounds negative (le_refl leadingBit) (by decide)
      (show -147 < e + 1 ∧ e + 1 ≤ 44 by omega)
    have hmax := hnormal.le_maxExponent
    refine ⟨_, hnormal, rfl, ?_⟩
    rw [hrun, if_pos hcarry, if_neg (not_lt.mpr hmax)]
  · have hnormal := isNormal_of_bounds negative hlow (lt_of_le_of_ne hhigh hcarry)
      (show -147 < e ∧ e ≤ 44 by omega)
    have hmax := hnormal.le_maxExponent
    refine ⟨_, hnormal, rfl, ?_⟩
    rw [hrun, if_neg hcarry, if_neg (not_lt.mpr hmax)]

/-- The digits of a numeral of the range of money decide its size within the guards. -/
theorem size_bounds {c s : Nat} (hc : c ≠ 0) (hq : InRange ((c : ℚ) / 10 ^ s)) :
    -28 < ((Nat.toDigits 10 c).length : Int) - s ∧ ((Nat.toDigits 10 c).length : Int) - s < 30 := by
  have hpow : (0 : ℚ) < 10 ^ s := by positivity
  rcases length_toDigits_bounds (Nat.pos_of_ne_zero hc) with ⟨hlength, habove, hbelow⟩
  generalize (Nat.toDigits 10 c).length = l at hlength hbelow habove
  -- The same for powers of ten, with the digits of the numeral on one side.
  constructor
  · have hle : (10 : ℚ) ^ s ≤ c * 10 ^ 28 := by
      have hlow := hq.1
      rw [div_le_div_iff₀ (by positivity) hpow] at hlow
      linarith
    have hle' : 10 ^ s ≤ c * 10 ^ 28 := by exact_mod_cast hle
    have hlt : 10 ^ s < 10 ^ (l + 28) := by
      rw [pow_add]
      exact lt_of_le_of_lt hle' (Nat.mul_lt_mul_of_pos_right hbelow (by norm_num))
    have hexp := (Nat.pow_lt_pow_iff_right (by norm_num)).mp hlt
    omega
  · have hlt : (c : ℚ) < 10 ^ 29 * 10 ^ s := by
      have hhigh := hq.2
      rw [div_lt_iff₀ hpow] at hhigh
      have hstep : (2 : ℚ) ^ 96 ≤ 10 ^ 29 := by norm_num
      nlinarith
    have hlt' : c < 10 ^ 29 * 10 ^ s := by exact_mod_cast hlt
    rw [← pow_add] at hlt'
    have hexp := (Nat.pow_lt_pow_iff_right (by norm_num)).mp (lt_of_le_of_lt habove hlt')
    omega

/-- A numeral of the range of money is rounded to a fraction with all its bits. -/
theorem ofDecimal?_eq_some (negative : Bool) {c s : Nat} (hc : c ≠ 0)
    (hq : InRange ((c : ℚ) / 10 ^ s)) :
    ∃ x, x.IsNormal ∧ x.negative = negative ∧ ofDecimal? negative c (0 - s) = some x ∧
      x.Covers ((c : ℚ) / 10 ^ s) := by
  have hpow : 0 < 10 ^ s := Nat.pow_pos (by norm_num)
  have hcast : ((10 ^ s : Nat) : ℚ) = 10 ^ s := by push_cast; rfl
  rcases ofRatio?_eq_some negative (Nat.pos_of_ne_zero hc) hpow (by rwa [hcast]) with
    ⟨x, hx, hsign, hrun⟩
  have hcovers : x.Covers ((c : ℚ) / 10 ^ s) := by
    rw [← hsign, ofRatio?_eq_some_iff hx (Nat.pos_of_ne_zero hc) hpow, hcast] at hrun
    exact hrun
  refine ⟨x, hx, hsign, ?_, hcovers⟩
  have hsize := size_bounds hc hq
  -- Neither of the guards for extreme sizes stops it.
  have hzero : (decide (c = 0) || decide (((Nat.toDigits 10 c).length : Int) + (0 - s) < -400))
      = false := by
    simp only [hc, decide_false, Bool.false_or, decide_eq_false_iff_not]
    omega
  unfold ofDecimal?
  simp only [hzero, Bool.false_eq_true, if_false]
  rw [if_neg (by omega)]
  rcases Nat.eq_zero_or_pos s with hnone | hsome
  · rw [hnone, pow_zero] at hrun
    rw [hnone, if_neg (by norm_num)]
    simpa using hrun
  · have hneg : (0 : Int) - s < 0 := by omega
    have habs : ((0 : Int) - s).natAbs = s := by omega
    rw [if_pos hneg, habs]
    exact hrun

/-- The number is the shortest decimal of the fraction nearest to it. -/
def ReadsBack (q : ℚ) : Prop :=
  ∃ (x : Binary64) (n : Nat) (k : Int),
    x.IsNormal ∧ x.Covers q ∧ x.IsShortest n k ∧ q = n * 10 ^ k

/-- The sign of a fraction does not matter for its shortest decimal. -/
theorem IsShortest.of_sign {x : Binary64} {n : Nat} {k : Int} (h : x.IsShortest n k)
    (negative : Bool) : IsShortest { x with negative := negative } n k :=
  ⟨⟨h.covers, h.le_of_covers, h.le_of_eq⟩, h.not_covers⟩

/-- A number lies in the interval of only one fraction, up to its sign. -/
theorem covers_unique {x x' : Binary64} (hx : x.IsNormal) (hx' : x'.IsNormal) {q : ℚ}
    (h : x.Covers q) (h' : x'.Covers q) : x = { x' with negative := x.negative } := by
  have hq := covers_pos hx h
  have hnum : 0 < q.num.natAbs := Int.natAbs_pos.mpr (Rat.num_pos.mpr hq).ne'
  have hratio : (q.num.natAbs : ℚ) / q.den = q := by
    have habs : (q.num.natAbs : Int) = q.num := by
      have hnum' := Rat.num_pos.mpr hq
      omega
    rw [← Int.cast_natCast, habs, Rat.num_div_den]
  -- Both are what the ratio is rounded to.
  have hrun := (ofRatio?_eq_some_iff hx hnum q.den_pos).mpr (hratio.symm ▸ h)
  have hx'' : IsNormal { x' with negative := x.negative } :=
    ⟨hx'.leadingBit_le, hx'.lt_two_leadingBit, hx'.minExponent_lt, hx'.le_maxExponent⟩
  have hrun' := (ofRatio?_eq_some_iff hx'' hnum q.den_pos).mpr (hratio.symm ▸ h')
  exact Option.some.inj (hrun.symm.trans hrun')

theorem readsBack_iff {x : Binary64} (hx : x.IsNormal) {q : ℚ} (hq : x.Covers q) :
    ReadsBack q ↔ q = (x.shortest .away).1 * 10 ^ (x.shortest .away).2 := by
  constructor
  · rintro ⟨x', n, k, hx', hq', hshortest, hnumber⟩
    rw [covers_unique hx' hx hq' hq] at hshortest
    rcases isShortest_unique (hshortest.of_sign x.negative) (isShortest_shortest hx) with
      ⟨hn, hk⟩
    rw [← hn, ← hk]
    exact hnumber
  · intro hnumber
    exact ⟨x, _, _, hx, hq, isShortest_shortest hx, hnumber⟩

/-- A shortest decimal has at most nineteen digits. -/
theorem IsShortest.lt_limit {x : Binary64} (hx : x.IsNormal) {n : Nat} {k : Int}
    (h : x.IsShortest n k) : n < Decimal.limit := by
  rcases covers_above hx with ⟨j, hj⟩
  rcases lead_bounds hx with ⟨hlow, hhigh⟩
  have hk := h.le_exponent hj
  have hwidth := covers_sub_le hx (covers_magnitude hx) h.covers
  have hunit := (unit_bounds hx hlow hhigh).1
  have hpos := ten_zpow_pos k
  -- The decimal is within one unit of the fraction, and its last place is no finer than the
  -- grid on which the search ends at the latest.
  have hbound : (n : ℚ) * 10 ^ k < 10 ^ 19 * 10 ^ k := by
    have hstep : (10 : ℚ) ^ (x.lead + 2) ≤ 10 ^ (19 + k) :=
      zpow_le_zpow_right₀ (by norm_num) (by omega)
    have hsmall : (10 : ℚ) ^ (x.lead - 14) ≤ 10 ^ (x.lead + 1) :=
      zpow_le_zpow_right₀ (by norm_num) (by omega)
    have hten : (10 : ℚ) ^ (x.lead + 2) = 10 ^ (x.lead + 1) * 10 := by
      rw [← zpow_add_one₀ (by norm_num)]
      congr 1
      omega
    have hnineteen : (10 : ℚ) ^ (19 + k) = 10 ^ 19 * 10 ^ k := by
      rw [zpow_add₀ (by norm_num)]
      norm_num
    rw [hnineteen, hten] at hstep
    have hlead := ten_zpow_pos (x.lead + 1)
    linarith
  have hn : (n : ℚ) < 10 ^ 19 := lt_of_mul_lt_mul_right hbound hpos.le
  have hn' : n < 10 ^ 19 := by exact_mod_cast hn
  unfold Decimal.limit
  omega

theorem signed_injective {negative : Bool} {q q' : ℚ}
    (h : Decimal.signed negative q = Decimal.signed negative q') : q = q' := by
  unfold Decimal.signed at h
  cases negative with
  | false => exact h
  | true => exact neg_injective h

/-- The shortest decimal of the fraction nearest to a number is read as this number when the number
    reads back, and only then. -/
theorem readsBack_iff_ofPlain? {x : Binary64} (hx : x.IsNormal) {q : ℚ} (hq : x.Covers q)
    (hrep : Decimal.Representable q) :
    ReadsBack q ↔ ∃ a, Decimal.ofPlain? x.toPlainChars = some a ∧
      a.toRat = Decimal.signed x.negative q := by
  have hshortest := isShortest_shortest hx
  rcases hrep.exists_nat (covers_pos hx hq).le with ⟨c, hc⟩
  have hread := Decimal.ofPlain?_positional x.negative (hshortest.lt_limit hx)
    (hshortest.le_exponent (hc ▸ hq))
  have hplain : x.toPlainChars = Decimal.signChars x.negative ++
      positional (x.shortest .away).1 (x.shortest .away).2 := rfl
  rw [readsBack_iff hx hq, hplain]
  -- The decimal is read as it is written, so two numbers of one sign are compared.
  constructor
  · intro hnumber
    rw [← hnumber, if_pos hrep.lt_limit, Option.map_eq_some_iff] at hread
    exact hread
  · rintro ⟨a, ha, hnumber⟩
    rw [ha, Option.map_some, hnumber] at hread
    split at hread
    · exact signed_injective (Option.some.inj hread)
    · cases hread

/-- Fifteen significant digits read back. -/
theorem readsBack_of_digits {x : Binary64} (hx : x.IsNormal) {m : Nat} (hm : m < 10 ^ 15) {j : Int}
    (hq : x.Covers (m * 10 ^ j)) : ReadsBack (m * 10 ^ j) := by
  rcases lead_bounds hx with ⟨hlow, hhigh⟩
  rcases significand_bounds hx with ⟨hsmall, _⟩
  have hpos := ten_zpow_pos j
  have hle : (m : ℚ) + 1 ≤ 10 ^ 15 := by exact_mod_cast hm
  -- A coarse fraction would be more than one unit away from the number.
  have hfine : x.lead - 14 ≤ j := by
    by_contra hcoarse
    have hlead : (10 : ℚ) ^ 15 * 10 ^ j ≤ x.magnitude := by
      have hstep : (10 : ℚ) ^ (15 + j) ≤ 10 ^ x.lead :=
        zpow_le_zpow_right₀ (by norm_num) (by omega)
      rw [zpow_add₀ (by norm_num)] at hstep
      exact le_trans (by exact_mod_cast hstep) hlow
    have hwidth := covers_sub_le hx hq (covers_magnitude hx)
    have hunit : (2 : ℚ) ^ 52 * 2 ^ x.exponent ≤ x.magnitude := by
      unfold magnitude
      exact mul_le_mul_of_nonneg_right hsmall (two_zpow_pos _).le
    nlinarith
  have hshortest := isShortest_shortest hx
  have hk := hshortest.le_exponent hq
  generalize (x.shortest .away).1 = n, (x.shortest .away).2 = k at hshortest hk
  -- The shortest decimal is on the grid of the number too, where it cannot be another point.
  have hsame : m = n * 10 ^ (k - j).natAbs := by
    refine covers_inj hx hfine hq ?_
    rw [mul_ten_zpow_of_le n hk]
    exact hshortest.covers
  refine ⟨x, n, k, hx, hq, hshortest, ?_⟩
  rw [hsame, mul_ten_zpow_of_le n hk]

end Binary64

end BankLedger
