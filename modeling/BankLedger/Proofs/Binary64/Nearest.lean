import BankLedger.Binary64.Shortest
import BankLedger.Proofs.Decimal.Rounding
import Mathlib.Algebra.Order.Field.Power
import Mathlib.Data.Rat.Cast.Order
import Mathlib.Tactic.FieldSimp
import Mathlib.Tactic.GCongr
import Mathlib.Tactic.NormNum
import Mathlib.Tactic.Positivity

/-!
# The Nearest Binary Fraction

Which numbers are rounded to a given binary fraction is a matter of an interval: from halfway to the
neighbour below up to halfway to the neighbour above, with the ends when the significand is even.

## Main definitions

* `magnitude`: The number a fraction stands for, without its sign.
* `IsNormal`: The significand has all its 53 bits.
* `Covers`: The number lies in the interval of the fraction.

## Theorems

* `ofRatio?_eq_some_iff`: A number is rounded to a fraction when it lies in its interval.
-/

namespace BankLedger

namespace Binary64

/-- The number a fraction stands for, without its sign. -/
def magnitude (x : Binary64) : ℚ := x.significand * 2 ^ x.exponent

theorem two_zpow_pos (e : Int) : (0 : ℚ) < 2 ^ e := zpow_pos (by norm_num) e

theorem roundDiv_eq_roundEven (n d : Nat) : (roundDiv n d : Int) = Decimal.roundEven n d := by
  unfold roundDiv Decimal.roundEven
  simp only
  split_ifs <;> omega

/-- The whole number `m` is nearest to `t`, or one of two that are nearest and the even one. -/
def RoundsTo (t : ℚ) (m : Nat) : Prop :=
  (m - 1 / 2 ≤ t ∧ t ≤ m + 1 / 2) ∧ (t = m - 1 / 2 ∨ t = m + 1 / 2 → m % 2 = 0)

theorem roundDiv_eq_iff (n d : Nat) (hd : 0 < d) (m : Nat) :
    roundDiv n d = m ↔ RoundsTo ((n : ℚ) / d) m := by
  have hdpos : (0 : ℚ) < d := by exact_mod_cast hd
  -- Twice the distance from the quotient, counted in the divisor: one half of it is `d`.
  generalize hx : 2 * ((d : Int) * m - n) = x
  have hxcast : (x : ℚ) = 2 * (d * m - n) := by
    rw [← hx]
    push_cast
    ring
  have hbelow : ∀ c : Int, (m : ℚ) - c / 2 ≤ n / d ↔ x ≤ c * d := by
    intro c
    rw [le_div_iff₀ hdpos, ← Int.cast_le (R := ℚ), hxcast]
    push_cast
    constructor <;> intro h <;> linarith
  have habove : ∀ c : Int, (n : ℚ) / d ≤ m - c / 2 ↔ c * d ≤ x := by
    intro c
    rw [div_le_iff₀ hdpos, ← Int.cast_le (R := ℚ), hxcast]
    push_cast
    constructor <;> intro h <;> linarith
  have hat : ∀ c : Int, (n : ℚ) / d = m - c / 2 ↔ x = c * d := by
    intro c
    rw [le_antisymm_iff, habove, hbelow, le_antisymm_iff, and_comm]
  have hlow := hbelow 1
  have hhigh := habove (-1)
  have hlow' := hat 1
  have hhigh' := hat (-1)
  have hround := Decimal.roundEven_eq_iff n d hd m
  have hparity : (m : Int) % 2 = 0 ↔ m % 2 = 0 := by omega
  rw [← roundDiv_eq_roundEven, Nat.cast_inj, hx, hparity] at hround
  push_cast [neg_div, sub_neg_eq_add] at hlow hhigh hlow' hhigh'
  unfold RoundsTo
  rw [hround, hlow, hhigh, hlow', hhigh']
  simp only [one_mul, neg_mul]

/-- A negative power is one over a power. -/
theorem zpow_of_neg (b : ℚ) {e : Int} (he : e < 0) : b ^ e = 1 / b ^ e.natAbs := by
  have habs : e = -(e.natAbs : Int) := by omega
  rw [one_div, ← zpow_natCast, ← zpow_neg, ← habs]

theorem zpow_of_not_neg (b : ℚ) {e : Int} (he : ¬ e < 0) : b ^ e = b ^ e.natAbs := by
  have habs : e = (e.natAbs : Int) := by omega
  rw [← zpow_natCast, ← habs]

/-- To shift is to multiply by a power of two. -/
theorem cast_shiftLeft (n k : Nat) : ((n <<< k : Nat) : ℚ) = n * 2 ^ k := by
  rw [Nat.shiftLeft_eq]
  push_cast
  rfl

theorem shiftLeft_pos {n : Nat} (hn : 0 < n) (k : Nat) : 0 < n <<< k := by
  rw [Nat.shiftLeft_eq]
  positivity

/-- A ratio counted in a power of two. -/
theorem inUnits_ratio (n d : Nat) (hd : 0 < d) (e : Int) :
    0 < (inUnits n d e).2 ∧
      ((inUnits n d e).1 : ℚ) / (inUnits n d e).2 = (n : ℚ) / d / 2 ^ e := by
  have hd' : (d : ℚ) ≠ 0 := by exact_mod_cast hd.ne'
  unfold inUnits
  split
  · next he =>
      refine ⟨hd, ?_⟩
      rw [cast_shiftLeft, zpow_of_neg 2 he]
      field_simp
  · next he =>
      refine ⟨shiftLeft_pos hd _, ?_⟩
      rw [cast_shiftLeft, zpow_of_not_neg 2 he]
      field_simp

/-- The power of two `e` leaves `q` with 53 bits before the point. -/
def InBinade (q : ℚ) (e : Int) : Prop := (2 : ℚ) ^ 52 ≤ q / 2 ^ e ∧ q / 2 ^ e < 2 ^ 53

theorem inBinade_unique {q : ℚ} {e e' : Int} (h : InBinade q e) (h' : InBinade q e') : e = e' := by
  -- Each step of the exponent halves the quotient, and the interval spans a factor of two.
  have hlt : ∀ {e e' : Int}, InBinade q e → InBinade q e' → ¬ e < e' := by
    intro e e' h h' hlt
    have hsplit : q / 2 ^ e = q / 2 ^ e' * 2 ^ (e' - e) := by
      rw [zpow_sub₀ (by norm_num)]
      field_simp
    have htwo : (2 : ℚ) ^ (1 : Int) ≤ 2 ^ (e' - e) := zpow_le_zpow_right₀ (by norm_num) (by omega)
    have hpos : (0 : ℚ) ≤ q / 2 ^ e' := le_trans (by norm_num) h'.1
    have hge := mul_le_mul h'.1 htwo (by norm_num) hpos
    rw [← hsplit] at hge
    have hbound := h.2
    norm_num at hge hbound
    linarith
  have hle := hlt h h'
  have hge := hlt h' h
  omega

/-- The bits of a number bound it. -/
theorem log2_bounds {n : Nat} (hn : 0 < n) :
    (2 : ℚ) ^ (n.log2 : Int) ≤ n ∧ (n : ℚ) < 2 ^ ((n.log2 : Int) + 1) := by
  have hlow := Nat.log2_self_le hn.ne'
  have hhigh := Nat.lt_log2_self (n := n)
  constructor
  · rw [zpow_natCast]
    exact_mod_cast hlow
  · have hcast : ((n.log2 : Int) + 1) = ((n.log2 + 1 : Nat) : Int) := by push_cast; rfl
    rw [hcast, zpow_natCast]
    exact_mod_cast hhigh

/-- The unit of a ratio is that of its binade, unless that is too small. -/
theorem unitExponent_eq (n d : Nat) (hn : 0 < n) (hd : 0 < d) :
    ∃ e, InBinade ((n : ℚ) / d) e ∧ unitExponent n d = max minExponent e := by
  rcases log2_bounds hn with ⟨hnlow, hnhigh⟩
  rcases log2_bounds hd with ⟨hdlow, hdhigh⟩
  have hdpos : (0 : ℚ) < d := by exact_mod_cast hd
  have hqpos : (0 : ℚ) < n / d := div_pos (by exact_mod_cast hn) hdpos
  unfold unitExponent
  simp only
  generalize he : (n.log2 : Int) - (d.log2 : Int) - 52 = e
  rcases inUnits_ratio n d hd e with ⟨hb, hratio⟩
  generalize inUnits n d e = ab at hb hratio
  rcases ab with ⟨a, b⟩
  simp only at hb hratio ⊢
  have hbpos : (0 : ℚ) < b := by exact_mod_cast hb
  -- The quotient of the two bounds is off by a factor of two in either direction.
  have hlow : (2 : ℚ) ^ 51 < n / d / 2 ^ e := by
    have hsplit : (2 : ℚ) ^ 51 * 2 ^ e = 2 ^ (n.log2 : Int) / 2 ^ ((d.log2 : Int) + 1) := by
      rw [← zpow_sub₀ (by norm_num), ← zpow_natCast, ← zpow_add₀ (by norm_num), ← he]
      congr 1
      push_cast
      ring
    rw [lt_div_iff₀ (two_zpow_pos e), hsplit]
    calc (2 : ℚ) ^ (n.log2 : Int) / 2 ^ ((d.log2 : Int) + 1)
        < 2 ^ (n.log2 : Int) / d := div_lt_div_of_pos_left (two_zpow_pos _) hdpos hdhigh
      _ ≤ n / d := div_le_div_of_nonneg_right hnlow hdpos.le
  have hhigh : (n : ℚ) / d / 2 ^ e < 2 ^ 53 := by
    have hsplit : (2 : ℚ) ^ 53 * 2 ^ e = 2 ^ ((n.log2 : Int) + 1) / 2 ^ (d.log2 : Int) := by
      rw [← zpow_sub₀ (by norm_num), ← zpow_natCast, ← zpow_add₀ (by norm_num), ← he]
      congr 1
      push_cast
      ring
    rw [div_lt_iff₀ (two_zpow_pos e), hsplit]
    calc (n : ℚ) / d
        < 2 ^ ((n.log2 : Int) + 1) / d := div_lt_div_of_pos_right hnhigh hdpos
      _ ≤ 2 ^ ((n.log2 : Int) + 1) / 2 ^ (d.log2 : Int) :=
          div_le_div_of_nonneg_left (two_zpow_pos _).le (two_zpow_pos _) hdlow
  have hfloor : a / b < leadingBit ↔ (a : ℚ) / b < 2 ^ 52 := by
    rw [Nat.div_lt_iff_lt_mul hb, div_lt_iff₀ hbpos]
    unfold leadingBit
    constructor
    · intro h
      exact_mod_cast h
    · intro h
      exact_mod_cast h
  by_cases hsmall : a / b < leadingBit
  · refine ⟨e - 1, ?_, by rw [if_pos hsmall]⟩
    rw [hfloor, hratio] at hsmall
    have hdouble : (n : ℚ) / d / 2 ^ (e - 1) = n / d / 2 ^ e * 2 := by
      rw [zpow_sub_one₀ (by norm_num)]
      field_simp
    unfold InBinade
    rw [hdouble]
    constructor
    · linarith
    · linarith
  · refine ⟨e, ?_, by rw [if_neg hsmall]⟩
    rw [hfloor, hratio, not_lt] at hsmall
    exact ⟨hsmall, hhigh⟩

/-- The significand has all its 53 bits, and the exponent is not one of the two smallest. -/
structure IsNormal (x : Binary64) : Prop where
  /-- The first bit is set. -/
  leadingBit_le : leadingBit ≤ x.significand
  /-- There are no more than 53 bits. -/
  lt_two_leadingBit : x.significand < 2 * leadingBit
  /-- The exponent is not one of the two smallest. -/
  minExponent_lt : minExponent + 1 < x.exponent
  /-- The exponent is not too large. -/
  le_maxExponent : x.exponent ≤ maxExponent

/-- The lower end of the interval of a fraction. -/
def low (x : Binary64) : ℚ := x.quarters.1 * 2 ^ (x.exponent - 2)

/-- The upper end of the interval of a fraction. -/
def high (x : Binary64) : ℚ := x.quarters.2.2 * 2 ^ (x.exponent - 2)

/-- The number lies in the interval of the fraction. The ends belong to it when the significand is
    even, because a tie goes to the even side. -/
def Covers (x : Binary64) (q : ℚ) : Prop :=
  if x.significand % 2 = 0 then x.low ≤ q ∧ q ≤ x.high else x.low < q ∧ q < x.high

/-- Whether the ends belong to it or not, nothing outside them is in the interval. -/
theorem Covers.bounds {x : Binary64} {q : ℚ} (h : x.Covers q) : x.low ≤ q ∧ q ≤ x.high := by
  unfold Covers at h
  split at h
  · exact h
  · exact ⟨h.1.le, h.2.le⟩

theorem quarter_zpow (e : Int) : (2 : ℚ) ^ (e - 2) = 2 ^ e / 4 := by
  rw [zpow_sub₀ (by norm_num)]
  norm_num

/-- How far the interval reaches below the fraction, in units of its significand. Below a power of
    two the neighbour is half as far away. -/
def reachBelow (x : Binary64) : ℚ := if x.significand = leadingBit then 1 / 4 else 1 / 2

theorem reachBelow_bounds (x : Binary64) : 0 < x.reachBelow ∧ x.reachBelow ≤ 1 / 2 := by
  unfold reachBelow
  split <;> norm_num

theorem low_eq {x : Binary64} (hx : x.IsNormal) :
    x.low = (x.significand - x.reachBelow) * 2 ^ x.exponent := by
  have hmin : minExponent < x.exponent := by
    have hlt := hx.minExponent_lt
    omega
  have hlarge : 2 ≤ 4 * x.significand := by
    have hle := hx.leadingBit_le
    unfold leadingBit at hle
    omega
  unfold low reachBelow quarters
  simp only [hmin, decide_true, Bool.and_true, decide_eq_true_eq]
  rw [quarter_zpow]
  by_cases hpower : x.significand = leadingBit
  · rw [if_pos hpower, if_pos hpower, Nat.cast_sub (by omega)]
    push_cast
    ring
  · rw [if_neg hpower, if_neg hpower, Nat.cast_sub hlarge]
    push_cast
    ring

theorem high_eq (x : Binary64) : x.high = (x.significand + 1 / 2) * 2 ^ x.exponent := by
  unfold high quarters
  simp only
  rw [quarter_zpow]
  push_cast
  ring

/-- Whether a number lies in the interval, told in units of the significand. -/
theorem covers_iff {x : Binary64} (hx : x.IsNormal) (q : ℚ) : x.Covers q ↔
    if x.significand % 2 = 0 then x.significand - x.reachBelow ≤ q / 2 ^ x.exponent ∧
        q / 2 ^ x.exponent ≤ x.significand + 1 / 2
      else x.significand - x.reachBelow < q / 2 ^ x.exponent ∧
        q / 2 ^ x.exponent < x.significand + 1 / 2 := by
  have hpos := two_zpow_pos x.exponent
  unfold Covers
  rw [low_eq hx, high_eq, le_div_iff₀ hpos, div_le_iff₀ hpos, lt_div_iff₀ hpos, div_lt_iff₀ hpos]

/-- What is rounded to a fraction in its own binade. -/
theorem covers_iff_roundsTo {x : Binary64} (hx : x.IsNormal) {q : ℚ}
    (hbinade : InBinade q x.exponent) :
    x.Covers q ↔ RoundsTo (q / 2 ^ x.exponent) x.significand := by
  rw [covers_iff hx]
  unfold RoundsTo reachBelow
  have hlow := hbinade.1
  generalize q / 2 ^ x.exponent = t at hlow
  have hbit : x.significand = leadingBit →
      (x.significand : ℚ) = 2 ^ 52 ∧ x.significand % 2 = 0 := by
    intro h
    rw [h]
    unfold leadingBit
    norm_num
  by_cases heven : x.significand % 2 = 0
  · rw [if_pos heven]
    constructor
    · rintro ⟨hge, hle⟩
      refine ⟨⟨?_, hle⟩, fun _ => heven⟩
      split at hge <;> linarith
    · rintro ⟨⟨hge, hle⟩, _⟩
      refine ⟨?_, hle⟩
      split
      · -- The neighbour below a power of two is in another binade, where `q` is not.
        next hpower =>
          have hvalue := (hbit hpower).1
          linarith
      · exact hge
  · -- An odd significand wins no tie, so the ends of its interval are left out.
    have hpower : x.significand ≠ leadingBit := fun h => heven (hbit h).2
    rw [if_neg heven, if_neg hpower]
    constructor
    · rintro ⟨hgt, hlt⟩
      refine ⟨⟨hgt.le, hlt.le⟩, ?_⟩
      rintro (h | h) <;> linarith
    · rintro ⟨⟨hge, hle⟩, htie⟩
      constructor
      · exact lt_of_le_of_ne hge fun h => heven (htie (Or.inl h.symm))
      · exact lt_of_le_of_ne hle fun h => heven (htie (Or.inr h))

theorem zpow_pred_div (q : ℚ) (e : Int) : q / 2 ^ (e - 1) = q / 2 ^ e * 2 := by
  rw [zpow_sub_one₀ (by norm_num)]
  field_simp

/-- What is rounded to a fraction from the binade below: only a power of two is reached from there,
    with a carry. -/
theorem covers_iff_roundsTo_carry {x : Binary64} (hx : x.IsNormal) {q : ℚ}
    (hbinade : InBinade q (x.exponent - 1)) :
    x.Covers q ↔ x.significand = leadingBit ∧
      RoundsTo (q / 2 ^ (x.exponent - 1)) (2 * leadingBit) := by
  rw [covers_iff hx]
  unfold RoundsTo reachBelow
  have hhigh := hbinade.2
  rw [zpow_pred_div] at hhigh ⊢
  generalize q / 2 ^ x.exponent = t at hhigh
  have hvalue : (leadingBit : ℚ) = 2 ^ 52 := by
    unfold leadingBit
    norm_num
  by_cases hpower : x.significand = leadingBit
  · rw [hpower, if_pos rfl, if_pos (by decide)]
    push_cast
    rw [hvalue]
    constructor
    · rintro ⟨hge, _⟩
      exact ⟨rfl, ⟨by linarith, by linarith⟩, fun _ => by decide⟩
    · rintro ⟨_, ⟨hge, _⟩, _⟩
      exact ⟨by linarith, by linarith⟩
  · -- Any other significand is a whole unit above the binade, and the interval is narrower.
    have hnext : (2 : ℚ) ^ 52 + 1 ≤ x.significand := by
      have hlt : leadingBit + 1 ≤ x.significand := by
        have hle := hx.leadingBit_le
        omega
      rw [← hvalue]
      exact_mod_cast hlt
    rw [if_neg hpower]
    constructor
    · intro hcovers
      split at hcovers <;> linarith [hcovers.1]
    · rintro ⟨heq, _⟩
      exact absurd heq hpower

theorem significand_bounds {x : Binary64} (hx : x.IsNormal) :
    (2 : ℚ) ^ 52 ≤ x.significand ∧ (x.significand : ℚ) + 1 ≤ 2 ^ 53 := by
  have hlow := hx.leadingBit_le
  have hhigh := hx.lt_two_leadingBit
  unfold leadingBit at hlow hhigh
  constructor
  · exact_mod_cast hlow
  · exact_mod_cast hhigh

/-- The interval of a fraction reaches no further than into the binade below. -/
theorem inBinade_of_covers {x : Binary64} (hx : x.IsNormal) {q : ℚ} (h : x.Covers q) :
    InBinade q x.exponent ∨ InBinade q (x.exponent - 1) := by
  rcases significand_bounds hx with ⟨hsmall, hlarge⟩
  rcases reachBelow_bounds x with ⟨_, hreach⟩
  rcases h.bounds with ⟨hlow, hhigh⟩
  rw [low_eq hx, ← le_div_iff₀ (two_zpow_pos _)] at hlow
  rw [high_eq, ← div_le_iff₀ (two_zpow_pos _)] at hhigh
  unfold InBinade
  rw [zpow_pred_div]
  generalize q / 2 ^ x.exponent = t at hlow hhigh
  by_cases hfull : (2 : ℚ) ^ 52 ≤ t
  · left
    exact ⟨hfull, by linarith⟩
  · right
    rw [not_le] at hfull
    exact ⟨by linarith, by linarith⟩

/-- The fraction that a ratio is rounded to, with the carry that rounding may cause. -/
theorem ofRatio?_eq (negative : Bool) {n d : Nat} (hn : 0 < n) (hd : 0 < d) :
    ∃ m, (∀ k, m = k ↔ RoundsTo ((n : ℚ) / d / 2 ^ unitExponent n d) k) ∧
      ofRatio? negative n d = if m = 2 * leadingBit then
          if maxExponent < unitExponent n d + 1 then none
          else some ⟨negative, leadingBit, unitExponent n d + 1⟩
        else if maxExponent < unitExponent n d then none
        else some ⟨negative, m, unitExponent n d⟩ := by
  rcases inUnits_ratio n d hd (unitExponent n d) with ⟨hb, hratio⟩
  refine ⟨roundDiv (inUnits n d (unitExponent n d)).1 (inUnits n d (unitExponent n d)).2,
    fun k => by rw [roundDiv_eq_iff _ _ hb, hratio], ?_⟩
  unfold ofRatio?
  rw [if_neg hn.ne']
  simp only
  split_ifs <;> rfl

/-- A number is rounded to a fraction when it lies in the interval of the fraction, and only
    then. -/
theorem ofRatio?_eq_some_iff {x : Binary64} (hx : x.IsNormal) {n d : Nat} (hn : 0 < n)
    (hd : 0 < d) : ofRatio? x.negative n d = some x ↔ x.Covers ((n : ℚ) / d) := by
  rcases unitExponent_eq n d hn hd with ⟨e, hbinade, hunit⟩
  rcases ofRatio?_eq x.negative hn hd with ⟨m, hm, hrun⟩
  have hmin := hx.minExponent_lt
  have hmax := hx.le_maxExponent
  rw [hrun]
  constructor
  · -- What the computation returns tells in which binade the ratio is.
    intro h
    by_cases hcarry : m = 2 * leadingBit
    · rw [if_pos hcarry] at h
      split at h
      · cases h
      · rw [Option.some.injEq] at h
        have hexp : unitExponent n d + 1 = x.exponent := congrArg exponent h
        have hsig : leadingBit = x.significand := congrArg significand h
        have hpred : x.exponent - 1 = e := by omega
        have hpred' : x.exponent - 1 = unitExponent n d := by omega
        rw [covers_iff_roundsTo_carry hx (hpred ▸ hbinade), hpred', ← hm]
        exact ⟨hsig.symm, hcarry⟩
    · rw [if_neg hcarry] at h
      split at h
      · cases h
      · rw [Option.some.injEq] at h
        have hexp : unitExponent n d = x.exponent := congrArg exponent h
        have hsig : m = x.significand := congrArg significand h
        have hsame : x.exponent = e := by omega
        rw [covers_iff_roundsTo hx (hsame ▸ hbinade), ← hexp, ← hm]
        exact hsig
  · -- The interval tells the binade, and with it which branch the computation takes.
    intro h
    by_cases hsame : InBinade ((n : ℚ) / d) x.exponent
    · have he := inBinade_unique hsame hbinade
      have hunit' : unitExponent n d = x.exponent := by omega
      rw [covers_iff_roundsTo hx hsame, ← hunit', ← hm] at h
      have hfull := hx.lt_two_leadingBit
      rw [if_neg (by omega), hunit', if_neg (by omega), h]
    · have hbelow := (inBinade_of_covers hx h).resolve_left hsame
      have he := inBinade_unique hbelow hbinade
      have hunit' : unitExponent n d = x.exponent - 1 := by omega
      rw [covers_iff_roundsTo_carry hx hbelow, ← hunit', ← hm] at h
      rcases h with ⟨hpower, hcarry⟩
      have hexp : unitExponent n d + 1 = x.exponent := by omega
      rw [if_pos hcarry, hexp, if_neg (by omega), ← hpower]

end Binary64

end BankLedger
