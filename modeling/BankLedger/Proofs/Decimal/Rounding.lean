import BankLedger.Decimal.Sum
import Mathlib.Tactic.Linarith
import Mathlib.Tactic.Ring

/-!
# Rounding to the Nearest Whole Number

A quotient lies between two whole numbers, and rounding takes the nearer one, or the even one when
both are equally near. Two facts say all that later proofs use: rounding is off by at most half a
unit, and what is off by just half a unit has become even. Nothing after them looks at how
`roundEven` divides.

`le_natAbs_roundEven_iff` is where the second fact matters. Coefficients have to stay below an even
number, so the last one with room is odd, and a quotient half a unit above it is rounded out of
range.

## Theorems

* `roundEven_cases`: The three cases of rounding.
* `two_mul_roundEven_sub_le`: Rounding is off by at most half a unit.
* `roundEven_even_of_tie`: What is rounded by half a unit becomes even.
* `tie_of_lt`: Two numbers are both as near only when each is a tie.
* `roundEven_eq_iff`: The two facts name the answer.
* `roundEven_mul`: What divides evenly is not rounded.
* `le_roundEven_iff`: When rounding reaches an even number.
* `roundEven_neg`: Rounding does not prefer a side.
* `le_natAbs_roundEven_iff`: When rounding reaches an even number, on either side of zero.
-/

namespace BankLedger

namespace Decimal

/-- Rounding takes the nearer neighbour, and of two that are equally near the even one. -/
theorem roundEven_cases (n : Int) (d : Nat) (hd : 0 < d) : ∃ q r : Int, n = d * q + r ∧
    (0 ≤ 2 * r ∧ 2 * r < d ∧ roundEven n d = q ∨
      d < 2 * r ∧ r < d ∧ roundEven n d = q + 1 ∨
      2 * r = d ∧ roundEven n d % 2 = 0 ∧ (roundEven n d = q ∨ roundEven n d = q + 1)) := by
  have hlow := Int.emod_nonneg n (show (d : Int) ≠ 0 by omega)
  have hhigh := Int.emod_lt_of_pos n (show (0 : Int) < d by omega)
  refine ⟨n / d, n % d, (Int.mul_ediv_add_emod n d).symm, ?_⟩
  unfold roundEven
  simp only
  split
  · omega
  · split
    · omega
    · split <;> omega

/-- Rounding is off by at most half a unit, in either direction. -/
theorem two_mul_roundEven_sub_le (n : Int) (d : Nat) (hd : 0 < d) :
    2 * (d * roundEven n d - n) ≤ d ∧ -(d : Int) ≤ 2 * (d * roundEven n d - n) := by
  rcases roundEven_cases n d hd with ⟨q, r, hn, hcase⟩
  have hnext : (d : Int) * (q + 1) = d * q + d := by ring
  rcases hcase with ⟨_, _, hround⟩ | ⟨_, _, hround⟩ | ⟨_, _, hround | hround⟩ <;>
    rw [hround] <;> omega

/-- Half a unit is rounded to the even neighbour. -/
theorem roundEven_even_of_tie (n : Int) (d : Nat) (hd : 0 < d)
    (htie : 2 * (d * roundEven n d - n) = d ∨ 2 * (d * roundEven n d - n) = -(d : Int)) :
    roundEven n d % 2 = 0 := by
  rcases roundEven_cases n d hd with ⟨q, r, hn, hcase⟩
  have hnext : (d : Int) * (q + 1) = d * q + d := by ring
  rcases hcase with ⟨_, _, hround⟩ | ⟨_, _, hround⟩ | ⟨_, heven, _⟩
  · rw [hround] at htie
    omega
  · rw [hround] at htie
    omega
  · exact heven

/-- What divides evenly is not rounded. -/
theorem roundEven_mul (m : Int) (d : Nat) (hd : 0 < d) : roundEven (d * m) d = m := by
  have hquot : (d : Int) * m / d = m := Int.mul_ediv_cancel_left m (by omega)
  unfold roundEven
  simp only [hquot, Int.mul_emod_right]
  rw [if_pos (by omega)]

/-- Two different numbers are both off by at most half a unit only when they are neighbours and
    each is a tie. -/
theorem tie_of_lt {n : Int} {d : Nat} (hd : 0 < d) {r m : Int} (hlt : r < m)
    (hhigh : 2 * (d * m - n) ≤ d) (hlow : -(d : Int) ≤ 2 * (d * r - n)) :
    m = r + 1 ∧ 2 * (d * m - n) = d ∧ 2 * (d * r - n) = -(d : Int) := by
  have hdpos : (0 : Int) < d := by omega
  have hnext : m = r + 1 := by
    by_contra hfar
    have hmul : (d : Int) * (r + 2) ≤ d * m := Int.mul_le_mul_of_nonneg_left (by omega) hdpos.le
    linarith
  have hstep : (d : Int) * m = d * r + d := by
    rw [hnext]
    ring
  exact ⟨hnext, by omega, by omega⟩

/-- The two facts name the answer: no other number is off by at most half a unit, or one is and the
    tie would have to be even on both sides. -/
theorem roundEven_eq_iff (n : Int) (d : Nat) (hd : 0 < d) (m : Int) :
    roundEven n d = m ↔ (2 * (d * m - n) ≤ d ∧ -(d : Int) ≤ 2 * (d * m - n)) ∧
      (2 * (d * m - n) = d ∨ 2 * (d * m - n) = -(d : Int) → m % 2 = 0) := by
  constructor
  · rintro rfl
    exact ⟨two_mul_roundEven_sub_le n d hd, roundEven_even_of_tie n d hd⟩
  · rintro ⟨⟨hhigh, hlow⟩, heven⟩
    rcases two_mul_roundEven_sub_le n d hd with ⟨hhigh', hlow'⟩
    have heven' := roundEven_even_of_tie n d hd
    generalize roundEven n d = r at hhigh' hlow' heven'
    by_contra hne
    -- Neighbours are not both even.
    rcases Int.lt_or_gt_of_ne hne with hlt | hgt
    · rcases tie_of_lt hd hlt hhigh hlow' with ⟨hnext, htie, htie'⟩
      have hm := heven (Or.inl htie)
      have hr := heven' (Or.inr htie')
      omega
    · rcases tie_of_lt hd hgt hhigh' hlow with ⟨hnext, htie, htie'⟩
      have hr := heven' (Or.inl htie)
      have hm := heven (Or.inr htie')
      omega

/-- Rounding reaches an even number from half a unit below it on. -/
theorem le_roundEven_iff (n : Int) (d : Nat) (hd : 0 < d) (m : Int) (heven : m % 2 = 0) :
    m ≤ roundEven n d ↔ (2 * m - 1) * d ≤ 2 * n := by
  rcases two_mul_roundEven_sub_le n d hd with ⟨hhigh, hlow⟩
  have hdpos : (0 : Int) < d := by omega
  constructor
  · intro hm
    have hmul : (d : Int) * m ≤ d * roundEven n d := Int.mul_le_mul_of_nonneg_left hm hdpos.le
    linarith
  · intro hn
    by_contra hbelow
    -- What stopped short of the number is its neighbour and a tie, and a tie is even.
    rcases tie_of_lt hd (not_le.mp hbelow) (by linarith) hlow with ⟨hnext, _, htie⟩
    have hround := roundEven_even_of_tie n d hd (Or.inr htie)
    omega

/-- Rounding does not prefer a side. -/
theorem roundEven_neg (n : Int) (d : Nat) (hd : 0 < d) : roundEven (-n) d = -roundEven n d := by
  rcases two_mul_roundEven_sub_le n d hd with ⟨hhigh, hlow⟩
  have heven := roundEven_even_of_tie n d hd
  -- The negated answer is off by as much in the other direction, and even when it is a tie.
  have hflip : 2 * (d * -roundEven n d - -n) = -(2 * (d * roundEven n d - n)) := by ring
  rw [roundEven_eq_iff (-n) d hd, hflip]
  refine ⟨⟨by linarith, by linarith⟩, fun htie => ?_⟩
  have hround := heven (by omega)
  omega

/-- When rounding reaches an even number, on either side of zero. -/
theorem le_natAbs_roundEven_iff (n : Int) (d : Nat) (hd : 0 < d) (m : Nat) (heven : m % 2 = 0)
    (hm : 0 < m) : m ≤ (roundEven n d).natAbs ↔ (2 * m - 1) * d ≤ 2 * |n| := by
  have hup := le_roundEven_iff n d hd m (by omega)
  have hdown := le_roundEven_iff (-n) d hd m (by omega)
  rw [roundEven_neg n d hd] at hdown
  have hsplit : m ≤ (roundEven n d).natAbs ↔ (m : Int) ≤ roundEven n d ∨ (m : Int) ≤ -roundEven n d
      := by omega
  rw [hsplit, hup, hdown]
  have hpos : 0 < (2 * (m : Int) - 1) * d := by
    apply mul_pos
    · omega
    · omega
  -- The bound is positive, so only one of the two sides can be beyond it.
  rcases abs_cases n with ⟨habs, _⟩ | ⟨habs, _⟩ <;> rw [habs] <;> omega

end Decimal

end BankLedger
