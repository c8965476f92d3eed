import BankLedger.Proofs.Binary64.Nearest

/-!
# The Shortest Decimal

The shortest decimal of a fraction is found by looking at coarse grids first. That this finds the
decimal with the fewest digits, and among those the closest one, is proved against the interval of
the fraction alone: `IsShortest` says which decimals are left out, and the search does not occur in
it.

Two facts about the interval carry the proof. It is convex and holds the fraction itself, so a grid
that has any point in it has one of the two points next to the fraction in it. And it is narrow: it
is as wide as one unit of the significand, so two decimals of fifteen digits are never both in it.

## Main definitions

* `IsShortest`: No decimal in the interval has fewer digits, and none with as many is closer.

## Theorems

* `covers_sub_le`, `covers_inj`: The interval is narrow.
* `nearest?_eq_none`, `nearest?_eq_some`: What is found on one grid.
* `search_first`: The search ends on the first grid with a hit.
* `isShortest_shortest`: What is written is the shortest decimal.
* `isShortest_unique`: There is only one.
-/

namespace BankLedger

namespace Binary64

theorem ten_zpow_pos (k : Int) : (0 : ℚ) < 10 ^ k := zpow_pos (by norm_num) k

theorem covers_magnitude {x : Binary64} (hx : x.IsNormal) : x.Covers x.magnitude := by
  have hreach := (reachBelow_bounds x).1
  rw [covers_iff hx]
  unfold magnitude
  rw [mul_div_cancel_right₀ _ (two_zpow_pos _).ne']
  split <;> constructor <;> linarith

theorem covers_of_between {x : Binary64} {a b q : ℚ} (ha : x.Covers a) (hb : x.Covers b)
    (haq : a ≤ q) (hqb : q ≤ b) : x.Covers q := by
  unfold Covers at *
  split_ifs at * with heven
  · exact ⟨le_trans ha.1 haq, le_trans hqb hb.2⟩
  · exact ⟨lt_of_lt_of_le ha.1 haq, lt_of_le_of_lt hqb hb.2⟩

/-- The interval is as wide as one unit of the significand, or narrower. -/
theorem covers_sub_le {x : Binary64} (hx : x.IsNormal) {a b : ℚ} (ha : x.Covers a)
    (hb : x.Covers b) : b - a ≤ 2 ^ x.exponent := by
  have hreach := (reachBelow_bounds x).2
  have hpos := two_zpow_pos x.exponent
  have hlow := ha.bounds.1
  have hhigh := hb.bounds.2
  have hwidth : x.high - x.low = (1 / 2 + x.reachBelow) * 2 ^ x.exponent := by
    rw [low_eq hx, high_eq]
    ring
  calc b - a ≤ x.high - x.low := by linarith
    _ = (1 / 2 + x.reachBelow) * 2 ^ x.exponent := hwidth
    _ ≤ 1 * 2 ^ x.exponent := mul_le_mul_of_nonneg_right (by linarith) hpos.le
    _ = 2 ^ x.exponent := one_mul _

theorem covers_pos {x : Binary64} (hx : x.IsNormal) {q : ℚ} (h : x.Covers q) : 0 < q := by
  rcases inBinade_of_covers hx h with ⟨hlow, _⟩ | ⟨hlow, _⟩
  · rw [le_div_iff₀ (two_zpow_pos _)] at hlow
    exact lt_of_lt_of_le (mul_pos (by norm_num) (two_zpow_pos _)) hlow
  · rw [le_div_iff₀ (two_zpow_pos _)] at hlow
    exact lt_of_lt_of_le (mul_pos (by norm_num) (two_zpow_pos _)) hlow

/-- A unit of the significand next to the fraction: it is smaller by fifteen digits and more, and by
    no more than sixteen. -/
theorem unit_bounds {x : Binary64} (hx : x.IsNormal) {lead : Int}
    (hlow : (10 : ℚ) ^ lead ≤ x.magnitude) (hhigh : x.magnitude < 10 ^ (lead + 1)) :
    (2 : ℚ) ^ x.exponent < 10 ^ (lead - 14) ∧ 10 ^ (lead - 17) < (2 : ℚ) ^ x.exponent / 2 := by
  rcases significand_bounds hx with ⟨hsmall, hlarge⟩
  have hpos := two_zpow_pos x.exponent
  have hten := ten_zpow_pos lead
  unfold magnitude at hlow hhigh
  -- The significand is at least `2 ^ 52`, which is more than `10 ^ 15`, and below `2 ^ 53`, which
  -- is less than half of `10 ^ 17`.
  constructor
  · have hunit : (2 : ℚ) ^ 52 * 2 ^ x.exponent < 10 ^ (lead + 1) :=
      lt_of_le_of_lt (mul_le_mul_of_nonneg_right hsmall hpos.le) hhigh
    have hsplit : (10 : ℚ) ^ (lead + 1) = 10 ^ (lead - 14) * 10 ^ 15 := by
      rw [← zpow_natCast, ← zpow_add₀ (by norm_num)]
      congr 1
      push_cast
      ring
    rw [hsplit] at hunit
    have hten' := ten_zpow_pos (lead - 14)
    norm_num at hunit
    linarith
  · have hunit : (10 : ℚ) ^ lead ≤ 2 ^ 53 * 2 ^ x.exponent :=
      le_trans hlow (mul_le_mul_of_nonneg_right (by linarith) hpos.le)
    have hsplit : (10 : ℚ) ^ lead = 10 ^ (lead - 17) * 10 ^ 17 := by
      rw [← zpow_natCast, ← zpow_add₀ (by norm_num)]
      congr 1
      push_cast
      ring
    rw [hsplit] at hunit
    have hten' := ten_zpow_pos (lead - 17)
    norm_num at hunit
    linarith

theorem powerOfTen_ratio (k : Int) : 0 < (powerOfTen k).1 ∧ 0 < (powerOfTen k).2 ∧
    ((powerOfTen k).1 : ℚ) = 10 ^ k * (powerOfTen k).2 := by
  unfold powerOfTen
  split
  · next hk =>
      refine ⟨Nat.one_pos, Nat.pow_pos (by norm_num), ?_⟩
      rw [zpow_of_neg 10 hk, Nat.pow_eq]
      push_cast
      field_simp
  · next hk =>
      refine ⟨Nat.pow_pos (by norm_num), Nat.one_pos, ?_⟩
      rw [zpow_of_not_neg 10 hk, Nat.pow_eq]
      push_cast
      ring

theorem quarterUnit_ratio (x : Binary64) : 0 < x.quarterUnit.2 ∧
    (x.quarterUnit.1 : ℚ) = 2 ^ (x.exponent - 2) * x.quarterUnit.2 := by
  unfold quarterUnit
  simp only
  split
  · next he =>
      refine ⟨shiftLeft_pos Nat.one_pos _, ?_⟩
      rw [cast_shiftLeft, zpow_of_neg 2 he]
      field_simp
  · next he =>
      refine ⟨Nat.one_pos, ?_⟩
      rw [cast_shiftLeft, zpow_of_not_neg 2 he]
      ring

/-- The common unit of a grid turns what is compared on it into whole numbers. -/
theorem grid_eq (x : Binary64) (k : Int) : ∃ unit : ℚ, 0 < unit ∧
    ((x.grid k).step : ℚ) = 10 ^ k * unit ∧ ((x.grid k).middle : ℚ) = x.magnitude * unit ∧
    ((x.grid k).low : ℚ) = x.low * unit ∧ ((x.grid k).high : ℚ) = x.high * unit := by
  rcases powerOfTen_ratio k with ⟨_, hpd, hpower⟩
  rcases quarterUnit_ratio x with ⟨hud, hquarter⟩
  have hpd' : (0 : ℚ) < (powerOfTen k).2 := by exact_mod_cast hpd
  have hud' : (0 : ℚ) < x.quarterUnit.2 := by exact_mod_cast hud
  refine ⟨x.quarterUnit.2 * (powerOfTen k).2, mul_pos hud' hpd', ?_, ?_, ?_, ?_⟩
  · unfold grid
    push_cast
    rw [hpower]
    ring
  · unfold grid quarters magnitude
    push_cast
    rw [hquarter, quarter_zpow]
    ring
  · unfold grid low
    push_cast
    rw [hquarter]
    ring
  · unfold grid high
    push_cast
    rw [hquarter]
    ring

-- The grid compares whole numbers. Divided by its unit they are the numbers that the interval is
-- about, so each of the four comparisons carries over.
theorem holds_iff (x : Binary64) (k : Int) (point : Nat) :
    (x.grid k).holds point = true ↔ x.Covers (point * 10 ^ k) := by
  rcases grid_eq x k with ⟨unit, hunit, hstep, _, hlow, hhigh⟩
  have hclosed : (x.grid k).closed = (x.significand % 2 == 0) := rfl
  have hpoint : (point : ℚ) * (x.grid k).step = point * 10 ^ k * unit := by
    rw [hstep]
    ring
  have hlow_le : (x.grid k).low ≤ point * (x.grid k).step ↔ x.low ≤ point * 10 ^ k := by
    rw [← mul_le_mul_iff_of_pos_right hunit, ← hlow, ← hpoint]
    exact_mod_cast Iff.rfl
  have hle_high : point * (x.grid k).step ≤ (x.grid k).high ↔ point * 10 ^ k ≤ x.high := by
    rw [← mul_le_mul_iff_of_pos_right hunit, ← hhigh, ← hpoint]
    exact_mod_cast Iff.rfl
  have hlow_lt : (x.grid k).low < point * (x.grid k).step ↔ x.low < point * 10 ^ k := by
    rw [← mul_lt_mul_iff_of_pos_right hunit, ← hlow, ← hpoint]
    exact_mod_cast Iff.rfl
  have hlt_high : point * (x.grid k).step < (x.grid k).high ↔ point * 10 ^ k < x.high := by
    rw [← mul_lt_mul_iff_of_pos_right hunit, ← hhigh, ← hpoint]
    exact_mod_cast Iff.rfl
  unfold Grid.holds Covers
  rw [hclosed]
  by_cases heven : x.significand % 2 = 0
  · simp only [heven, beq_self_eq_true, if_true, Bool.and_eq_true, decide_eq_true_eq, hlow_le,
      hle_high]
  · simp only [heven, beq_iff_eq, if_false, Bool.and_eq_true, decide_eq_true_eq, hlow_lt, hlt_high]

/-- The fraction lies between the two grid points next to it. -/
theorem below_bounds (x : Binary64) (k : Int) :
    ((x.grid k).below : ℚ) * 10 ^ k ≤ x.magnitude ∧
      x.magnitude < ((x.grid k).below + 1 : Nat) * 10 ^ k := by
  rcases grid_eq x k with ⟨unit, hunit, hstep, hmiddle, _, _⟩
  have hbelow : (x.grid k).below = (x.grid k).middle / (x.grid k).step := rfl
  have hsteppos : 0 < (x.grid k).step := by
    have hpos : (0 : ℚ) < (x.grid k).step := by
      rw [hstep]
      exact mul_pos (ten_zpow_pos k) hunit
    exact_mod_cast hpos
  have hlow := Nat.div_mul_le_self (x.grid k).middle (x.grid k).step
  have hhigh := Nat.lt_mul_of_div_lt (Nat.lt_succ_self ((x.grid k).middle / (x.grid k).step))
    hsteppos
  rw [← hbelow] at hlow hhigh
  constructor
  · rw [← mul_le_mul_iff_of_pos_right hunit, ← hmiddle, mul_assoc, ← hstep]
    exact_mod_cast hlow
  · rw [← mul_lt_mul_iff_of_pos_right hunit, ← hmiddle, mul_assoc, ← hstep]
    exact_mod_cast hhigh

/-- A grid with any point in the interval has one of the two points next to the fraction in it,
    because the interval is convex. -/
theorem holds_below_or_above {x : Binary64} (hx : x.IsNormal) {k : Int} {j : Nat}
    (hj : x.Covers (j * 10 ^ k)) :
    (j ≤ (x.grid k).below ∧ (x.grid k).holds (x.grid k).below = true) ∨
      ((x.grid k).below + 1 ≤ j ∧ (x.grid k).holds ((x.grid k).below + 1) = true) := by
  rcases below_bounds x k with ⟨hlow, hhigh⟩
  have hpos := ten_zpow_pos k
  have hmiddle := covers_magnitude hx
  -- It is the one on the side on which the hit is.
  rcases Nat.lt_or_ge (x.grid k).below j with hlt | hge
  · right
    refine ⟨hlt, ?_⟩
    rw [holds_iff]
    refine covers_of_between hmiddle hj hhigh.le (mul_le_mul_of_nonneg_right ?_ hpos.le)
    exact_mod_cast hlt
  · left
    refine ⟨hge, ?_⟩
    rw [holds_iff]
    refine covers_of_between hj hmiddle (mul_le_mul_of_nonneg_right ?_ hpos.le) hlow
    exact_mod_cast hge

/-- Nothing is found on a grid that has no point in the interval. -/
theorem nearest?_eq_none {x : Binary64} (hx : x.IsNormal) {tie : Tie} {k : Int}
    (h : (x.grid k).nearest? tie = none) (j : Nat) : ¬ x.Covers (j * 10 ^ k) := by
  intro hj
  unfold Grid.nearest? at h
  rcases holds_below_or_above hx hj with ⟨_, hholds⟩ | ⟨_, hholds⟩ <;>
    simp only [hholds] at h <;> split at h <;> simp_all

/-- The decimal is in the interval, and of those on its grid it is the closest to the fraction. Of
    two that are equally close it is the larger. -/
structure IsClosest (x : Binary64) (n : Nat) (k : Int) : Prop where
  /-- The decimal is in the interval. -/
  covers : x.Covers (n * 10 ^ k)
  /-- No other one on the grid is closer. -/
  le_of_covers : ∀ j : Nat, x.Covers (j * 10 ^ k) →
    |(n : ℚ) * 10 ^ k - x.magnitude| ≤ |(j : ℚ) * 10 ^ k - x.magnitude|
  /-- No larger one on the grid is equally close. -/
  le_of_eq : ∀ j : Nat, x.Covers (j * 10 ^ k) →
    |(n : ℚ) * 10 ^ k - x.magnitude| = |(j : ℚ) * 10 ^ k - x.magnitude| → j ≤ n

/-- How far the grid points on either side are from the fraction. -/
theorem distance_bounds (x : Binary64) (k : Int) (j : Nat) :
    (j ≤ (x.grid k).below →
      x.magnitude - (x.grid k).below * 10 ^ k ≤ |(j : ℚ) * 10 ^ k - x.magnitude|) ∧
    ((x.grid k).below + 1 ≤ j →
      ((x.grid k).below + 1) * 10 ^ k - x.magnitude ≤ |(j : ℚ) * 10 ^ k - x.magnitude|) ∧
    ((x.grid k).below + 1 < j →
      ((x.grid k).below + 1) * 10 ^ k - x.magnitude < |(j : ℚ) * 10 ^ k - x.magnitude|) := by
  have hpos := ten_zpow_pos k
  refine ⟨fun hj => ?_, fun hj => ?_, fun hj => ?_⟩
  · have hcast : (j : ℚ) ≤ (x.grid k).below := by exact_mod_cast hj
    have hmul := mul_le_mul_of_nonneg_right hcast hpos.le
    rw [abs_sub_comm]
    exact le_trans (by linarith) (le_abs_self _)
  · have hcast : ((x.grid k).below : ℚ) + 1 ≤ j := by exact_mod_cast hj
    have hmul := mul_le_mul_of_nonneg_right hcast hpos.le
    exact le_trans (by linarith) (le_abs_self _)
  · have hcast : ((x.grid k).below : ℚ) + 1 < j := by exact_mod_cast hj
    have hmul := mul_lt_mul_of_pos_right hcast hpos
    exact lt_of_lt_of_le (by linarith) (le_abs_self _)

/-- The point below is the closest when it is in the interval and the one above is not closer. -/
theorem isClosest_below {x : Binary64} (hx : x.IsNormal) {k : Int}
    (hholds : (x.grid k).holds (x.grid k).below = true)
    (hnearer : (x.grid k).holds ((x.grid k).below + 1) = true →
      2 * (x.magnitude - (x.grid k).below * 10 ^ k) < 10 ^ k) :
    x.IsClosest (x.grid k).below k := by
  rcases below_bounds x k with ⟨hlow, _⟩
  have hdist : |((x.grid k).below : ℚ) * 10 ^ k - x.magnitude|
      = x.magnitude - (x.grid k).below * 10 ^ k := by
    rw [abs_sub_comm]
    exact abs_of_nonneg (by linarith)
  -- Any other point is beyond one of the two next to the fraction, which is then in the interval.
  refine ⟨(holds_iff x k _).mp hholds, fun j hj => ?_, fun j hj heq => ?_⟩
  · rcases distance_bounds x k j with ⟨hbelow, habove, _⟩
    rw [hdist]
    rcases holds_below_or_above hx hj with ⟨hle, _⟩ | ⟨hge, hup⟩
    · exact hbelow hle
    · have hdouble := hnearer hup
      exact le_trans (by linarith) (habove hge)
  · rcases holds_below_or_above hx hj with ⟨hle, _⟩ | ⟨hge, hup⟩
    · exact hle
    · have hdouble := hnearer hup
      have hfar := (distance_bounds x k j).2.1 hge
      rw [hdist] at heq
      exact absurd heq (by linarith)

/-- The point above is the closest when it is in the interval and the one below is not closer. -/
theorem isClosest_above {x : Binary64} (hx : x.IsNormal) {k : Int}
    (hholds : (x.grid k).holds ((x.grid k).below + 1) = true)
    (hnearer : (x.grid k).holds (x.grid k).below = true →
      10 ^ k ≤ 2 * (x.magnitude - (x.grid k).below * 10 ^ k)) :
    x.IsClosest ((x.grid k).below + 1) k := by
  rcases below_bounds x k with ⟨_, hhigh⟩
  push_cast at hhigh
  have hdist : |((x.grid k).below + 1 : Nat) * (10 : ℚ) ^ k - x.magnitude|
      = ((x.grid k).below + 1) * 10 ^ k - x.magnitude := by
    push_cast
    exact abs_of_pos (by linarith)
  refine ⟨(holds_iff x k _).mp hholds, fun j hj => ?_, fun j hj heq => ?_⟩
  · rcases distance_bounds x k j with ⟨hbelow, habove, _⟩
    rw [hdist]
    rcases holds_below_or_above hx hj with ⟨hle, hdown⟩ | ⟨hge, _⟩
    · have hdouble := hnearer hdown
      exact le_trans (by linarith) (hbelow hle)
    · exact habove hge
  · by_contra hlarger
    have hfar := (distance_bounds x k j).2.2 (by omega)
    rw [hdist] at heq
    exact absurd heq hfar.ne

/-- What is found on a grid is the closest of its points. -/
theorem nearest?_eq_some {x : Binary64} (hx : x.IsNormal) {k : Int} {n : Nat}
    (h : (x.grid k).nearest? .away = some n) : x.IsClosest n k := by
  rcases grid_eq x k with ⟨unit, hunit, hstep, hmiddle, _, _⟩
  rcases below_bounds x k with ⟨hlow, _⟩
  have hle : (x.grid k).below * (x.grid k).step ≤ (x.grid k).middle :=
    Nat.div_mul_le_self (x.grid k).middle (x.grid k).step
  -- Whether the point below is nearer is compared in the unit of the grid.
  have htwice : 2 * ((x.grid k).middle - (x.grid k).below * (x.grid k).step) < (x.grid k).step ↔
      2 * (x.magnitude - (x.grid k).below * 10 ^ k) < 10 ^ k := by
    rw [← mul_lt_mul_iff_of_pos_right hunit, ← hstep, ← Nat.cast_lt (α := ℚ)]
    push_cast [hle]
    rw [hmiddle, hstep]
    ring_nf
  unfold Grid.nearest? at h
  simp only at h
  split at h
  · next hdown hup =>
      cases h
      exact isClosest_below hx hdown (fun hholds => by rw [hup] at hholds; cases hholds)
  · next hdown hup =>
      cases h
      exact isClosest_above hx hup (fun hholds => by rw [hdown] at hholds; cases hholds)
  · cases h
  · next hdown hup =>
      rw [Option.some.injEq] at h
      by_cases hnearer : 2 * ((x.grid k).middle - (x.grid k).below * (x.grid k).step)
          < (x.grid k).step
      · rw [if_pos hnearer] at h
        subst h
        exact isClosest_below hx hdown fun _ => htwice.mp hnearer
      · -- The point above is nearer, or the two are equally near and it is taken all the same.
        have hfar := mt htwice.mpr hnearer
        rw [if_neg hnearer] at h
        have habove : (x.grid k).below + 1 = n := by
          split at h
          · exact h
          · exact h
        subst habove
        exact isClosest_above hx hup fun _ => not_lt.mp hfar

-- By induction on the fuel. The grids that were passed are carried along, since the answer has to
-- say of all of them that they have no hit.
/-- The search ends on the first grid with a hit, when there is one among those it looks at. -/
theorem search_first {x : Binary64} (hx : x.IsNormal) (lead : Int) (fuel digits last : Nat)
    (hfirst : digits ≤ last) (hlast : last < digits + fuel) {j : Nat}
    (hit : x.Covers (j * 10 ^ (lead - last + 1))) :
    ∃ found n, digits ≤ found ∧ found ≤ last ∧
      search .away x lead digits fuel = (n, lead - found + 1) ∧
      x.IsClosest n (lead - found + 1) ∧
      ∀ earlier : Nat, digits ≤ earlier → earlier < found →
        ∀ i : Nat, ¬ x.Covers (i * 10 ^ (lead - earlier + 1)) := by
  induction fuel generalizing digits with
  | zero => omega
  | succ fuel ih =>
      unfold search
      simp only
      rcases hnearest : (x.grid (lead - digits + 1)).nearest? .away with _ | n
      · -- Nothing on this grid, so it is not the one that is known to have a hit.
        have hempty := nearest?_eq_none hx hnearest
        have hnext : digits + 1 ≤ last := by
          by_contra hsame
          have heq : last = digits := by omega
          exact hempty j (heq ▸ hit)
        rcases ih (digits + 1) hnext (by omega) with ⟨found, n, hle, hle', hrun, hclosest, hnone⟩
        refine ⟨found, n, by omega, hle', hrun, hclosest, fun earlier hge hlt => ?_⟩
        rcases Nat.eq_or_lt_of_le hge with rfl | hgt
        · exact hempty
        · exact hnone earlier hgt hlt
      · exact ⟨digits, n, Nat.le_refl _, hfirst, rfl, nearest?_eq_some hx hnearest,
          fun earlier hge hlt => by omega⟩

/-- The number of digits bounds a number. -/
theorem length_toDigits_bounds {n : Nat} (hn : 0 < n) : 0 < (Nat.toDigits 10 n).length ∧
    10 ^ ((Nat.toDigits 10 n).length - 1) ≤ n ∧ n < 10 ^ (Nat.toDigits 10 n).length := by
  have hlength := Nat.length_toDigits_pos (b := 10) (n := n)
  refine ⟨hlength, ?_, (Nat.length_toDigits_le_iff (by norm_num) hlength).mp (Nat.le_refl _)⟩
  by_contra hsmall
  rw [not_le] at hsmall
  rcases Nat.eq_zero_or_pos ((Nat.toDigits 10 n).length - 1) with hone | hmore
  · rw [hone, pow_zero] at hsmall
    omega
  · have hshort := (Nat.length_toDigits_le_iff (n := n) (by norm_num) hmore).mpr hsmall
    omega

/-- The digits of a quotient bound it. -/
theorem digits_bounds {n d : Nat} (hd : 0 < d) (hle : d ≤ n) :
    (10 : ℚ) ^ (((Nat.toDigits 10 (n / d)).length : Int) - 1) ≤ n / d ∧
      (n : ℚ) / d < 10 ^ ((Nat.toDigits 10 (n / d)).length : Int) := by
  have hdpos : (0 : ℚ) < d := by exact_mod_cast hd
  rcases length_toDigits_bounds (Nat.div_pos hle hd) with ⟨hlength, hlow, hhigh⟩
  generalize (Nat.toDigits 10 (n / d)).length = len at *
  constructor
  · have hcast : ((len : Int) - 1) = ((len - 1 : Nat) : Int) := by omega
    rw [hcast, zpow_natCast, le_div_iff₀ hdpos]
    have hmul := (Nat.le_div_iff_mul_le hd).mp hlow
    exact_mod_cast hmul
  · rw [zpow_natCast, div_lt_iff₀ hdpos]
    have hmul := (Nat.div_lt_iff_lt_mul hd).mp hhigh
    exact_mod_cast hmul

/-- The first significant digit of a ratio stands at its leading power. -/
theorem leadingPower_bounds {n d : Nat} (hn : 0 < n) (hd : 0 < d) :
    (10 : ℚ) ^ leadingPower n d ≤ n / d ∧ (n : ℚ) / d < 10 ^ (leadingPower n d + 1) := by
  have hnpos : (0 : ℚ) < n := by exact_mod_cast hn
  have hdpos : (0 : ℚ) < d := by exact_mod_cast hd
  unfold leadingPower
  by_cases hle : d ≤ n
  · rw [if_pos hle, sub_add_cancel]
    exact digits_bounds hd hle
  · -- A ratio below one is bounded by the digits of its inverse.
    rw [if_neg hle]
    rcases digits_bounds hn (Nat.le_of_not_le hle) with ⟨hlow, hhigh⟩
    have hlength := Nat.length_toDigits_pos (b := 10) (n := d / n)
    simp only
    generalize (Nat.toDigits 10 (d / n)).length = len at *
    have hinv : (n : ℚ) / d = ((d : ℚ) / n)⁻¹ := (inv_div _ _).symm
    have hquotpos : (0 : ℚ) < d / n := div_pos hdpos hnpos
    have hlast : ((len - 1 : Nat) : Int) = (len : Int) - 1 := by omega
    by_cases hpower : n * Nat.pow 10 (len - 1) = d
    · -- The ratio is a power of ten itself.
      rw [if_pos hpower, hlast]
      have hexact : (n : ℚ) / d = 10 ^ (-((len : Int) - 1)) := by
        rw [← hpower, Nat.pow_eq, ← hlast, zpow_neg, zpow_natCast]
        push_cast
        field_simp
      rw [hexact]
      exact ⟨le_refl _, zpow_lt_zpow_right₀ (by norm_num) (by omega)⟩
    · rw [if_neg hpower, hinv]
      have hlow' : (10 : ℚ) ^ ((len : Int) - 1) < d / n := by
        refine lt_of_le_of_ne hlow fun heq => hpower ?_
        rw [← hlast, zpow_natCast, eq_div_iff hnpos.ne'] at heq
        rw [Nat.pow_eq, mul_comm]
        exact_mod_cast heq
      constructor
      · rw [zpow_neg]
        exact inv_anti₀ hquotpos hhigh.le
      · have hneg : -(len : Int) + 1 = -((len : Int) - 1) := by ring
        rw [hneg, zpow_neg]
        exact inv_strictAnti₀ (ten_zpow_pos _) hlow'

theorem ratio_eq (x : Binary64) : 0 < x.ratio.2 ∧
    (x.ratio.1 : ℚ) / x.ratio.2 = x.magnitude := by
  unfold ratio magnitude
  split
  · next he =>
      refine ⟨shiftLeft_pos Nat.one_pos _, ?_⟩
      rw [cast_shiftLeft, zpow_of_neg 2 he]
      ring
  · next he =>
      refine ⟨Nat.one_pos, ?_⟩
      rw [cast_shiftLeft, zpow_of_not_neg 2 he, Nat.cast_one, div_one]

/-- The leading power of a fraction is that of its first significant digit. -/
def lead (x : Binary64) : Int := leadingPower x.ratio.1 x.ratio.2

theorem lead_bounds {x : Binary64} (hx : x.IsNormal) :
    (10 : ℚ) ^ x.lead ≤ x.magnitude ∧ x.magnitude < 10 ^ (x.lead + 1) := by
  rcases ratio_eq x with ⟨hd, hratio⟩
  have hpos := covers_pos hx (covers_magnitude hx)
  have hn : 0 < x.ratio.1 := by
    by_contra hzero
    have hzero' : x.ratio.1 = 0 := by omega
    rw [← hratio, hzero', Nat.cast_zero, zero_div] at hpos
    exact lt_irrefl _ hpos
  rw [← hratio]
  exact leadingPower_bounds hn hd

/-- Decimals of fifteen digits are so far apart that only one of them is in the interval. -/
theorem covers_inj {x : Binary64} (hx : x.IsNormal) {k : Int} (hk : x.lead - 14 ≤ k) {i j : Nat}
    (hi : x.Covers (i * 10 ^ k)) (hj : x.Covers (j * 10 ^ k)) : i = j := by
  rcases lead_bounds hx with ⟨hlow, hhigh⟩
  have hunit := (unit_bounds hx hlow hhigh).1
  have hstep : (10 : ℚ) ^ (x.lead - 14) ≤ 10 ^ k := zpow_le_zpow_right₀ (by norm_num) hk
  have hpos := ten_zpow_pos k
  -- Two different points are at least one step apart.
  have hapart : ∀ {i j : Nat}, x.Covers (i * 10 ^ k) → x.Covers (j * 10 ^ k) → ¬ i < j := by
    intro i j hi hj hlt
    have hcast : (i : ℚ) + 1 ≤ j := by exact_mod_cast hlt
    have hmul := mul_le_mul_of_nonneg_right hcast hpos.le
    have hwidth := covers_sub_le hx hi hj
    linarith
  have hle := hapart hi hj
  have hge := hapart hj hi
  omega

/-- On the grid of eighteen digits there is always a hit: the point above the fraction. -/
theorem covers_above {x : Binary64} (hx : x.IsNormal) : ∃ j : Nat,
    x.Covers (j * 10 ^ (x.lead - 17)) := by
  rcases lead_bounds hx with ⟨hlow, hhigh⟩
  have hunit := (unit_bounds hx hlow hhigh).2
  rcases below_bounds x (x.lead - 17) with ⟨hbelow, habove⟩
  -- A step of this grid is less than half a unit, so the next point is still in the interval.
  refine ⟨(x.grid (x.lead - 17)).below + 1, ?_⟩
  push_cast at habove ⊢
  have hhigh_eq : x.high = x.magnitude + 2 ^ x.exponent / 2 := by
    rw [high_eq]
    unfold magnitude
    ring
  have hbelow_high : ((x.grid (x.lead - 17)).below + 1) * (10 : ℚ) ^ (x.lead - 17) < x.high := by
    linarith
  have hmiddle := covers_magnitude hx
  unfold Covers at hmiddle ⊢
  split at hmiddle
  · next heven =>
      rw [if_pos heven]
      exact ⟨le_trans hmiddle.1 habove.le, hbelow_high.le⟩
  · next hodd =>
      rw [if_neg hodd]
      exact ⟨lt_trans hmiddle.1 habove, hbelow_high⟩

/-- No decimal in the interval has fewer digits, and none with as many is closer. -/
structure IsShortest (x : Binary64) (n : Nat) (k : Int) : Prop extends x.IsClosest n k where
  /-- No decimal with one digit less is in the interval. -/
  not_covers : ∀ j : Nat, ¬ x.Covers (j * 10 ^ (k + 1))

theorem mul_ten_zpow (j : Nat) (k : Int) : ((10 * j : Nat) : ℚ) * 10 ^ k = j * 10 ^ (k + 1) := by
  rw [zpow_add_one₀ (by norm_num)]
  push_cast
  ring

/-- A decimal on a coarser grid is on every finer one as well. -/
theorem mul_ten_zpow_of_le (n : Nat) {j k : Int} (h : j ≤ k) :
    ((n * 10 ^ (k - j).natAbs : Nat) : ℚ) * 10 ^ j = n * 10 ^ k := by
  push_cast
  rw [← zpow_natCast, mul_assoc, ← zpow_add₀ (by norm_num)]
  congr 2
  omega

/-- A decimal that is rounded to the fraction lies on the grid of its shortest decimal or on a
    finer one. -/
theorem IsShortest.le_exponent {x : Binary64} {n : Nat} {k : Int} (h : x.IsShortest n k) {j : Nat}
    {i : Int} (hj : x.Covers (j * 10 ^ i)) : i ≤ k := by
  by_contra hcoarse
  refine h.not_covers (j * 10 ^ (i - (k + 1)).natAbs) ?_
  rw [mul_ten_zpow_of_le j (by omega)]
  exact hj

theorem shortest_eq {x : Binary64} (hx : x.IsNormal) (tie : Tie) :
    x.shortest tie = if (search tie x x.lead 1 18).1 % 10 = 0 then
        ((search tie x x.lead 1 18).1 / 10, (search tie x x.lead 1 18).2 + 1)
      else search tie x x.lead 1 18 := by
  have hsig : x.significand ≠ 0 := by
    have hle := hx.leadingBit_le
    unfold leadingBit at hle
    omega
  unfold shortest lead
  rw [if_neg hsig]

/-- A closest point whose digits do not end in a zero is the shortest, when the grid with one digit
    less has no hit. -/
theorem isShortest_of_isClosest {x : Binary64} {n : Nat} {k : Int} (hclosest : x.IsClosest n k)
    (hnone : ∀ j : Nat, ¬ x.Covers (j * 10 ^ (k + 1))) : n % 10 ≠ 0 ∧ x.IsShortest n k := by
  refine ⟨fun hzero => hnone (n / 10) ?_, hclosest, hnone⟩
  rw [← mul_ten_zpow, Nat.mul_div_cancel' (Nat.dvd_of_mod_eq_zero hzero)]
  exact hclosest.covers

/-- A power of ten that is found on the grid of one digit is written with one digit less. -/
theorem isShortest_ten {x : Binary64} (hx : x.IsNormal) (hclosest : x.IsClosest 10 x.lead) :
    x.IsShortest 1 (x.lead + 1) := by
  -- Every decimal of the coarser grid is on the finer one, where ten is known to be the closest.
  have hten : ∀ j : Nat, ((10 * j : Nat) : ℚ) * 10 ^ x.lead = j * 10 ^ (x.lead + 1) :=
    fun j => mul_ten_zpow j x.lead
  have hone := hten 1
  rw [Nat.mul_one] at hone
  refine ⟨⟨?_, fun j hj => ?_, fun j hj heq => ?_⟩, fun j hj => ?_⟩
  · rw [← hone]
    exact hclosest.covers
  · rw [← hten] at hj
    rw [← hone, ← hten j]
    exact hclosest.le_of_covers _ hj
  · rw [← hten] at hj
    rw [← hone, ← hten j] at heq
    have hle := hclosest.le_of_eq _ hj heq
    omega
  · -- One and a multiple of ten would be two points of one grid.
    rw [← mul_ten_zpow, ← hten] at hj
    have hsame := covers_inj hx (by omega) hclosest.covers hj
    omega

theorem lt_eleven_of_covers {x : Binary64} (hx : x.IsNormal) {n : Nat}
    (hn : x.Covers (n * 10 ^ x.lead)) : 0 < n ∧ n < 11 := by
  rcases lead_bounds hx with ⟨hlow, hhigh⟩
  have hpos := ten_zpow_pos x.lead
  have hunit := (unit_bounds hx hlow hhigh).1
  have hstep : (10 : ℚ) ^ (x.lead - 14) ≤ 10 ^ x.lead :=
    zpow_le_zpow_right₀ (by norm_num) (by omega)
  -- The fraction is below ten steps of this grid, and the hit is less than one step above it.
  have hwidth := covers_sub_le hx (covers_magnitude hx) hn
  rw [zpow_add_one₀ (by norm_num)] at hhigh
  constructor
  · by_contra hzero
    have hn0 : n = 0 := by omega
    have hcovers := covers_pos hx hn
    rw [hn0, Nat.cast_zero, zero_mul] at hcovers
    exact lt_irrefl _ hcovers
  · have hlt : (n : ℚ) * 10 ^ x.lead < 11 * 10 ^ x.lead := by linarith
    exact_mod_cast lt_of_mul_lt_mul_right hlt hpos.le

/-- The digits that are written make the shortest decimal. -/
theorem isShortest_shortest {x : Binary64} (hx : x.IsNormal) :
    x.IsShortest (x.shortest .away).1 (x.shortest .away).2 := by
  rcases covers_above hx with ⟨j, hj⟩
  have hlast : x.lead - (18 : Nat) + 1 = x.lead - 17 := by push_cast; ring
  rcases search_first hx x.lead 18 1 18 (by norm_num) (by norm_num) (hlast ▸ hj) with
    ⟨found, n, hfound, _, hrun, hclosest, hnone⟩
  rw [shortest_eq hx, hrun]
  rcases Nat.eq_or_lt_of_le hfound with hfirst | hlater
  · -- On the first grid a digit stands below the fraction, and the point above it may be ten.
    have hgrid : x.lead - (found : Int) + 1 = x.lead := by omega
    rw [hgrid] at hclosest hrun ⊢
    by_cases hzero : n % 10 = 0
    · have hn := lt_eleven_of_covers hx hclosest.covers
      have hten : n = 10 := by omega
      rw [if_pos hzero]
      subst hten
      change x.IsShortest (10 / 10) (x.lead + 1)
      exact isShortest_ten hx hclosest
    · rw [if_neg hzero]
      refine ⟨hclosest, fun i hi => hzero ?_⟩
      rw [← mul_ten_zpow] at hi
      rw [covers_inj hx (by omega) hclosest.covers hi]
      exact Nat.mul_mod_right 10 i
  · -- On a later grid the one before it had no hit, so no zero stands at the end.
    have hgrid : x.lead - ((found - 1 : Nat) : Int) + 1 = x.lead - found + 1 + 1 := by omega
    have hcoarse := hnone (found - 1) (by omega) (by omega)
    rw [hgrid] at hcoarse
    rcases isShortest_of_isClosest hclosest hcoarse with ⟨hzero, hshortest⟩
    rw [if_neg hzero]
    exact hshortest

/-- There is only one shortest decimal. -/
theorem isShortest_unique {x : Binary64} {n n' : Nat} {k k' : Int} (h : x.IsShortest n k)
    (h' : x.IsShortest n' k') : n = n' ∧ k = k' := by
  have hk : k = k' := le_antisymm (h'.le_exponent h.covers) (h.le_exponent h'.covers)
  subst hk
  -- On one grid both are the closest, and of two that are equally close the larger.
  have hdist := le_antisymm (h.le_of_covers n' h'.covers) (h'.le_of_covers n h.covers)
  have hn := h.le_of_eq n' h'.covers hdist
  have hn' := h'.le_of_eq n h.covers hdist.symm
  exact ⟨by omega, rfl⟩

end Binary64

end BankLedger
