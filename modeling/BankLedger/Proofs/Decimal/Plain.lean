import BankLedger.Binary64.Shortest
import BankLedger.Decimal.Text
import BankLedger.Proofs.Decimal.Sum

/-!
# Reading Digits

The plain form of a decimal is read from left to right. As long as the coefficient has room and
there are no more than 28 digits behind the point, nothing is rounded and the number that is read is
the one the digits write. A whole part without room is refused.

This is applied to the decimals that binary fractions are written as. They have a sign only when
they are below zero, and a point only when there are digits behind it.

## Main definitions

* `signed`: A magnitude with its sign.

## Theorems

* `readMagnitude_whole`, `readMagnitude_fraction`: The digits before and behind the point.
* `ofPlain?_whole_eq`, `ofPlain?_pointed_eq`, `ofPlain?_padded`: The plain form.
* `ofPlain?_whole`: The number that digits without a point stand for.
* `ofPlain?_positional`: What a binary fraction is written as is read as that.
-/

namespace BankLedger

theorem Text.splitSign_cons {c : Char} (hminus : c ≠ '-') (hplus : c ≠ '+') (cs : List Char) :
    Text.splitSign (c :: cs) = (false, c :: cs) := by
  unfold Text.splitSign
  split
  · next hc => exact absurd (List.cons.inj hc).1 hminus
  · next hc => exact absurd (List.cons.inj hc).1 hplus
  · rfl

namespace Decimal

/-- A magnitude with its sign. -/
def signed (negative : Bool) (q : ℚ) : ℚ := if negative then -q else q

theorem digitValue_of_isDigit {c : Char} (h : c.isDigit = true) :
    Text.digitValue c = c.toNat - '0'.toNat := by
  unfold Text.digitValue
  rw [if_pos h]

theorem le_ofDigitChars (ds : List Char) (m : Nat) : m ≤ Nat.ofDigitChars 10 ds m := by
  induction ds generalizing m with
  | nil => rw [Nat.ofDigitChars_nil]
  | cons c ds ih =>
      rw [Nat.ofDigitChars_cons]
      have hnext := ih (10 * m + (c.toNat - '0'.toNat))
      omega

/-- A digit for which there is room is put behind the others. -/
theorem readMagnitude_digit {c : Char} (hc : c.isDigit = true) (point seen : Bool) (m scale : Nat)
    (hscale : point = true → scale < maxScale) (cs : List Char) :
    readMagnitude point seen m scale (c :: cs) =
      if 10 * m + (c.toNat - '0'.toNat) < limit then
        readMagnitude point true (10 * m + (c.toNat - '0'.toNat))
          (if point then scale + 1 else scale) cs
      else if point then roundOff m scale c cs else none := by
  have hfull : (point && decide (scale = maxScale)) = false := by
    cases point with
    | false => rfl
    | true => simpa using Nat.ne_of_lt (hscale rfl)
  rw [readMagnitude, hfull, hc, digitValue_of_isDigit hc, Nat.mul_comm m 10]
  rfl

-- By induction on the digits, with what was read so far as it comes. A prefix of digits that have
-- room has room itself, because putting a digit behind others never makes the number smaller.
/-- Digits before the point are read as long as the coefficient has room. -/
theorem readMagnitude_whole (ds rest : List Char) (hds : ∀ c ∈ ds, c.isDigit = true) (seen : Bool)
    (m : Nat) (hm : m < limit) :
    readMagnitude false seen m 0 (ds ++ rest) = if Nat.ofDigitChars 10 ds m < limit then
      readMagnitude false (seen || !ds.isEmpty) (Nat.ofDigitChars 10 ds m) 0 rest else none := by
  induction ds generalizing seen m with
  | nil =>
      rw [Nat.ofDigitChars_nil, if_pos hm, List.isEmpty_nil, Bool.not_true, Bool.or_false,
        List.nil_append]
  | cons c ds ih =>
      have hc := hds c List.mem_cons_self
      have hmono := le_ofDigitChars ds (10 * m + (c.toNat - '0'.toNat))
      rw [Nat.ofDigitChars_cons, List.cons_append, readMagnitude_digit hc _ _ _ _ (by simp)]
      by_cases hroom : 10 * m + (c.toNat - '0'.toNat) < limit
      · rw [if_pos hroom]
        simp only [Bool.false_eq_true, if_false]
        rw [ih (fun d hd => hds d (List.mem_cons_of_mem _ hd)) true _ hroom]
        simp only [Bool.true_or, List.isEmpty_cons, Bool.not_false, Bool.or_true]
      · rw [if_neg hroom, if_neg Bool.false_ne_true, if_neg (by omega)]

/-- Digits behind the point are read as long as there is room for all of them. -/
theorem readMagnitude_fraction (ds : List Char) (hds : ∀ c ∈ ds, c.isDigit = true) (seen : Bool)
    (m scale : Nat) (hroom : Nat.ofDigitChars 10 ds m < limit)
    (hscale : scale + ds.length ≤ maxScale) (hseen : seen = true ∨ ds ≠ []) :
    readMagnitude true seen m scale ds
      = some ⟨Nat.ofDigitChars 10 ds m, scale + ds.length⟩ := by
  induction ds generalizing seen m scale with
  | nil =>
      rw [readMagnitude, if_pos (hseen.resolve_right fun h => h rfl)]
      rfl
  | cons c ds ih =>
      have hc := hds c List.mem_cons_self
      have hmono := le_ofDigitChars ds (10 * m + (c.toNat - '0'.toNat))
      rw [Nat.ofDigitChars_cons] at hroom ⊢
      rw [List.length_cons] at hscale ⊢
      rw [readMagnitude_digit hc _ _ _ _ (by omega), if_pos (by omega), if_pos rfl,
        ih (fun d hd => hds d (List.mem_cons_of_mem _ hd)) true _ (scale + 1) hroom
          (by omega) (Or.inl rfl)]
      congr 2
      omega

/-- The sign as it is written. -/
def signChars (negative : Bool) : List Char := if negative then ['-'] else []

theorem splitSign_signChars (negative : Bool) {c : Char} (hc : c.isDigit = true) (cs : List Char) :
    Text.splitSign (signChars negative ++ c :: cs) = (negative, c :: cs) := by
  cases negative with
  | true => rfl
  | false =>
      refine Text.splitSign_cons ?_ ?_ cs
      · rintro rfl
        cases hc
      · rintro rfl
        cases hc

/-- A zero may be written with a minus, but it is read as positive, and its number is the same. -/
theorem map_toRat_ofParts? (negative : Bool) {n scale : Nat} (hn : n < limit) (hs : scale ≤ 28) :
    (ofParts? (negative && n != 0) n scale).map toRat
      = some (signed negative (n / 10 ^ scale)) := by
  unfold ofParts?
  rw [dif_pos ⟨hn, hs⟩, Option.map_some, toRat_eq]
  congr 1
  unfold units signed
  by_cases hzero : n = 0
  · simp [hzero]
  · cases negative with
    | false => simp
    | true => simp [hzero, neg_div]

/-- Digits without a point. -/
theorem ofPlain?_whole_eq (negative : Bool) (ds : List Char) (hds : ∀ c ∈ ds, c.isDigit = true)
    (hne : ds ≠ []) :
    ofPlain? (signChars negative ++ ds) = if Nat.ofDigitChars 10 ds 0 < limit then
      ofParts? (negative && Nat.ofDigitChars 10 ds 0 != 0) (Nat.ofDigitChars 10 ds 0) 0
      else none := by
  have hread := readMagnitude_whole ds [] hds false 0 (by decide)
  rcases ds with _ | ⟨c, cs⟩
  · exact absurd rfl hne
  · unfold ofPlain?
    rw [splitSign_signChars negative (hds c List.mem_cons_self)]
    rw [List.append_nil] at hread
    simp only [hread]
    by_cases hroom : Nat.ofDigitChars 10 (c :: cs) 0 < limit
    · rw [if_pos hroom, if_pos hroom, readMagnitude]
      rfl
    · rw [if_neg hroom, if_neg hroom]
      rfl

/-- The number of digits without a point. -/
theorem ofPlain?_whole (negative : Bool) (ds : List Char) (hds : ∀ c ∈ ds, c.isDigit = true)
    (hne : ds ≠ []) :
    (ofPlain? (signChars negative ++ ds)).map toRat = if Nat.ofDigitChars 10 ds 0 < limit then
      some (signed negative (Nat.ofDigitChars 10 ds 0 : Nat)) else none := by
  rw [ofPlain?_whole_eq negative ds hds hne]
  by_cases hroom : Nat.ofDigitChars 10 ds 0 < limit
  · have hparts := map_toRat_ofParts? negative hroom (Nat.zero_le 28)
    rw [pow_zero, div_one] at hparts
    rw [if_pos hroom, if_pos hroom, hparts]
  · rw [if_neg hroom, if_neg hroom, Option.map_none]

/-- Digits with a point among them, when there is room for all of them. -/
theorem ofPlain?_pointed_eq (negative : Bool) (whole fraction : List Char)
    (hwhole : ∀ c ∈ whole, c.isDigit = true) (hfraction : ∀ c ∈ fraction, c.isDigit = true)
    (hne : whole ≠ []) (hroom : Nat.ofDigitChars 10 (whole ++ fraction) 0 < limit)
    (hlength : fraction.length ≤ maxScale) :
    ofPlain? (signChars negative ++ (whole ++ '.' :: fraction))
      = ofParts? (negative && Nat.ofDigitChars 10 (whole ++ fraction) 0 != 0)
          (Nat.ofDigitChars 10 (whole ++ fraction) 0) fraction.length := by
  rw [Nat.ofDigitChars_append] at hroom ⊢
  have hmono := le_ofDigitChars fraction (Nat.ofDigitChars 10 whole 0)
  have hbefore := readMagnitude_whole whole ('.' :: fraction) hwhole false 0 (by decide)
  rw [if_pos (by omega)] at hbefore
  have hbehind := readMagnitude_fraction fraction hfraction true _ 0 hroom (by omega) (Or.inl rfl)
  -- The point changes nothing but the state, so the two halves of the reading meet here.
  have hpoint : readMagnitude false (false || !whole.isEmpty) (Nat.ofDigitChars 10 whole 0) 0
      ('.' :: fraction) = some ⟨Nat.ofDigitChars 10 fraction (Nat.ofDigitChars 10 whole 0),
        0 + fraction.length⟩ := by
    rw [readMagnitude]
    simpa [List.isEmpty_eq_false_iff.mpr hne] using hbehind
  rw [hpoint, Nat.zero_add] at hbefore
  rcases whole with _ | ⟨c, cs⟩
  · exact absurd rfl hne
  · unfold ofPlain?
    rw [List.cons_append, splitSign_signChars negative (hwhole c List.mem_cons_self)]
    rw [List.cons_append] at hbefore
    simp only [hbefore]
    rfl

theorem isDigit_zeros {k : Nat} : ∀ c ∈ List.replicate k '0', c.isDigit = true := by
  intro c hc
  rw [List.eq_of_mem_replicate hc]
  rfl

/-- Digits and zeros behind them. -/
theorem ofPlain?_positional_of_nonneg (negative : Bool) (n : Nat) {k : Int} (hk : 0 ≤ k) :
    (ofPlain? (signChars negative ++ Binary64.positional n k)).map toRat
      = if n * 10 ^ k.toNat < limit then some (signed negative (n * 10 ^ k.toNat : Nat))
        else none := by
  have hdigits : ∀ c ∈ Nat.toDigits 10 n, c.isDigit = true := fun c hc =>
    Nat.isDigit_of_mem_toDigits (by decide) (by decide) hc
  unfold Binary64.positional
  by_cases hzero : n = 0
  · have hread := ofPlain?_whole negative _ hdigits Nat.toDigits_ne_nil
    rw [Nat.ofDigitChars_ten_toDigits] at hread
    simpa [hk, hzero] using hread
  · have hread := ofPlain?_whole negative (Nat.toDigits 10 n ++ List.replicate k.toNat '0')
      (fun c hc => (List.mem_append.mp hc).elim (hdigits c) (isDigit_zeros c))
      (fun h => Nat.toDigits_ne_nil (List.append_eq_nil_iff.mp h).1)
    rw [Nat.ofDigitChars_append, Nat.ofDigitChars_ten_toDigits, Nat.ofDigitChars_replicate_zero,
      Nat.mul_comm] at hread
    simpa only [hk, if_true, hzero, if_false] using hread

section PaddedDigits

variable (n scale : Nat)

theorem isDigit_paddedDigits : ∀ c ∈ paddedDigits n scale, c.isDigit = true := by
  intro c hc
  exact (List.mem_append.mp hc).elim (isDigit_zeros c)
    (Nat.isDigit_of_mem_toDigits (by decide) (by decide))

/-- The zeros in front make sure that a digit is left before the point. -/
theorem lt_length_paddedDigits : scale < (paddedDigits n scale).length := by
  unfold paddedDigits
  rw [List.length_append, List.length_replicate]
  omega

theorem ofDigitChars_paddedDigits : Nat.ofDigitChars 10 (paddedDigits n scale) 0 = n := by
  unfold paddedDigits
  rw [Nat.ofDigitChars_append, Nat.ofDigitChars_replicate_zero, Nat.mul_zero,
    Nat.ofDigitChars_ten_toDigits]

/-- Padded digits with a point among them. -/
theorem ofPlain?_padded (negative : Bool) (hn : n < limit) (hscale : scale ≤ maxScale) :
    ofPlain? (signChars negative
        ++ ((paddedDigits n scale).take ((paddedDigits n scale).length - scale)
          ++ '.' :: (paddedDigits n scale).drop ((paddedDigits n scale).length - scale)))
      = ofParts? (negative && n != 0) n scale := by
  have hdigits := isDigit_paddedDigits n scale
  have hlength := lt_length_paddedDigits n scale
  have hvalue := ofDigitChars_paddedDigits n scale
  generalize paddedDigits n scale = padded at hdigits hlength hvalue ⊢
  have hbehind : (padded.drop (padded.length - scale)).length = scale := by
    rw [List.length_drop]
    omega
  have hne : padded.take (padded.length - scale) ≠ [] := by
    intro h
    have hnil := congrArg List.length h
    rw [List.length_take, List.length_nil] at hnil
    omega
  have hread := ofPlain?_pointed_eq negative _ (padded.drop (padded.length - scale))
    (fun c hc => hdigits c (List.mem_of_mem_take hc))
    (fun c hc => hdigits c (List.mem_of_mem_drop hc)) hne
    (by rwa [List.take_append_drop, hvalue]) (by rwa [hbehind])
  rwa [List.take_append_drop, hvalue, hbehind] at hread

end PaddedDigits

/-- Digits with as many of them behind the point as the exponent says. -/
theorem ofPlain?_positional_of_neg (negative : Bool) {n : Nat} (hn : n < limit) {k : Int}
    (hk : k < 0) (hscale : -28 ≤ k) :
    (ofPlain? (signChars negative ++ Binary64.positional n k)).map toRat
      = some (signed negative (n / 10 ^ k.natAbs)) := by
  have hplaces : k.natAbs ≤ maxScale := by
    unfold maxScale
    omega
  have hread := ofPlain?_padded n k.natAbs negative hn hplaces
  unfold Binary64.positional
  simp only [not_le.mpr hk, if_false]
  exact (congrArg (Option.map toRat) hread).trans (map_toRat_ofParts? negative hn hplaces)

/-- What a binary fraction is written as is read as the same number, as long as its digits fit and
    no digit is behind the last place. -/
theorem ofPlain?_positional (negative : Bool) {n : Nat} (hn : n < limit) {k : Int} (hk : -28 ≤ k) :
    (ofPlain? (signChars negative ++ Binary64.positional n k)).map toRat
      = if (n : ℚ) * 10 ^ k < limit then some (signed negative (n * 10 ^ k)) else none := by
  rcases le_or_gt 0 k with hnonneg | hneg
  · have hpow : (n : ℚ) * 10 ^ k = ((n * 10 ^ k.toNat : Nat) : ℚ) := by
      have hk' : k = (k.toNat : Int) := by omega
      rw [Nat.cast_mul, Nat.cast_pow, Nat.cast_ofNat, ← zpow_natCast, ← hk']
    rw [ofPlain?_positional_of_nonneg negative n hnonneg, hpow]
    simp only [Nat.cast_lt]
  · have hpow : (n : ℚ) * 10 ^ k = n / 10 ^ k.natAbs := by
      have hk' : k = -(k.natAbs : Int) := by omega
      rw [div_eq_mul_inv, ← zpow_natCast, ← zpow_neg, ← hk']
    have hsmall : (n : ℚ) * 10 ^ k < limit := by
      have hle : (n : ℚ) / 10 ^ k.natAbs ≤ n :=
        div_le_self (by positivity) (one_le_pow₀ (by norm_num))
      have hlt : (n : ℚ) < limit := Nat.cast_lt.mpr hn
      rw [hpow]
      linarith
    rw [if_pos hsmall, ofPlain?_positional_of_neg negative hn hneg hk, hpow]

end Decimal

end BankLedger
