import BankLedger.Proofs.Decimal.RoundTrip
import BankLedger.Proofs.Decimal.Value

/-!
# Decimals without Zeros at their End

Two decimals may be the same number with different scales. Where only the number counts a decimal is
normalized first: zeros behind the point are dropped, one at a time, for as long as the last digit
is a zero and there is a fraction at all. Dropping a zero divides the coefficient by ten and takes
one off the scale, so the number stays, and what is left has either no fraction or a last digit that
is not zero.

A zero loses all its digits in this way, and its sign besides. So there is only one text for it, and
no normalized decimal is one that its text would not give back.

## Main definitions

* `Decimal.WritesNormally`: A text is the numeral of a number, without zeros at its end.

## Theorems

* `Decimal.strip_mul`, `Decimal.strip_last`: What dropping zeros keeps, and where it ends.
* `Decimal.toRat_normalize`: The number stays.
* `Decimal.getLast?_magnitudeChars`: The last digit that is written.
* `Decimal.writesNormally_normalize`: A normalized decimal is written as such a text.
-/

namespace BankLedger

namespace Decimal

section Strip

variable (n s : Nat)

/-- Dropping zeros keeps the quotient. -/
theorem strip_mul : (strip n s).1 * 10 ^ s = n * 10 ^ (strip n s).2 := by
  induction s generalizing n with
  | zero => rfl
  | succ s ih =>
      unfold strip
      by_cases hlast : n % 10 = 0
      · have hten : n = n / 10 * 10 := by omega
        rw [if_pos hlast, pow_succ, ← Nat.mul_assoc, ih (n / 10), Nat.mul_right_comm, ← hten]
      · rw [if_neg hlast]

/-- It ends when there is no fraction left, or before a digit that is not zero. -/
theorem strip_last : (strip n s).2 = 0 ∨ (strip n s).1 % 10 ≠ 0 := by
  induction s generalizing n with
  | zero => exact Or.inl rfl
  | succ s ih =>
      unfold strip
      by_cases hlast : n % 10 = 0
      · rw [if_pos hlast]
        exact ih (n / 10)
      · rw [if_neg hlast]
        exact Or.inr hlast

theorem strip_zero : strip 0 s = (0, 0) := by
  induction s with
  | zero => rfl
  | succ s ih => exact ih

/-- What is not zero does not become zero. -/
theorem strip_fst_eq_zero_iff : (strip n s).1 = 0 ↔ n = 0 := by
  constructor
  · intro hzero
    have hmul := strip_mul n s
    rw [hzero, Nat.zero_mul, eq_comm, Nat.mul_eq_zero] at hmul
    exact hmul.resolve_right (Nat.pow_pos (by decide)).ne'
  · rintro rfl
    rw [strip_zero]

end Strip

variable (a : Decimal)

/-- Every zero is normalized to the plain one. -/
theorem normalize_of_isZero {a : Decimal} (h : a.isZero = true) : a.normalize = zero := by
  have hcoefficient : a.coefficient = 0 := beq_iff_eq.mp h
  unfold normalize zero
  congr 1
  · rw [h, Bool.not_true, Bool.and_false]
  · rw [hcoefficient, strip_zero]
  · rw [hcoefficient, strip_zero]

/-- The units change with the scale and keep their sign. -/
theorem units_normalize : a.normalize.units * 10 ^ a.scale = a.units * 10 ^ a.normalize.scale := by
  by_cases hzero : a.isZero = true
  · have hunits : a.units = 0 := (units_eq_zero_iff a).mpr (beq_iff_eq.mp hzero)
    have hunits' : zero.units = 0 := rfl
    rw [normalize_of_isZero hzero, hunits, hunits', Int.zero_mul, Int.zero_mul]
  · have hsign : a.normalize.negative = a.negative := by
      simp only [normalize, Bool.eq_false_iff.mpr hzero, Bool.not_false, Bool.and_true]
    have hmul : (a.normalize.coefficient : Int) * 10 ^ a.scale =
        a.coefficient * 10 ^ a.normalize.scale := by
      exact_mod_cast strip_mul a.coefficient a.scale
    unfold units
    rw [hsign]
    cases a.negative with
    | false => exact hmul
    | true => simp only [if_true, Int.neg_mul, hmul]

/-- The number stays. -/
theorem toRat_normalize : a.normalize.toRat = a.toRat := by
  have hunits : (a.normalize.units : ℚ) * 10 ^ a.scale = a.units * 10 ^ a.normalize.scale := by
    exact_mod_cast units_normalize a
  rw [toRat_eq, toRat_eq, div_eq_div_iff (pow_scale_pos _).ne' (pow_scale_pos _).ne', hunits]

/-- A normalized zero has no minus. -/
theorem isPlain_normalize : a.normalize.IsPlain := by
  intro hnegative hcoefficient
  have hzero : a.coefficient = 0 := (strip_fst_eq_zero_iff _ _).mp hcoefficient
  simp [normalize, isZero, hzero] at hnegative

section Digits

variable (n scale : Nat)

theorem getLast?_toDigits : (Nat.toDigits 10 n).getLast? = some (Nat.digitChar (n % 10)) := by
  by_cases hsmall : n < 10
  · rw [Nat.toDigits_of_lt_base hsmall, Nat.mod_eq_of_lt hsmall, List.getLast?_singleton]
  · rw [Nat.toDigits_of_base_le (by decide) (Nat.le_of_not_lt hsmall), List.getLast?_concat]

/-- The last digit of a fraction that is written is the last one of the coefficient. -/
theorem getLast?_magnitudeChars {scale : Nat} (h : scale ≠ 0) :
    (magnitudeChars n scale).getLast? = some (Nat.digitChar (n % 10)) := by
  have hlength := lt_length_paddedDigits n scale
  have hlast : (paddedDigits n scale).getLast? = some (Nat.digitChar (n % 10)) := by
    rw [paddedDigits, List.getLast?_append, getLast?_toDigits, Option.some_or]
  have hbehind : ¬ (paddedDigits n scale).length ≤ (paddedDigits n scale).length - scale := by
    omega
  unfold magnitudeChars
  simp only [if_neg h]
  rw [List.getLast?_append, List.getLast?_cons, List.getLast?_drop, if_neg hbehind, hlast]
  rfl

/-- Without a fraction there is no point. -/
theorem point_not_mem_magnitudeChars : '.' ∉ magnitudeChars n 0 := by
  intro hmem
  have hdigit := isDigit_paddedDigits n 0 '.' (List.mem_of_mem_take hmem)
  exact absurd hdigit (by decide)

end Digits

/-- A text is the numeral of a number: it is read as a decimal that stands for the number, there is
    no zero at the end of its fraction, and zero has no sign. -/
structure WritesNormally (s : String) (a : Decimal) : Prop where
  readBack : ∃ b, ofText? s = some b ∧ b.toRat = a.toRat
  noTrailingZero : '.' ∈ s.toList → s.toList.getLast? ≠ some '0'
  zero : a.toRat = 0 → s = "0"

/-- A normalized decimal is written without zeros at its end. -/
theorem writesNormally_normalize : WritesNormally a.normalize.toText a where
  readBack := ⟨a.normalize, ofText?_toText a.isPlain_normalize, a.toRat_normalize⟩
  noTrailingZero := by
    intro hpoint hlast
    rw [toText, String.toList_ofList, toChars_eq] at hpoint hlast
    have hscale : a.normalize.scale ≠ 0 := by
      intro hzero
      rw [hzero] at hpoint
      rcases List.mem_append.mp hpoint with hsign | hdigits
      · unfold signChars at hsign
        split at hsign <;> simp at hsign
      · exact point_not_mem_magnitudeChars _ hdigits
    rw [List.getLast?_append, getLast?_magnitudeChars _ hscale, Option.some_or,
      Option.some.injEq] at hlast
    have hdigit : a.normalize.coefficient % 10 ≠ 0 :=
      (strip_last a.coefficient a.scale).resolve_left hscale
    have hall : ∀ d < 10, Nat.digitChar d = '0' → d = 0 := by decide
    exact hdigit (hall _ (Nat.mod_lt _ (by decide)) hlast)
  zero h := by
    rw [normalize_of_isZero ((isZero_iff a).mpr h)]
    rfl

end Decimal

end BankLedger
