import BankLedger.Decimal.Sum
import BankLedger.Proofs.Decimal.Plain

/-!
# Decimals Read Back

A decimal that is written in full is read back as it was, with the same scale. There is one
exception, because a zero that is written out is read as positive: a zero with a minus comes back
without it. Sums do not lead to such a zero, unless one is added in the first place.

## Main definitions

* `Decimal.IsPlain`: A zero has no minus.

## Theorems

* `ofText?_toText`: What is written is read back.
* `isPlain_of_isPositive`: What is above zero has no minus.
* `IsPlain.add?`: A sum of plain decimals is plain.
-/

namespace BankLedger

namespace Decimal

/-- The decimal is not a zero with a minus. -/
def IsPlain (a : Decimal) : Prop := a.negative = true → a.coefficient ≠ 0

theorem isPlain_zero : zero.IsPlain := nofun

/-- What is above zero has no minus. -/
theorem isPlain_of_isPositive {a : Decimal} (h : a.isPositive = true) : a.IsPlain := by
  intro _ hzero
  simp [isPositive, units, hzero] at h

theorem IsPlain.neg {a : Decimal} (h : a.IsPlain) : (-a).IsPlain := by
  change a.neg.IsPlain
  unfold Decimal.neg
  split
  · exact h
  · next hzero =>
      intro _ hcoefficient
      exact hzero (beq_iff_eq.mpr hcoefficient)

/-- What is built from units has the sign of the units. -/
theorem isPlain_of_ofUnits? {n : Int} {scale : Nat} {r : Decimal}
    (h : ofUnits? n scale = some r) : r.IsPlain := by
  unfold ofUnits? ofParts? at h
  split at h
  · cases h
    intro hnegative hcoefficient
    have hn := of_decide_eq_true hnegative
    have hn' := Int.natAbs_eq_zero.mp hcoefficient
    omega
  · cases h

theorem isPlain_of_fit? {n : Int} {dropped scale : Nat} {r : Decimal}
    (h : fit? n dropped scale = some r) : r.IsPlain := by
  induction scale generalizing dropped with
  | zero => exact isPlain_of_ofUnits? h
  | succ s ih =>
      unfold fit? at h
      rcases Option.or_eq_some_iff.mp h with hfirst | ⟨_, hlater⟩
      · exact isPlain_of_ofUnits? hfirst
      · exact ih hlater

/-- A sum of plain decimals is plain. -/
theorem IsPlain.add? {a b r : Decimal} (ha : a.IsPlain) (hb : b.IsPlain)
    (h : a.add? b = some r) : r.IsPlain := by
  unfold Decimal.add? at h
  split at h
  · cases h
    exact hb
  · split at h
    · cases h
      exact ha
    · exact isPlain_of_fit? h

theorem toChars_eq (a : Decimal) :
    a.toChars = signChars a.negative ++ magnitudeChars a.coefficient a.scale := by
  unfold toChars signChars
  cases a.negative with
  | false => rfl
  | true => rfl

/-- The parts of a decimal make it up again. -/
theorem ofParts?_eq_some {a : Decimal} (h : a.IsPlain) :
    ofParts? (a.negative && a.coefficient != 0) a.coefficient a.scale = some a := by
  have hsign : (a.negative && a.coefficient != 0) = a.negative := by
    cases hnegative : a.negative with
    | false => rfl
    | true => simp [h hnegative]
  unfold ofParts?
  rw [dif_pos ⟨a.coefficient_lt, a.scale_le⟩, hsign]

/-- Digits without a fraction have no point, and all others have one. -/
theorem ofPlain?_toChars {a : Decimal} (h : a.IsPlain) : ofPlain? a.toChars = some a := by
  have hparts := ofParts?_eq_some h
  rw [toChars_eq]
  unfold magnitudeChars
  by_cases hscale : a.scale = 0
  · have hread := ofPlain?_whole_eq a.negative (paddedDigits a.coefficient a.scale)
      (isDigit_paddedDigits _ _)
      (List.ne_nil_of_length_pos (Nat.zero_lt_of_lt (lt_length_paddedDigits _ _)))
    rw [ofDigitChars_paddedDigits, if_pos a.coefficient_lt] at hread
    rw [hscale] at hread hparts
    simp only [hscale, if_true, Nat.sub_zero, List.take_length]
    rw [hread, hparts]
  · simp only [hscale, if_false]
    rw [ofPlain?_padded _ _ _ a.coefficient_lt a.scale_le, hparts]

/-- A decimal that is written is read back as it was. -/
theorem ofText?_toText {a : Decimal} (h : a.IsPlain) : ofText? a.toText = some a := by
  unfold ofText? toText ofChars?
  rw [String.toList_ofList, ofPlain?_toChars h, Option.some_or]

example : ofText? hundredth.toText = some hundredth := by decide

end Decimal

end BankLedger
