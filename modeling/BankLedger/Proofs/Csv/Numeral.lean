import BankLedger.Csv.Amount
import BankLedger.Proofs.Binary64.RoundTrip
import Mathlib.Data.List.TakeWhile

/-!
# Numerals as Amounts

A plain numeral is a sign or none, and digits with at most one point among them. The point decides
which way the amount is read. Without one the numeral is a whole number, and it is taken as it is
when it has 64 bits. With one it goes through the nearest binary fraction, and what comes out is the
same number when the number reads back.

## Main definitions

* `Numeral`: A plain numeral, with at least one digit.
* `Numeral.text`, `Numeral.toRat`: How it is written, and the number it stands for.
* `Numeral.Survives`: The number is among those that the reading of amounts keeps.

## Theorems

* `Numeral.readInteger?_whole`, `Numeral.readInteger?_pointed`: The reader of whole numbers.
* `Numeral.readDatum?_chars`: Which way the point sends it.
* `Numeral.amountOf_whole`, `Numeral.amountOf_pointed`: The two ways of reading.
* `Numeral.amountOf_eq_ok_iff`: The amount is the number when the number survives, and only then.
* `Numeral.survives_of_digits`: Fifteen significant digits survive.
-/

namespace BankLedger

namespace Csv

/-- A plain numeral: a sign or none, and digits with at most one point among them. -/
structure Numeral where
  /-- The sign, if one is written; `true` is minus. -/
  sign : Option Bool
  /-- What stands before the point. -/
  whole : List Char
  /-- What stands behind the point, if there is one. -/
  fraction : Option (List Char)
  /-- There are only digits. -/
  all_isDigit : (whole ++ fraction.getD []).all Char.isDigit = true
  /-- There is a digit. -/
  digits_ne_nil : whole ++ fraction.getD [] ≠ []

namespace Numeral

/-- The digits on both sides of the point. -/
def digits (z : Numeral) : List Char := z.whole ++ z.fraction.getD []

/-- There is a minus. -/
def negative (z : Numeral) : Bool := z.sign == some true

/-- The numeral without its sign. -/
def body (z : Numeral) : List Char :=
  match z.fraction with
  | none => z.whole
  | some ds => z.whole ++ '.' :: ds

/-- The numeral as it is written. -/
def chars (z : Numeral) : List Char :=
  match z.sign with
  | none => z.body
  | some true => '-' :: z.body
  | some false => '+' :: z.body

/-- The numeral as it is written, as a string. -/
def text (z : Numeral) : String := String.ofList z.chars

/-- The number that the digits make without the point. -/
def coefficient (z : Numeral) : Nat := Nat.ofDigitChars 10 z.digits 0

/-- The number of digits behind the point. -/
def scale (z : Numeral) : Nat := (z.fraction.getD []).length

/-- The number the numeral stands for. -/
def toRat (z : Numeral) : ℚ := Decimal.signed z.negative (z.coefficient / 10 ^ z.scale)

theorem isDigit_of_mem (z : Numeral) : ∀ c ∈ z.whole ++ z.fraction.getD [], c.isDigit = true :=
  List.all_eq_true.mp z.all_isDigit

theorem mem_body {z : Numeral} {c : Char} (h : c ∈ z.body) : c.isDigit = true ∨ c = '.' := by
  have hdigits := z.isDigit_of_mem
  unfold body at h
  split at h
  · next hnone =>
      rw [hnone, Option.getD_none, List.append_nil] at hdigits
      exact Or.inl (hdigits c h)
  · next ds hsome =>
      rw [hsome, Option.getD_some] at hdigits
      rcases List.mem_append.mp h with hwhole | hpoint
      · exact Or.inl (hdigits c (List.mem_append_left _ hwhole))
      · rcases List.mem_cons.mp hpoint with hc | hfraction
        · exact Or.inr hc
        · exact Or.inl (hdigits c (List.mem_append_right _ hfraction))

/-- No letter and no sign is written in the body of a numeral. -/
theorem not_mem_body {z : Numeral} {c : Char} (hdigit : c.isDigit = false) (hpoint : c ≠ '.') :
    c ∉ z.body := by
  intro h
  rcases mem_body h with hc | hc
  · rw [hdigit] at hc
    cases hc
  · exact hpoint hc

theorem body_ne_nil (z : Numeral) : z.body ≠ [] := by
  have hne := z.digits_ne_nil
  unfold body
  split
  · next hnone =>
      rw [hnone, Option.getD_none, List.append_nil] at hne
      exact hne
  · exact List.append_ne_nil_of_right_ne_nil _ (List.cons_ne_nil _ _)

/-- Taking the sign off leaves the body. -/
theorem splitSign_chars (z : Numeral) : Text.splitSign z.chars = (z.negative, z.body) := by
  unfold chars negative
  split
  · next hnone =>
      rw [hnone]
      rcases hbody : z.body with _ | ⟨c, cs⟩
      · exact absurd hbody z.body_ne_nil
      · have hc : c ∈ z.body := hbody ▸ List.mem_cons_self
        rw [Text.splitSign_cons (fun h => not_mem_body (by decide) (by decide) (h ▸ hc))
          (fun h => not_mem_body (by decide) (by decide) (h ▸ hc))]
        rfl
  · next hsome =>
      rw [hsome]
      rfl
  · next hsome =>
      rw [hsome]
      rfl

/-- A letter is not written in a numeral. -/
theorem not_mem_chars {z : Numeral} {c : Char} (hdigit : c.isDigit = false)
    (hother : c ≠ '.' ∧ c ≠ '-' ∧ c ≠ '+') : c ∉ z.chars := by
  have hbody := not_mem_body (z := z) hdigit hother.1
  unfold chars
  split
  · exact hbody
  · exact List.not_mem_cons_of_ne_of_not_mem hother.2.1 hbody
  · exact List.not_mem_cons_of_ne_of_not_mem hother.2.2 hbody

theorem text_ne {z : Numeral} {s : String} {c : Char} (hc : c ∈ s.toList)
    (hdigit : c.isDigit = false) (hother : c ≠ '.' ∧ c ≠ '-' ∧ c ≠ '+') : z.text ≠ s := by
  intro h
  unfold text at h
  rw [← h, String.toList_ofList] at hc
  exact not_mem_chars hdigit hother hc

theorem text_ne_empty (z : Numeral) : z.text ≠ "" := by
  intro h
  have hnil : z.chars = [] := by
    unfold text at h
    rw [← String.toList_ofList (l := z.chars), h]
    rfl
  have hbody := congrArg Prod.snd z.splitSign_chars
  rw [hnil] at hbody
  exact z.body_ne_nil hbody.symm

-- The reader takes the sign off by itself, so the cases are those of the first character.
/-- A whole number is read from its digits, and gets its sign afterwards. -/
theorem readInteger?_eq (cs : List Char) :
    Binary64.readInteger? cs = (Binary64.readDigits? (Text.splitSign cs).2).map
      fun n : Nat => if (Text.splitSign cs).1 then -(n : Int) else n := by
  rcases cs with _ | ⟨c, cs⟩
  · rfl
  · by_cases hminus : c = '-'
    · subst hminus
      change _ = (Binary64.readDigits? cs).map fun n : Nat => -(n : Int)
      rw [Binary64.readInteger?]
      cases Binary64.readDigits? cs <;> rfl
    · by_cases hplus : c = '+'
      · subst hplus
        change _ = (Binary64.readDigits? cs).map fun n : Nat => (n : Int)
        rw [Binary64.readInteger?]
        cases Binary64.readDigits? cs <;> rfl
      · rw [Text.splitSign_cons hminus hplus]
        unfold Binary64.readInteger?
        split
        · next hc => exact absurd (List.cons.inj hc).1 hminus
        · next hc => exact absurd (List.cons.inj hc).1 hplus
        · cases Binary64.readDigits? (c :: cs) <;> rfl

/-- A datum is read from what stands behind its sign. -/
theorem readDatum?_eq (cs : List Char) :
    Binary64.readDatum? cs =
      (Binary64.readName? (Text.splitSign cs).1 (Text.splitSign cs).2).or
        (Binary64.readNumeral? (Text.splitSign cs).1 (Text.splitSign cs).2) := by
  rcases cs with _ | ⟨c, cs⟩
  · rfl
  · by_cases hminus : c = '-'
    · subst hminus
      rfl
    · by_cases hplus : c = '+'
      · subst hplus
        rfl
      · rw [Text.splitSign_cons hminus hplus]
        unfold Binary64.readDatum?
        split
        · next hc => exact absurd (List.cons.inj hc).1 hminus
        · next hc => exact absurd (List.cons.inj hc).1 hplus
        · rfl

theorem readDigits?_of_digits {ds : List Char} (hds : ∀ c ∈ ds, c.isDigit = true) (hne : ds ≠ []) :
    Binary64.readDigits? ds = some (Nat.ofDigitChars 10 ds 0) := by
  have hall : ds.all Char.isDigit = true := List.all_eq_true.mpr hds
  unfold Binary64.readDigits?
  rw [List.isEmpty_eq_false_iff.mpr hne, hall]
  rfl

/-- Without a point a numeral is a whole number. -/
theorem readInteger?_whole {z : Numeral} (hz : z.fraction = none) :
    Binary64.readInteger? z.chars
      = some (if z.negative then -(z.coefficient : Int) else z.coefficient) := by
  have hbody : z.body = z.digits := by
    unfold body digits
    rw [hz, Option.getD_none, List.append_nil]
  have hread : Binary64.readDigits? z.digits = some z.coefficient :=
    readDigits?_of_digits z.isDigit_of_mem z.digits_ne_nil
  rw [readInteger?_eq, splitSign_chars, hbody, hread, Option.map_some]

/-- With a point it is none. -/
theorem readInteger?_pointed {z : Numeral} {ds : List Char} (hz : z.fraction = some ds) :
    Binary64.readInteger? z.chars = none := by
  have hpoint : z.body.all Char.isDigit = false := by
    rw [List.all_eq_false]
    refine ⟨'.', ?_, by decide⟩
    unfold body
    rw [hz]
    exact List.mem_append_right _ List.mem_cons_self
  rw [readInteger?_eq, splitSign_chars]
  unfold Binary64.readDigits?
  rw [hpoint, Bool.not_false, Bool.or_true]
  rfl

theorem toLower_of_mem {z : Numeral} {c : Char} (h : c ∈ z.body) : c.toLower = c := by
  rcases mem_body h with hc | hc
  · unfold Char.isDigit at hc
    unfold Char.toLower
    simp only [ge_iff_le, Bool.and_eq_true, decide_eq_true_eq, UInt32.le_iff_toNat_le] at hc ⊢
    rw [dif_neg]
    intro hupper
    have hlow := hupper.1
    simp at hlow hc
    omega
  · rw [hc]
    rfl

/-- A numeral is not the name of a datum. -/
theorem readName?_body (z : Numeral) (negative : Bool) :
    Binary64.readName? negative z.body = none := by
  have hlower : z.body.map Char.toLower = z.body := by
    rw [List.map_congr_left fun c hc => toLower_of_mem hc, List.map_id']
  -- Each of the names has an `n` in it.
  have hne : ∀ s : String, 'n' ∈ s.toList → String.ofList z.body ≠ s := by
    intro s hs h
    rw [← h, String.toList_ofList] at hs
    exact not_mem_body (by decide) (by decide) hs
  unfold Binary64.readName?
  rw [hlower]
  simp only [hne "inf" (by decide), hne "infinity" (by decide), hne "nan" (by decide),
    decide_false, Bool.or_false, Bool.false_eq_true, if_false]

/-- The digits of a numeral, and how many of them stand behind the point. -/
theorem readPointed?_body (z : Numeral) :
    Binary64.readPointed? z.body = some (z.coefficient, z.scale) := by
  have hdigits := z.isDigit_of_mem
  have hwhole : ∀ c ∈ z.whole, c.isDigit = true := fun c hc =>
    hdigits c (List.mem_append_left _ hc)
  have hread := readDigits?_of_digits z.isDigit_of_mem z.digits_ne_nil
  unfold body coefficient scale digits Binary64.readPointed?
  split
  · next hnone =>
      rw [hnone, Option.getD_none, List.append_nil] at hread ⊢
      rw [List.takeWhile_eq_self_iff.mpr hwhole]
      simp only [List.drop_length, hread]
      rfl
  · next ds hsome =>
      rw [hsome, Option.getD_some] at hread hdigits ⊢
      have hfraction : ds.all Char.isDigit = true :=
        List.all_eq_true.mpr fun c hc => hdigits c (List.mem_append_right _ hc)
      have htake : (z.whole ++ '.' :: ds).takeWhile Char.isDigit = z.whole := by
        rw [List.takeWhile_append_of_pos hwhole, List.takeWhile_cons_of_neg (by decide),
          List.append_nil]
      rw [htake]
      simp only [List.drop_left, hfraction, if_true, hread]
      rfl

/-- The binary fraction nearest to the numeral, or an infinity. -/
def datum (z : Numeral) : Binary64.Datum :=
  match Binary64.ofDecimal? z.negative z.coefficient (0 - z.scale) with
  | some x => .finite x
  | none => .infinite z.negative

/-- A numeral is taken for the binary fraction nearest to it. -/
theorem readDatum?_chars (z : Numeral) : Binary64.readDatum? z.chars = some z.datum := by
  -- A plain numeral has no exponent, so all of its body is what stands before one.
  have hmark : ∀ c ∈ z.body, (!Text.isExponentMark c) = true := by
    intro c hc
    rcases mem_body hc with hdigit | hpoint
    · unfold Text.isExponentMark
      rw [Bool.not_eq_true', Bool.or_eq_false_iff]
      constructor
      · rw [beq_eq_false_iff_ne]
        rintro rfl
        cases hdigit
      · rw [beq_eq_false_iff_ne]
        rintro rfl
        cases hdigit
    · rw [hpoint]
      rfl
  rw [readDatum?_eq, splitSign_chars, readName?_body, Option.none_or]
  unfold Binary64.readNumeral?
  have hnothing : z.body.dropWhile (!Text.isExponentMark ·) = [] := by
    rw [List.dropWhile_eq_nil_iff]
    exact hmark
  simp only [List.takeWhile_eq_self_iff.mpr hmark, hnothing, readPointed?_body]
  rfl

/-- A numeral is not the name of a truth value, so it is taken for a number. -/
theorem amountOf_text (z : Numeral) : amountOf z.text
    = ((Binary64.readInteger? z.chars).bind guessInteger?).getD (amountOfDatum z.datum) := by
  have htrue := text_ne (z := z) (s := "true") (c := 't') (by decide) (by decide) (by decide)
  have hfalse := text_ne (z := z) (s := "false") (c := 'f') (by decide) (by decide) (by decide)
  have hdatum : Binary64.readDatum? z.text.toList = some z.datum := by
    unfold text
    rw [String.toList_ofList]
    exact readDatum?_chars z
  have hinteger : Binary64.readInteger? z.text.toList = Binary64.readInteger? z.chars := by
    unfold text
    rw [String.toList_ofList]
  unfold amountOf
  rw [if_neg htrue, if_neg hfalse]
  simp only [hdatum, hinteger]
  cases (Binary64.readInteger? z.chars).bind guessInteger? <;> rfl

/-- The digits as a whole number with the sign. -/
def units (z : Numeral) : Int := if z.negative then -(z.coefficient : Int) else z.coefficient

theorem toRat_whole {z : Numeral} (hz : z.fraction = none) : z.toRat = z.units := by
  unfold toRat units scale Decimal.signed
  rw [hz, Option.getD_none, List.length_nil, pow_zero, div_one]
  split
  · push_cast
    rfl
  · push_cast
    rfl

/-- The number is among those that the reading of amounts keeps. -/
def Survives (z : Numeral) : Prop :=
  match z.fraction with
  | none => -2 ^ 63 ≤ z.toRat ∧ z.toRat < 2 ^ 64
  | some _ => z.toRat = 0 ∨ Binary64.ReadsBack |z.toRat|

/-- A whole number of 64 bits is taken as it is. -/
theorem guessInteger?_narrow {n : Int} (h : -2 ^ 63 ≤ n ∧ n < 2 ^ 64) :
    ∃ a, guessInteger? n = some (.ok a) ∧ a.toRat = n := by
  have hlimit : n.natAbs < Decimal.limit := by
    unfold Decimal.limit
    omega
  rcases Decimal.exists_ofUnits? hlimit (Nat.zero_le 28) with ⟨a, ha⟩
  rcases Decimal.ofUnits?_eq_some ha with ⟨hunits, hscale⟩
  refine ⟨a, ?_, ?_⟩
  · unfold guessInteger? Decimal.ofInt?
    rw [if_pos ⟨by omega, by unfold UInt64.size; omega⟩, ha]
    rfl
  · rw [Decimal.toRat_eq, hunits, hscale, pow_zero, div_one]

/-- A longer one is refused, as long as it has no more than 128 bits. -/
theorem guessInteger?_wide {n : Int} (hwide : ¬ (-2 ^ 63 ≤ n ∧ n < 2 ^ 64))
    (hn : n.natAbs < Decimal.limit) : ∃ cell, guessInteger? n = some (.error cell) := by
  unfold Decimal.limit at hn
  unfold guessInteger? wideHalf
  rw [if_neg (by unfold UInt64.size; omega)]
  rcases Int.lt_or_le n 0 with hneg | hnonneg
  · rw [if_neg (by omega), if_pos (by omega)]
    exact ⟨_, rfl⟩
  · rw [if_pos (by omega)]
    exact ⟨_, rfl⟩

theorem natAbs_units_lt {z : Numeral} (hz : z.fraction = none)
    (hrep : Decimal.Representable z.toRat) : z.units.natAbs < Decimal.limit := by
  have habove := hrep.lt_limit
  have hbelow := hrep.neg.lt_limit
  rw [toRat_whole hz] at habove hbelow
  have habove' : z.units < Decimal.limit := by exact_mod_cast habove
  have hbelow' : -z.units < Decimal.limit := by exact_mod_cast hbelow
  omega

/-- Without a point. -/
theorem amountOf_whole {z : Numeral} (hz : z.fraction = none)
    (hrep : Decimal.Representable z.toRat) :
    (∃ a, amountOf z.text = .ok a ∧ a.toRat = z.toRat) ↔ z.Survives := by
  have hread : Binary64.readInteger? z.chars = some z.units := readInteger?_whole hz
  have hsurvives : z.Survives ↔ -2 ^ 63 ≤ z.units ∧ z.units < 2 ^ 64 := by
    unfold Survives
    rw [hz, toRat_whole hz]
    simp only
    constructor
    · rintro ⟨hlow, hhigh⟩
      exact ⟨by exact_mod_cast hlow, by exact_mod_cast hhigh⟩
    · rintro ⟨hlow, hhigh⟩
      exact ⟨by exact_mod_cast hlow, by exact_mod_cast hhigh⟩
  rw [hsurvives, amountOf_text, hread, Option.bind_some]
  -- A whole number is settled by its bits: it is exact or refused, and never goes on to a fraction.
  by_cases hnarrow : -2 ^ 63 ≤ z.units ∧ z.units < 2 ^ 64
  · rcases guessInteger?_narrow hnarrow with ⟨a, ha, hnumber⟩
    rw [ha, Option.getD_some]
    exact iff_of_true ⟨a, rfl, by rw [hnumber, toRat_whole hz]⟩ hnarrow
  · rcases guessInteger?_wide hnarrow (natAbs_units_lt hz hrep) with ⟨cell, hcell⟩
    rw [hcell, Option.getD_some]
    refine iff_of_false ?_ hnarrow
    rintro ⟨a, ha, _⟩
    cases ha

theorem abs_toRat (z : Numeral) : |z.toRat| = z.coefficient / 10 ^ z.scale := by
  have hnonneg : (0 : ℚ) ≤ z.coefficient / 10 ^ z.scale := by positivity
  unfold toRat Decimal.signed
  split
  · rw [abs_neg, abs_of_nonneg hnonneg]
  · rw [abs_of_nonneg hnonneg]

theorem representable_abs {q : ℚ} (h : Decimal.Representable q) : Decimal.Representable |q| := by
  rcases abs_cases q with ⟨habs, _⟩ | ⟨habs, _⟩
  · rw [habs]
    exact h
  · rw [habs]
    exact h.neg

theorem toRat_eq_zero_iff (z : Numeral) : z.toRat = 0 ↔ z.coefficient = 0 := by
  rw [← abs_eq_zero, abs_toRat, div_eq_zero_iff, Nat.cast_eq_zero]
  have hpow : (10 : ℚ) ^ z.scale ≠ 0 := by positivity
  simp only [hpow, or_false]

/-- A zero of either sign comes back as zero. -/
theorem amountOfDatum_zero (negative : Bool) :
    ∃ a, amountOfDatum (.finite (Binary64.zero negative)) = .ok a ∧ a.toRat = 0 := by
  refine ⟨Decimal.zero, ?_, Decimal.toRat_zero⟩
  cases negative <;> rfl

/-- With a point. -/
theorem amountOf_pointed {z : Numeral} {ds : List Char} (hz : z.fraction = some ds)
    (hrep : Decimal.Representable z.toRat) :
    (∃ a, amountOf z.text = .ok a ∧ a.toRat = z.toRat) ↔ z.Survives := by
  have hsurvives : z.Survives ↔ z.toRat = 0 ∨ Binary64.ReadsBack |z.toRat| := by
    unfold Survives
    rw [hz]
  rw [hsurvives, amountOf_text, readInteger?_pointed hz, Option.bind_none, Option.getD_none]
  unfold datum
  by_cases hzero : z.coefficient = 0
  · have hread : Binary64.ofDecimal? z.negative z.coefficient (0 - z.scale)
        = some (Binary64.zero z.negative) := by
      unfold Binary64.ofDecimal?
      rw [hzero]
      rfl
    rw [hread, (toRat_eq_zero_iff z).mpr hzero]
    exact iff_of_true (amountOfDatum_zero z.negative) (Or.inl rfl)
  · -- The fraction has all its bits, so what it is written as tells whether the number reads back.
    have hne : z.toRat ≠ 0 := fun h => hzero ((toRat_eq_zero_iff z).mp h)
    have habs := representable_abs hrep
    have hrange := Binary64.inRange_of_representable habs (abs_pos.mpr hne)
    rw [abs_toRat] at hrange habs
    rcases Binary64.ofDecimal?_eq_some z.negative hzero hrange with
      ⟨x, hx, hsign, hread, hcovers⟩
    have hback := Binary64.readsBack_iff_ofPlain? hx hcovers habs
    rw [hsign] at hback
    rw [hread, abs_toRat, hback]
    simp only [hne, false_or]
    unfold amountOfDatum toRat
    simp only
    constructor
    · rintro ⟨a, ha, hnumber⟩
      split at ha
      · next b hplain =>
          cases ha
          exact ⟨a, hplain, hnumber⟩
      · cases ha
    · rintro ⟨a, ha, hnumber⟩
      rw [ha]
      exact ⟨a, rfl, hnumber⟩

/-- The amount is the number when the number survives, and only then. -/
theorem amountOf_eq_ok_iff (z : Numeral) (hrep : Decimal.Representable z.toRat) :
    (∃ a, amountOf z.text = .ok a ∧ a.toRat = z.toRat) ↔ z.Survives := by
  rcases hz : z.fraction with _ | ds
  · exact amountOf_whole hz hrep
  · exact amountOf_pointed hz hrep

/-- Fifteen significant digits survive, zeros behind them not counted. -/
theorem survives_of_digits {z : Numeral} {ds : List Char} (hz : z.fraction = some ds)
    (hrep : Decimal.Representable z.toRat) {m k : Nat} (hm : m < 10 ^ 15)
    (hcoef : z.coefficient = m * 10 ^ k) : z.Survives := by
  unfold Survives
  rw [hz]
  simp only
  by_cases hzero : z.coefficient = 0
  · exact Or.inl ((toRat_eq_zero_iff z).mpr hzero)
  · right
    have hne : z.toRat ≠ 0 := fun h => hzero ((toRat_eq_zero_iff z).mp h)
    have hrange := Binary64.inRange_of_representable (representable_abs hrep) (abs_pos.mpr hne)
    rw [abs_toRat] at hrange ⊢
    rcases Binary64.ofDecimal?_eq_some z.negative hzero hrange with ⟨x, hx, _, _, hcovers⟩
    have hsplit : (z.coefficient : ℚ) / 10 ^ z.scale = m * 10 ^ ((k : Int) - z.scale) := by
      rw [hcoef, zpow_sub₀ (by norm_num), zpow_natCast, zpow_natCast]
      push_cast
      ring
    rw [hsplit] at hcovers ⊢
    exact Binary64.readsBack_of_digits hx hm hcovers

end Numeral

end Csv

end BankLedger
