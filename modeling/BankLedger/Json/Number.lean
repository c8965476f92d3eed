import BankLedger.Binary64.Shortest

/-!
# JSON numbers

A numeral is a whole number when it has neither a point nor an exponent and fits 64 bits, with a
sign or without. Every other numeral is a binary fraction, also the negative zero, which no whole
number is.

A fraction is read fast rather than to the last bit. The digits are gathered in a whole number of 64
bits for as long as they fit; of the digits that do not fit only their number counts, and only
before the point. This whole number is rounded to a binary fraction, and then multiplied or divided
by a power of ten, which rounds again.

## Main definitions

* `Json.Number`: A whole number or a fraction.
* `Json.Numeral`: A numeral as it is written.
* `Json.Numeral.number?`: What a numeral amounts to, unless it is too large.
-/

namespace BankLedger

namespace Json

/-- A number. Whole numbers and fractions are kept apart, as the text keeps them apart. -/
inductive Number where
  | whole (n : Int)
  /-- A number with a fraction or an exponent, or one too long for a whole number. -/
  | fraction (x : Binary64)
deriving DecidableEq

/-- A whole number in digits. -/
def integerChars (n : Int) : List Char :=
  (if n < 0 then ['-'] else []) ++ Nat.toDigits 10 n.natAbs

/-- The text of a number. -/
def Number.toChars : Number → List Char
  | .whole n => integerChars n
  | .fraction x => x.toNumeral

/-- A numeral as it is written: sign, digits before the point, digits behind it, and exponent. -/
structure Numeral where
  negative : Bool
  whole : List Char
  /-- The digits behind the point, if there is one. -/
  fraction : Option (List Char)
  /-- The sign of the exponent and its digits, if there is one; `true` is minus. -/
  exponent : Option (Bool × List Char)
deriving DecidableEq

namespace Numeral

/-- The bound of the gathered digits. -/
def digitLimit : Nat := UInt64.size

/-- Gathers digits for as long as they fit below the bound: the number they make, and the digits
    left over. -/
def gather (n : Nat) : List Char → Nat × List Char
  | [] => (n, [])
  | c :: cs =>
      let m := n * 10 + (c.toNat - '0'.toNat)
      if m < digitLimit then gather m cs else (n, c :: cs)

/-- The gathered digits of a numeral, and the power of ten they are counted in. Digits before the
    point that were left over raise the power, and those behind it that were gathered lower it. -/
def significand (a : Numeral) : Nat × Int :=
  let fraction := a.fraction.getD []
  let (n, wholeLeft) := gather 0 a.whole
  let (m, fractionLeft) := gather n fraction
  (m, (wholeLeft.length : Int) - (fraction.length - fractionLeft.length : Nat))

/-- The bound of the digits of an exponent. -/
def exponentLimit : Nat := 0x8000_0000

/-- The largest power of ten that is a binary fraction. -/
def largestPower : Nat := 308

/-- A binary fraction divided by a power of ten. -/
def divPower (x : Binary64) (k : Nat) : Option Binary64 :=
  (Binary64.ofNat? (Nat.pow 10 k)).bind x.div?

/-- A binary fraction divided by the largest power of ten a number of times, or until nothing is
    left of it. -/
def shrink (x : Binary64) : (times : Nat) → Option Binary64
  | 0 => some x
  | t + 1 => if x.isZero then some x else (divPower x largestPower).bind (shrink · t)

/-- A binary fraction divided by a power of ten, the largest power at a time. -/
def scaleDown (x : Binary64) (k : Nat) : Option Binary64 :=
  let times := (k - 1) / largestPower
  (shrink x times).bind (divPower · (k - times * largestPower))

/-- A binary fraction multiplied by a power of ten, unless that is too large. -/
def scaleUp (x : Binary64) (k : Nat) : Option Binary64 :=
  if k ≤ largestPower then (Binary64.ofNat? (Nat.pow 10 k)).bind x.mul?
  else if x.isZero then some x
  else none

/-- The binary fraction `n * 10 ^ k`, rounded along the way. -/
def scaled (n : Nat) (k : Int) : Option Binary64 :=
  (Binary64.ofNat? n).bind fun x => if 0 ≤ k then scaleUp x k.toNat else scaleDown x k.natAbs

/-- The magnitude of a numeral as a binary fraction. An exponent past its bound decides alone:
    zero stays zero, a positive one makes any other number too large, a negative one makes it
    vanish. -/
def magnitude? (a : Numeral) : Option Binary64 :=
  let (n, k) := a.significand
  match a.exponent with
  | none => scaled n k
  | some (minus, ds) =>
      let e := Nat.ofDigitChars 10 ds 0
      if e < exponentLimit then scaled n (if minus then k - e else k + e)
      else if n = 0 || minus then some (Binary64.zero false)
      else none

/-- The whole number that a numeral is, if it is one: from `-2 ^ 63` up to below `2 ^ 64`, and not
    the negative zero. -/
def whole? (a : Numeral) : Option Int :=
  if a.fraction.isSome || a.exponent.isSome then none
  else
    let n := Nat.ofDigitChars 10 a.whole 0
    if a.negative then if 0 < n && n ≤ 0x8000_0000_0000_0000 then some (-(n : Int)) else none
    else if n < UInt64.size then some n else none

/-- What a numeral amounts to; `none` when it is too large for a binary fraction. -/
def number? (a : Numeral) : Option Number :=
  match a.whole? with
  | some n => some (.whole n)
  | none => a.magnitude?.map fun x => .fraction (if a.negative then x.neg else x)

end Numeral

end Json

end BankLedger
