/-!
# Binary fractions of 64 bits

The finite numbers of the common binary format with 53 significant bits: a sign, a significand and
a power of two. Arithmetic on them is exact arithmetic on ratios of whole numbers followed by one
rounding to the nearest such number, a half to the even significand, and that is how it is defined
here.

## Main definitions

* `Binary64`: A finite binary fraction.
* `Binary64.ofRatio?`: The nearest one to a ratio, unless the ratio is too large.
* `Binary64.ofDecimal?`: The nearest one to a decimal numeral.
* `Binary64.mul?`, `Binary64.div?`: Product and quotient, rounded once.
-/

namespace BankLedger

/-- The number `significand * 2 ^ exponent`, with a sign that zero has too. -/
structure Binary64 where
  /-- The number is negative, or the negative zero. -/
  negative : Bool
  /-- Up to 53 significant bits. -/
  significand : Nat
  /-- The power of two they are counted in. -/
  exponent : Int
deriving DecidableEq

namespace Binary64

/-- The smallest power of two that a significand is counted in. -/
def minExponent : Int := -1074

/-- The largest one. -/
def maxExponent : Int := 971

/-- The weight of the first bit of a full significand, `2 ^ 52`. -/
def leadingBit : Nat := 0x10_0000_0000_0000

/-- Zero of either sign. -/
def zero (negative : Bool) : Binary64 := ⟨negative, 0, minExponent⟩

instance : Inhabited Binary64 := ⟨zero false⟩

/-- The quotient `n / d` rounded to the nearest whole number, a half to the even one. -/
def roundDiv (n d : Nat) : Nat :=
  let q := n / d
  let r := 2 * (n % d)
  if r < d then q else if d < r then q + 1 else if q % 2 = 0 then q else q + 1

/-- The ratio `n / d` counted in units of `2 ^ exponent`, as a ratio. -/
def inUnits (n d : Nat) (exponent : Int) : Nat × Nat :=
  if exponent < 0 then (n <<< exponent.natAbs, d) else (n, d <<< exponent.natAbs)

/-- The power of two in which the ratio `n / d` has 53 bits before the point. -/
def unitExponent (n d : Nat) : Int :=
  let e : Int := (Nat.log2 n : Int) - (Nat.log2 d : Int) - 52
  let (a, b) := inUnits n d e
  max minExponent (if a / b < leadingBit then e - 1 else e)

/-- The binary fraction nearest to `n / d`; `none` when it would be too large. -/
def ofRatio? (negative : Bool) (n d : Nat) : Option Binary64 :=
  if n = 0 then some (zero negative)
  else
    let e := unitExponent n d
    let (a, b) := inUnits n d e
    let m := roundDiv a b
    let (m, e) := if m = 2 * leadingBit then (leadingBit, e + 1) else (m, e)
    if maxExponent < e then none else some ⟨negative, m, e⟩

/-- The magnitude as a ratio. -/
def ratio (x : Binary64) : Nat × Nat :=
  if x.exponent < 0 then (x.significand, 1 <<< x.exponent.natAbs)
  else (x.significand <<< x.exponent.natAbs, 1)

/-- The number is zero, of either sign. -/
def isZero (x : Binary64) : Bool := x.significand == 0

/-- The opposite number. -/
def neg (x : Binary64) : Binary64 := { x with negative := !x.negative }

/-- The nearest binary fraction to a whole number. -/
def ofNat? (n : Nat) : Option Binary64 := ofRatio? false n 1

/-- The product, rounded once. -/
def mul? (x y : Binary64) : Option Binary64 :=
  ofRatio? (x.negative != y.negative) (x.ratio.1 * y.ratio.1) (x.ratio.2 * y.ratio.2)

/-- The quotient by a number other than zero, rounded once. -/
def div? (x y : Binary64) : Option Binary64 :=
  ofRatio? (x.negative != y.negative) (x.ratio.1 * y.ratio.2) (x.ratio.2 * y.ratio.1)

/-- The nearest binary fraction to `coefficient * 10 ^ exponent`; `none` when it would be too large.
    An exponent that decides alone is not multiplied out. -/
def ofDecimal? (negative : Bool) (coefficient : Nat) (exponent : Int) : Option Binary64 :=
  let size : Int := ((Nat.toDigits 10 coefficient).length : Int) + exponent
  if coefficient = 0 || size < -400 then some (zero negative)
  else if 400 < size then none
  else if exponent < 0 then ofRatio? negative coefficient (Nat.pow 10 exponent.natAbs)
  else ofRatio? negative (coefficient * Nat.pow 10 exponent.natAbs) 1

end Binary64

end BankLedger
