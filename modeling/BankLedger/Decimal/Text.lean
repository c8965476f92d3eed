import BankLedger.Decimal.Basic
import BankLedger.Text.Digits

/-!
# Decimals as text

A decimal is written with all the digits of its scale, so the text also tells the scale: `1.50` is
not `1.5`.

Reading takes more spellings than writing makes. The plain form has an optional sign, digits with
at most one point, and underscores after the first digit. Digits that the coefficient has no room
for are rounded away, but only behind the point: a whole part that is too long is refused. The
scientific form is a plain form, `e` or `E`, and a whole exponent; here the fraction digits that
there is no room for are rounded away as well. A zero that is written out is positive; one that is
left over from rounding keeps its sign.

## Main definitions

* `Decimal.toText`: The digits of a decimal, with its scale.
* `Decimal.ofPlain?`: Reads the plain form.
* `Decimal.ofScientific?`: Reads the scientific form.
* `Decimal.ofText?`: Reads either.
-/

namespace BankLedger

namespace Decimal

/-- The digits of a coefficient, at least one more than stand behind the point. -/
def paddedDigits (n scale : Nat) : List Char :=
  let ds := Nat.toDigits 10 n
  List.replicate (scale + 1 - ds.length) '0' ++ ds

/-- The digits before the point, then the point and the fraction if there is one. -/
def magnitudeChars (n scale : Nat) : List Char :=
  let ds := paddedDigits n scale
  let whole := ds.take (ds.length - scale)
  if scale = 0 then whole else whole ++ '.' :: ds.drop (ds.length - scale)

/-- A decimal in full: sign, whole part, and as many fraction digits as the scale says. -/
def toChars (a : Decimal) : List Char :=
  if a.negative then '-' :: magnitudeChars a.coefficient a.scale
  else magnitudeChars a.coefficient a.scale

/-- A decimal in full, as a string. -/
def toText (a : Decimal) : String := String.ofList a.toChars

/-- What a plain form without its sign amounts to. -/
structure Magnitude where
  coefficient : Nat
  /-- How many of its digits stand behind the point. -/
  scale : Nat
deriving DecidableEq

/-- A digit or an underscore: all that may follow once the coefficient is full. -/
def isTail (c : Char) : Bool := c.isDigit || c == '_'

/-- Ends a numeral whose coefficient is full with its next character. Only that character rounds,
    up from five on; an underscore rounds nothing. A coefficient that rounds past the bound gives
    up one more fraction digit. -/
def roundOff (m scale : Nat) (next : Char) (rest : List Char) : Option Magnitude :=
  if isTail next && rest.all isTail then
    if next.isDigit && 5 ≤ Text.digitValue next then
      if m + 1 < limit then some ⟨m + 1, scale⟩
      else if scale = 0 then none
      else some ⟨(m + 1 + 4) / 10, scale - 1⟩
    else some ⟨m, scale⟩
  else none

/-- The bound from which on a coefficient is long: short ones have room for one more digit in 64
    bits, with a margin. -/
def longBound : Nat := UInt64.size / 10 - 255

/-- Ends a numeral that has all its fraction digits. Underscores are passed over to the digit that
    rounds, but only when the coefficient was long before its last digit; otherwise the first
    underscore stands for that digit. -/
def endFraction (m scale : Nat) (cs : List Char) : Option Magnitude :=
  match if longBound ≤ m / 10 then cs.dropWhile (· == '_') else cs with
  | [] => some ⟨m, scale⟩
  | c :: rest => roundOff m scale c rest

/-- Reads the digits of a plain form. `point` says whether the point has been read, `seen` whether
    a digit has, and `m` and `scale` are what has been read so far. -/
def readMagnitude (point seen : Bool) (m scale : Nat) : List Char → Option Magnitude
  | [] => if seen then some ⟨m, scale⟩ else none
  | c :: cs =>
      if point && scale = maxScale then endFraction m scale (c :: cs)
      else if c.isDigit then
        let n := m * 10 + Text.digitValue c
        if n < limit then readMagnitude point true n (if point then scale + 1 else scale) cs
        else if point then roundOff m scale c cs
        else none
      else if c = '.' && !point then readMagnitude true seen m scale cs
      else if c = '_' && seen then readMagnitude point seen m scale cs
      else none

/-- Reads a plain form. -/
def ofPlain? (cs : List Char) : Option Decimal := do
  let (negative, body) := Text.splitSign cs
  let mag ← readMagnitude false false 0 0 body
  ofParts? (negative && mag.coefficient != 0) mag.coefficient mag.scale

/-- Reads a whole number without sign that fits 32 bits; one leading plus is allowed. -/
def readExponent? (cs : List Char) : Option Nat :=
  let ds := if cs.head? = some '+' then cs.tail else cs
  if ds.isEmpty || !ds.all Char.isDigit then none
  else
    let n := Nat.ofDigitChars 10 ds 0
    if n < UInt32.size then some n else none

/-- The quotient `n / d` rounded to the nearest whole number, a half up; `d` is even. -/
def roundHalfUp (n d : Nat) : Nat := (n + d / 2) / d

/-- Divides by a power of ten by moving the point to the left. Fraction digits past the largest
    scale are rounded away. -/
def shiftLeft? (a : Decimal) (exponent : Nat) : Option Decimal :=
  if maxScale < exponent then none
  else if a.scale + exponent ≤ maxScale then
    ofParts? a.negative a.coefficient (a.scale + exponent)
  else
    let dropped := a.scale + exponent - maxScale
    ofParts? a.negative (roundHalfUp a.coefficient (Nat.pow 10 dropped)) maxScale

/-- Multiplies by a power of ten: the point moves to the right as far as there are fraction digits,
    and past them the number becomes a whole one. -/
def shiftRight? (a : Decimal) (exponent : Nat) : Option Decimal :=
  if exponent ≤ a.scale then ofParts? a.negative a.coefficient (a.scale - exponent)
  else if exponent ≤ maxScale then ofInt? (a.units * Nat.pow 10 (exponent - a.scale))
  else none

/-- Reads a scientific form: a plain form, the first `e` or `E`, and the exponent. -/
def ofScientific? (cs : List Char) : Option Decimal := do
  let base ← ofPlain? (cs.takeWhile (!Text.isExponentMark ·))
  match cs.dropWhile (!Text.isExponentMark ·) with
  | [] => none
  | _ :: '-' :: ds => base.shiftLeft? (← readExponent? ds)
  | _ :: ds => base.shiftRight? (← readExponent? ds)

/-- Reads a plain form, or else a scientific one. -/
def ofChars? (cs : List Char) : Option Decimal := (ofPlain? cs).or (ofScientific? cs)

/-- Reads a decimal from a string. -/
def ofText? (s : String) : Option Decimal := ofChars? s.toList

end Decimal

end BankLedger
