import BankLedger.Decimal.Basic

/-!
# Sums of decimals

The sum of two decimals may need more digits than a decimal has. The exact sum is first written at
the larger of the two scales. If its coefficient is too long, fraction digits are given up, as few
as possible, and what remains is rounded to the nearest, a half to the even neighbour. Only when
the sum does not fit with no fraction digit at all is there no answer.

An operand that is zero takes no part: the answer is the other one, with its own scale and, if it is
zero as well, its own sign.

## Main definitions

* `Decimal.roundEven`: A quotient rounded to the nearest, a half to the even neighbour.
* `Decimal.fit?`: The longest decimal that some units round to.
* `Decimal.add?`, `Decimal.sub?`: Sum and difference, if they are in range.
* `Decimal.Exact`: A result is the sum with nothing rounded away.
-/

namespace BankLedger

namespace Decimal

/-- The quotient `n / d` rounded to the nearest whole number, a half to the even one. -/
def roundEven (n : Int) (d : Nat) : Int :=
  let q := n / d
  let r := 2 * (n % d)
  if r < d then q else if (d : Int) < r then q + 1 else if q % 2 = 0 then q else q + 1

/-- The units `n` with their last `dropped` digits rounded away, as a decimal of the given scale, if
    it is in range. -/
def atScale? (n : Int) (dropped scale : Nat) : Option Decimal :=
  ofUnits? (roundEven n (Nat.pow 10 dropped)) scale

/-- The decimal for `n` at scale `dropped + scale` that gives up as few fraction digits as
    possible. Each attempt rounds the exact units, so nothing is rounded twice. -/
def fit? (n : Int) (dropped : Nat) : (scale : Nat) → Option Decimal
  | 0 => atScale? n dropped 0
  | s + 1 => (atScale? n dropped (s + 1)).or (fit? n (dropped + 1) s)

/-- The larger of two scales. -/
def commonScale (a b : Decimal) : Nat := Nat.max a.scale b.scale

/-- The units of the exact sum at the common scale. -/
def sumUnits (a b : Decimal) : Int :=
  a.unitsAt (commonScale a b - a.scale) + b.unitsAt (commonScale a b - b.scale)

/-- The sum, rounded only as far as it must be; `none` when it is out of range. -/
def add? (a b : Decimal) : Option Decimal :=
  if a.isZero then some b
  else if b.isZero then some a
  else fit? (sumUnits a b) 0 (commonScale a b)

/-- The difference, rounded only as far as it must be; `none` when it is out of range. -/
def sub? (a b : Decimal) : Option Decimal := add? a b.neg

/-- The answer `r` is the sum of `a` and `b` with nothing rounded away. -/
def Exact (a b r : Decimal) : Prop := r.toRat = a.toRat + b.toRat

end Decimal

end BankLedger
