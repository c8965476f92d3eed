/-!
# Decimals

Money is counted in decimals of bounded size: a whole number of units of a power of ten.

A decimal is a sign, a coefficient and a scale, and stands for `units / 10 ^ scale`, where the units
are the coefficient with its sign. The coefficient has at most 96 bits and the scale is at most 28,
and both bounds are part of the type, so no operation can build a number that is out of range.

Two decimals may be written differently and still be the same number: `1.5` and `1.50` have
different scales. A zero may have either sign: a number below zero that is rounded away keeps its
sign, every other zero is positive. Order and sameness look at the number, structural equality also
at the scale and at the sign of zero.

## Main definitions

* `Decimal`: A sign and a coefficient of at most 96 bits, with at most 28 digits behind the point.
* `Decimal.units`: The coefficient with its sign.
* `Decimal.toRat`: The number that a decimal stands for.
* `Decimal.ofUnits?`: The decimal of some units, if it is in range.
* `Decimal.compare`: Order by number, whatever the scales.
* `Decimal.normalize`: The same number with no trailing fraction zero.

## Theorems

* `Decimal.strip_le`: Stripping zeros stays in range.
-/

namespace BankLedger

/-- The coefficient a decimal cannot reach, `2 ^ 96`. -/
def Decimal.limit : Nat := 0x1_0000_0000_0000_0000_0000_0000

/-- A decimal number: a coefficient with a sign, counted in steps of `10 ^ (-scale)`. -/
structure Decimal where
  /-- There is a minus. -/
  negative : Bool
  /-- The digits as a whole number. -/
  coefficient : Nat
  /-- How many digits of the coefficient stand behind the point. -/
  scale : Nat
  /-- The coefficient fits 96 bits. -/
  coefficient_lt : coefficient < Decimal.limit
  /-- At most 28 digits stand behind the point. -/
  scale_le : scale ≤ 28
deriving DecidableEq

namespace Decimal

/-- The largest scale. -/
def maxScale : Nat := 28

/-- Zero with no digit behind the point. -/
def zero : Decimal := ⟨false, 0, 0, by decide, by decide⟩

instance : Inhabited Decimal := ⟨zero⟩

/-- One hundredth. -/
def hundredth : Decimal := ⟨false, 1, 2, by decide, by decide⟩

/-- The largest decimal. -/
def max : Decimal := ⟨false, limit - 1, 0, by decide, by decide⟩

/-- The coefficient with its sign. -/
def units (a : Decimal) : Int := if a.negative then -(a.coefficient : Int) else a.coefficient

/-- The number a decimal stands for. -/
def toRat (a : Decimal) : Rat := mkRat a.units (Nat.pow 10 a.scale)

/-- The units that `a` would have if it were written with `a.scale + k` digits behind the point. -/
def unitsAt (a : Decimal) (k : Nat) : Int := a.units * Nat.pow 10 k

/-- Order by number: both sides are brought to a common scale, which loses nothing because the
    products are not bounded. -/
def compare (a b : Decimal) : Ordering :=
  Ord.compare (a.unitsAt b.scale) (b.unitsAt a.scale)

/-- Sameness as numbers; the scales may differ. -/
def same (a b : Decimal) : Bool := a.compare b == .eq

/-- Strictly smaller as a number. -/
def lt (a b : Decimal) : Bool := a.compare b == .lt

/-- The number is zero, whatever the scale and the sign. -/
def isZero (a : Decimal) : Bool := a.coefficient == 0

/-- The number is below zero. -/
def isNegative (a : Decimal) : Bool := decide (a.units < 0)

/-- The number is above zero. -/
def isPositive (a : Decimal) : Bool := decide (0 < a.units)

/-- The opposite number, with the same scale. A zero is left as it is. -/
def neg (a : Decimal) : Decimal :=
  if a.isZero then a else ⟨!a.negative, a.coefficient, a.scale, a.coefficient_lt, a.scale_le⟩

instance : Neg Decimal := ⟨neg⟩

/-- The decimal with the given sign, coefficient and scale, if they are in range. -/
def ofParts? (negative : Bool) (coefficient scale : Nat) : Option Decimal :=
  if h : coefficient < limit ∧ scale ≤ 28 then some ⟨negative, coefficient, scale, h.1, h.2⟩
  else none

/-- The decimal with the given units and scale, if they are in range. Zero is positive. -/
def ofUnits? (n : Int) (scale : Nat) : Option Decimal := ofParts? (decide (n < 0)) n.natAbs scale

/-- The decimal of a whole number, if it is in range. -/
def ofInt? (n : Int) : Option Decimal := ofUnits? n 0

/-- Drops zeros behind the point, one at a time, until the last digit is not zero or the scale is
    used up. -/
def strip (coefficient : Nat) : (scale : Nat) → Nat × Nat
  | 0 => (coefficient, 0)
  | s + 1 => if coefficient % 10 = 0 then strip (coefficient / 10) s else (coefficient, s + 1)

/-- Stripping zeros stays in range. -/
theorem strip_le (coefficient scale : Nat) :
    (strip coefficient scale).1 ≤ coefficient ∧ (strip coefficient scale).2 ≤ scale := by
  induction scale generalizing coefficient with
  | zero => simp [strip]
  | succ s ih =>
      unfold strip
      split
      · have := ih (coefficient / 10)
        omega
      · simp

/-- The same number with the smallest scale; every zero becomes the plain zero. -/
def normalize (a : Decimal) : Decimal :=
  ⟨a.negative && !a.isZero, (strip a.coefficient a.scale).1, (strip a.coefficient a.scale).2,
    Nat.lt_of_le_of_lt (strip_le _ _).1 a.coefficient_lt,
    Nat.le_trans (strip_le _ _).2 a.scale_le⟩

end Decimal

end BankLedger
