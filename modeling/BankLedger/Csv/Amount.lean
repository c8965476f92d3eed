import BankLedger.Csv.Fault
import BankLedger.Decimal.Text

/-!
# Amounts in cells

What a cell holds is guessed from its text, and the guess decides how the amount is read. A whole
number of 64 bits is taken as it is, and a longer one of up to 128 bits is refused. Any other
numeral is taken for a binary fraction, so an amount with a point goes through the nearest binary
fraction and comes out as the shortest decimal of it; digits beyond the sixteenth or so are lost on
the way, and so are zeros at the end. A text that is no numeral may still be a decimal in one of the
spellings that numerals do not have, such as one with underscores.

## Main definitions

* `Csv.guessInteger?`: What becomes of a whole number.
* `Csv.amountOf`: The amount of a cell.
-/

namespace BankLedger

namespace Csv

/-- Half of what 128 bits can count, `2 ^ 127`. -/
def wideHalf : Int := 0x8000_0000_0000_0000_0000_0000_0000_0000

/-- A whole number as it is guessed: up to 64 bits it is an amount, up to 128 bits it is none. A
    number above zero has one bit more than one below. -/
def guessInteger? (n : Int) : Option (Except Cell Decimal) :=
  if -0x8000_0000_0000_0000 ≤ n ∧ n < UInt64.size then (Decimal.ofInt? n).map .ok
  else if 0 ≤ n ∧ n < 2 * wideHalf then some (.error (.natural n.toNat))
  else if -wideHalf ≤ n ∧ n < 0 then some (.error (.integer n))
  else none

/-- The amount of a binary fraction: its shortest decimal. -/
def amountOfDatum (x : Binary64.Datum) : Except Cell Decimal :=
  match x with
  | .finite y => match Decimal.ofPlain? y.toPlainChars with
    | some a => .ok a
    | none => .error (.real x)
  | _ => .error (.real x)

/-- The amount of a cell, or what the cell was taken for. -/
def amountOf (s : String) : Except Cell Decimal :=
  let cs := s.toList
  if s = "true" then .error (.bool true)
  else if s = "false" then .error (.bool false)
  else match (Binary64.readInteger? cs).bind guessInteger? with
  | some r => r
  | none => match Binary64.readDatum? cs with
    | some x => amountOfDatum x
    | none => match Decimal.ofText? s with
      | some a => .ok a
      | none => .error (.text s)

end Csv

end BankLedger
