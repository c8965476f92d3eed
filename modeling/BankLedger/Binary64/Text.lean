import BankLedger.Binary64.Basic
import BankLedger.Text.Digits

/-!
# Numerals read as binary fractions

A numeral is digits with at most one point among them, perhaps an exponent, and perhaps a sign. It
stands for the nearest binary fraction, and for infinity when it is too large for any. Besides the
finite numbers the format has two infinities and a mark for what is not a number, and these have
names.

## Main definitions

* `Binary64.Datum`: A finite number, an infinity, or no number.
* `Binary64.readDatum?`: The datum of a numeral or a name.
-/

namespace BankLedger

namespace Binary64

/-- What the format can hold. -/
inductive Datum where
  | finite (x : Binary64)
  | infinite (negative : Bool)
  | undefined
deriving DecidableEq

/-- The number of some digits, at least one. -/
def readDigits? (cs : List Char) : Option Nat :=
  if cs.isEmpty || !cs.all Char.isDigit then none else some (Nat.ofDigitChars 10 cs 0)

/-- A whole number, with one sign or without. -/
def readInteger? : List Char → Option Int
  | '-' :: ds => (readDigits? ds).map fun n => -(n : Int)
  | '+' :: ds => (readDigits? ds).map fun n => (n : Int)
  | ds => (readDigits? ds).map fun n => (n : Int)

/-- The names of data that are not finite, in either case. -/
def readName? (negative : Bool) (cs : List Char) : Option Datum :=
  let name := String.ofList (cs.map Char.toLower)
  if name = "inf" || name = "infinity" then some (.infinite negative)
  else if name = "nan" then some .undefined
  else none

/-- Digits with at most one point among them, at least one digit: the number they make without the
    point, and how many of them stand behind it. -/
def readPointed? (cs : List Char) : Option (Nat × Nat) :=
  let whole := cs.takeWhile Char.isDigit
  match cs.drop whole.length with
  | [] => (readDigits? whole).map (·, 0)
  | '.' :: fraction =>
      if fraction.all Char.isDigit then (readDigits? (whole ++ fraction)).map (·, fraction.length)
      else none
  | _ => none

/-- A numeral without its sign: digits, and perhaps an exponent. -/
def readNumeral? (negative : Bool) (cs : List Char) : Option Datum := do
  let (n, behind) ← readPointed? (cs.takeWhile (!Text.isExponentMark ·))
  let exponent ← match cs.dropWhile (!Text.isExponentMark ·) with
    | [] => some 0
    | _ :: ds => readInteger? ds
  return match ofDecimal? negative n (exponent - behind) with
    | some x => .finite x
    | none => .infinite negative

/-- The datum of a numeral or a name, with one sign or without. -/
def readDatum? : List Char → Option Datum
  | '-' :: cs => (readName? true cs).or (readNumeral? true cs)
  | '+' :: cs => (readName? false cs).or (readNumeral? false cs)
  | cs => (readName? false cs).or (readNumeral? false cs)

end Binary64

end BankLedger
