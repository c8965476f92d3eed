/-!
# Digits

Numbers as digits, in bases up to sixteen. Digits are written in lower case and read in either.

A number of fixed width loses the digits that it has no room for; callers write only numbers that
fit.

## Main definitions

* `Text.isHexDigit`: A digit of base sixteen.
* `Text.ofDigits`: The number of some digits.
* `Text.fixedDigits`: The digits of a number, as many as are asked for.
* `Text.splitSign`: Takes the sign off a numeral.
* `Text.isExponentMark`: The mark between the digits of a numeral and its exponent.
-/

namespace BankLedger

namespace Text

/-- A hexadecimal digit of either case. -/
def isHexDigit (c : Char) : Bool :=
  c.isDigit || ('a' ≤ c && c ≤ 'f') || ('A' ≤ c && c ≤ 'F')

/-- The value of a digit, in any base up to sixteen. -/
def digitValue (c : Char) : Nat :=
  if c.isDigit then c.toNat - '0'.toNat else c.toLower.toNat - 'a'.toNat + 10

/-- The number that some digits write in a base, the first one highest. -/
def ofDigits (base : Nat) (ds : List Char) : Nat := ds.foldl (fun n c => n * base + digitValue c) 0

/-- A number in a base with exactly `width` digits, the higher ones cut off. -/
def fixedDigits (base width n : Nat) : List Char :=
  match width with
  | 0 => []
  | w + 1 => fixedDigits base w (n / base) ++ [Nat.digitChar (n % base)]

/-- Splits off one leading sign; `true` is minus. -/
def splitSign : List Char → Bool × List Char
  | '-' :: cs => (true, cs)
  | '+' :: cs => (false, cs)
  | cs => (false, cs)

/-- The mark between the digits of a numeral and its exponent. -/
def isExponentMark (c : Char) : Bool := c == 'e' || c == 'E'

end Text

end BankLedger
