/-!
# Account numbers

An account number is the number people use for an account: ten digits in three groups, two, four
and four, with hyphens between them. The type holds only texts of that form.

## Main definitions

* `AccountNumber`: A text of ten digits in three groups.
* `AccountNumber.ofText?`: Accepts a text of the form.
* `AccountNumber.ofDigits?`: Builds a number from its ten digits.
-/

namespace BankLedger

/-- How many digits each group has. -/
def AccountNumber.groupLengths : List Nat := [2, 4, 4]

/-- The text has three groups of digits, of the right lengths, with a hyphen between them. -/
def AccountNumber.isWellFormed (s : String) : Bool :=
  let groups := s.toList.splitOn '-'
  groups.map List.length == groupLengths && groups.all (·.all Char.isDigit)

/-- The number people use for an account. -/
structure AccountNumber where
  /-- The digits with their hyphens. -/
  text : String
  /-- The text has the form of an account number. -/
  wellFormed : AccountNumber.isWellFormed text = true
deriving DecidableEq

namespace AccountNumber

/-- The account number with the given text, if the text has the form. -/
def ofText? (s : String) : Option AccountNumber :=
  if h : isWellFormed s = true then some ⟨s, h⟩ else none

/-- A digit as a character. -/
def digitChar (d : Nat) : Char := Char.ofNat ('0'.toNat + d)

/-- Ten digits with the hyphens set. -/
def hyphenate (ds : List Char) : List Char :=
  ds.take 2 ++ '-' :: ((ds.drop 2).take 4 ++ '-' :: ds.drop 6)

/-- The account number with the given digits; there must be ten of them, none above nine. -/
def ofDigits? (digits : List Nat) : Option AccountNumber :=
  if digits.all (· ≤ 9) then ofText? (String.ofList (hyphenate (digits.map digitChar))) else none

/-- How many digits an account number has. -/
def digitCount : Nat := 10

end AccountNumber

end BankLedger
