import BankLedger.LedgerError
import BankLedger.Text.Blank

/-!
# Arguments of requests

Requests come with texts and numbers that stand for something: a status, an account number, an
amount. Here they are checked, and a refusal says which argument was wrong. Names of statuses and of
kinds of account may be written in either case and with blanks around them; everything else is taken
as it stands.

An amount is checked when a request brings it. What is read back from the storage's own format is
not checked again, so the type of amounts does not promise more than a decimal does.

## Main definitions

* `Amount`: A decimal that moves.
* `Amount.ofDecimal`, `Status.parse`, `AccountKind.parse`, `AccountNumber.parse`,
  `AccountNumber.ofDigits`, `Id.parse`, `Currency.parse`: The checks.
-/

namespace BankLedger

/-- What a name amounts to that a user wrote: without the blanks around it, in upper case. -/
def canonicalName (s : String) : String := Text.upperAscii (Text.trim s)

/-- Reads the name of a status. -/
def Status.parse (s : String) : Except LedgerError Status :=
  match Status.byName.lookup (canonicalName s) with
  | some status => .ok status
  | none => .error (.invalidArgument (.status (canonicalName s)))

/-- Reads the name of a kind of account. -/
def AccountKind.parse (s : String) : Except LedgerError AccountKind :=
  match (AccountKind.byName ++ AccountKind.aliases).lookup (canonicalName s) with
  | some kind => .ok kind
  | none => .error (.invalidArgument (.kind (canonicalName s)))

/-- Reads an account number. -/
def AccountNumber.parse (s : String) : Except LedgerError AccountNumber :=
  match AccountNumber.ofText? s with
  | some n => .ok n
  | none => .error (.invalidArgument (.accountNumber s))

/-- The account number of ten digits. -/
def AccountNumber.ofDigits (digits : List Nat) : Except LedgerError AccountNumber :=
  match AccountNumber.ofDigits? digits with
  | some n => .ok n
  | none => .error (.invalidArgument .digits)

/-- Reads an identifier. -/
def Id.parse (subject : Subject) (s : String) : Except LedgerError (Id subject) :=
  match Uuid.parse s with
  | .ok u => .ok ⟨u⟩
  | .error f => .error (.invalidArgument (.id subject f))

namespace Currency

/-- A currency code has three capital letters. -/
def isCode (s : String) : Bool := s.length == 3 && s.toList.all Char.isUpper

/-- Accepts a currency code. -/
def parse (s : String) : Except LedgerError String :=
  if isCode s then .ok s else .error (.invalidArgument (.currency s))

end Currency

/-- A decimal that moves from or to an account, or is set aside on it. -/
structure Amount where
  value : Decimal
deriving DecidableEq

/-- Accepts an amount: it has to be above zero. -/
def Amount.ofDecimal (a : Decimal) : Except LedgerError Amount :=
  if a.isPositive then .ok ⟨a⟩ else .error (.invalidArgument (.amount a))

/-- Accepts an interest rate: it must not be below zero. -/
def checkRate (r : Decimal) : Except LedgerError Decimal :=
  if r.isNegative then .error (.invalidArgument (.rate r)) else .ok r

end BankLedger
