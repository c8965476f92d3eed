import BankLedger.Account.Arguments

/-!
# Settings

What can be set about a ledger, with the values that hold when nothing is said.

## Main definitions

* `Settings`: The settings.
* `Settings.default`: The values that hold when nothing is said.
* `Settings.check`: The first thing that is wrong with settings, if there is one.
-/

namespace BankLedger

/-- The interest rates of new accounts. -/
structure InterestRates where
  checking : Decimal
  savings : Decimal
deriving DecidableEq

namespace InterestRates

/-- No interest for checking, one per cent for savings. -/
def default : InterestRates := ⟨.zero, .hundredth⟩

/-- The rate of a kind of account. -/
def ofKind (r : InterestRates) : AccountKind → Decimal
  | .checking => r.checking
  | .savings => r.savings

end InterestRates

/-- What can be set about a ledger. -/
structure Settings where
  /-- The currency of an account when none is asked for. -/
  currency : String
  interest : InterestRates
  /-- How many milliseconds a call of the store may take. -/
  storageTimeout : Nat
  /-- How many account numbers are tried for a new account. -/
  numberAttempts : Nat
  queueCapacity : Nat
  /-- How many milliseconds a store that locks rows may wait for one. -/
  lockTimeout : Int
deriving DecidableEq

namespace Settings

/-- The values that hold when nothing is said. -/
def default : Settings where
  currency := "NGN"
  interest := .default
  storageTimeout := 5000
  numberAttempts := 5
  queueCapacity := 1024
  lockTimeout := 1000

instance : Inhabited Settings := ⟨default⟩

/-- Accepts settings, or says what is wrong with them first. -/
def check (s : Settings) : Except LedgerError Unit :=
  if !Currency.isCode s.currency then .error (.config (.currency s.currency))
  else if s.interest.checking.isNegative || s.interest.savings.isNegative then
    .error (.config .rates)
  else if s.storageTimeout = 0 then .error (.config .timeout)
  else if s.numberAttempts = 0 then .error (.config .attempts)
  else if s.queueCapacity = 0 then .error (.config .capacity)
  else .ok ()

end Settings

end BankLedger
