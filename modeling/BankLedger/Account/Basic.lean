import BankLedger.Account.Arguments
import BankLedger.Decimal.Sum
import BankLedger.Instant

/-!
# Accounts

An account has two balances. The balance is the money on it, and never falls below zero. The
available balance is what is left of it once all the money set aside by holds is taken off.

Every operation either gives the account as it is afterwards or a reason why it cannot be done. It
does not change anything in between, so a refused operation leaves no trace.

## Main definitions

* `Account`: An account.
* `Account.start`: A new account, active and empty.
* `Account.applyDelta`: Moves money in or out.
* `Account.reserve`, `Account.restore`: Sets money aside and gives it back.
* `Account.transition`, `Account.apply`: Freezing, unfreezing and closing.
* `Account.amend`: Sets status and interest rate.
-/

namespace BankLedger

/-- Both balances of an account at one time. -/
structure Balances where
  balance : Decimal
  /-- What is left of it after the holds. -/
  available : Decimal
deriving DecidableEq

/-- An account. -/
structure Account where
  id : AccountId
  number : AccountNumber
  customer : CustomerId
  kind : AccountKind
  currency : String
  balance : Decimal
  /-- What is left of the money after the holds. -/
  available : Decimal
  status : Status
  rate : Decimal
  openedAt : Instant
  /-- When it was closed, if it is. -/
  closedAt : Option Instant
  createdAt : Instant
  /-- When the row was last changed. -/
  updatedAt : Instant
deriving DecidableEq

namespace Account

/-- A new account, active and empty. -/
def start (id : AccountId) (customer : CustomerId) (kind : AccountKind) (currency : String)
    (number : AccountNumber) (rate : Decimal) (now : Instant) : Account where
  id := id
  number := number
  customer := customer
  kind := kind
  currency := currency
  balance := .zero
  available := .zero
  status := .active
  rate := rate
  openedAt := now
  closedAt := none
  createdAt := now
  updatedAt := now

/-- Both balances. -/
def balances (a : Account) : Balances := ⟨a.balance, a.available⟩

/-- Money moves only while the account is active. -/
def ensureActive (a : Account) : Except LedgerError Unit :=
  if a.status = .active then .ok () else .error (.accountNotActive a.id a.status)

/-- The refusal of a sum that is out of range. -/
def overflow (a : Account) : LedgerError := .invalidArgument (.overflow a.id)

/-- A sum, or the refusal of one that is out of range. -/
def inRange (a : Account) : Option Decimal → Except LedgerError Decimal
  | some sum => .ok sum
  | none => .error a.overflow

/-- Adds `delta` to both balances. The balance must not fall below zero; the available balance is
    not guarded, because only the balance is money that exists. -/
def applyDelta (a : Account) (delta : Decimal) (now : Instant) : Except LedgerError Account := do
  let balance ← a.inRange (a.balance.add? delta)
  if balance.isNegative then throw (.insufficientFunds a.id)
  let available ← a.inRange (a.available.add? delta)
  return { a with balance := balance, available := available, updatedAt := now }

/-- Sets an amount aside. There must be as much available. -/
def reserve (a : Account) (amount : Amount) (now : Instant) : Except LedgerError Account := do
  if a.available.lt amount.value then throw (.insufficientFunds a.id)
  let available ← a.inRange (a.available.sub? amount.value)
  return { a with available := available, updatedAt := now }

/-- Gives an amount back that was set aside. -/
def restore (a : Account) (amount : Amount) (now : Instant) : Except LedgerError Account := do
  let available ← a.inRange (a.available.add? amount.value)
  return { a with available := available, updatedAt := now }

/-- The status that an action leads to. Closing needs a balance of zero, and is final. -/
def transition (a : Account) : Action → Except LedgerError Status
  | .freeze => match a.status with
    | .active => .ok .frozen
    | .frozen => .error (.alreadyFrozen a.id)
    | s => .error (.invalidState (.freezing a.id s))
  | .unfreeze => match a.status with
    | .frozen => .ok .active
    | _ => .error (.notFrozen a.id)
  | .close => match a.status with
    | .closed => .error (.alreadyClosed a.id)
    | .pending => .error (.invalidState (.closingPending a.id))
    | _ => if a.balance.isZero then .ok .closed else .error (.nonZeroBalance a.id a.balance)

/-- Carries an action out. The time of closing is set once. -/
def apply (a : Account) (action : Action) (now : Instant) : Except LedgerError Account := do
  let status ← a.transition action
  return { a with
    status := status
    closedAt := if status = .closed then some (a.closedAt.getD now) else a.closedAt
    updatedAt := now }

/-- Sets the status, the interest rate, or both. A closed account stays as it is, and no account is
    closed in this way, because closing looks at the balance first. -/
def amend (a : Account) (status : Option Status) (rate : Option Decimal) (now : Instant) :
    Except LedgerError Account :=
  if a.status = .closed then .error (.invalidState (.closed a.id))
  else if status = some .closed then .error (.invalidArgument .closing)
  else .ok { a with
    status := status.getD a.status
    rate := rate.getD a.rate
    updatedAt := now }

end Account

end BankLedger
