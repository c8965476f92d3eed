import BankLedger.Service.Program
import BankLedger.Settings.Basic

/-!
# The service

What the ledger does for its users: opening accounts, looking them up, moving money, setting it
aside, freezing and closing. Each of these is a program against the store. Whatever can be checked
without the store is checked first, and an event is announced after the one call that changes
something.

A credit or a debit looks at the status, then moves the money, then reads the account again for the
answer. If that last look fails the money has moved all the same, so the answer is that there are no
balances to show, not an error.

## Main definitions

* `Ledger.openAccount`: Opens an account with a number that is free.
* `Ledger.update`, `Ledger.changeStatus`: Change status and interest rate.
* `Ledger.credit`, `Ledger.debit`: Move money.
* `Ledger.createHold`, `Ledger.releaseHold`: Set money aside and give it back.
-/

namespace BankLedger

/-- A request to open an account. -/
structure OpenRequest where
  customer : CustomerId
  kind : AccountKind
  /-- The currency, unless it is the one of the settings. -/
  currency : Option String
  /-- The interest rate, unless it is the one of the settings. -/
  rate : Option Decimal

/-- A request to set money aside. -/
structure HoldRequest where
  account : AccountId
  amount : Decimal
  reason : String
  /-- The name of the hold outside the ledger, if it has one. -/
  reference : Option String
  /-- When it should end, if it should. -/
  expiresAt : Option Instant

namespace Ledger

/-- Tries one account number after the other until one is free, at most `left` of them; `attempts`
    is how many there were to begin with. -/
def openWith (request : OpenRequest) (currency : String) (rate : Decimal) (attempts : Nat) :
    (left : Nat) → Program Account
  | 0 => .fail (.alreadyExists (.everyAttempt attempts))
  | left + 1 => do
      let number ← Program.number
      let id ← Program.freshId .account
      let now ← Program.time
      let a := Account.start id request.customer request.kind currency number rate now
      .call (.createAccount a) fun
        | .ok _ => .announce (.accountCreated a) (pure a)
        | .error (.alreadyExists _) => openWith request currency rate attempts left
        | .error e => .fail e

/-- The currency of a new account. -/
def currencyFor (settings : Settings) : Option String → Except LedgerError String
  | some code => Currency.parse code
  | none => .ok settings.currency

/-- The interest rate of a new account. -/
def rateFor (settings : Settings) (kind : AccountKind) : Option Decimal → Except LedgerError Decimal
  | some rate => checkRate rate
  | none => .ok (settings.interest.ofKind kind)

/-- Opens an account, active and empty. -/
def openAccount (settings : Settings) (request : OpenRequest) : Program Account := do
  let currency ← .ofExcept (currencyFor settings request.currency)
  let rate ← .ofExcept (rateFor settings request.kind request.rate)
  openWith request currency rate settings.numberAttempts settings.numberAttempts

/-- Finds an account. -/
def account (id : AccountId) : Program Account := .ask (.getAccount id)

/-- Finds an account by the text of its number. -/
def accountByNumber (s : String) : Program Account := do
  let n ← .ofExcept (AccountNumber.parse s)
  .ask (.getByNumber n)

/-- The accounts of a customer, the newest first. -/
def accountsOf (customer : CustomerId) : Program (List Account) := .ask (.accountsOf customer)

/-- Both balances of an account. -/
def balances (id : AccountId) : Program Balances := do
  return (← account id).balances

/-- The account belongs to the customer. -/
def owns (id : AccountId) (customer : CustomerId) : Program Bool := do
  return (← account id).customer == customer

/-- Freezes, unfreezes or closes an account. -/
def changeStatus (action : Action) (id : AccountId) : Program Account := do
  let now ← Program.time
  let a ← Program.ask (.changeStatus id action now)
  Program.emit (.statusChanged (.ofAction action) a)
  return a

/-- Sets status and interest rate. To set the status to closed is to close the account, and then the
    rate cannot be set at the same time. -/
def update (id : AccountId) (status : Option Status) (rate : Option Decimal) :
    Program Account := do
  if let some r := rate then
    let _ ← Program.ofExcept (checkRate r)
  if status = some .closed then
    if rate.isSome then .fail (.invalidArgument .closingWithRate)
    else changeStatus .close id
  else .ask (.amend id status rate)

/-- Moves `delta` into an active account. There are no balances in the answer when the account could
    not be read again. -/
def move (id : AccountId) (delta : Decimal) : Program (Option Balances) := do
  let a ← account id
  Program.ofExcept a.ensureActive
  let _ ← Program.ask (.applyDelta id delta)
  .call (.getAccount id) fun
    | .ok b => .announce (.balanceUpdated b) (pure (some b.balances))
    | .error _ => pure none

/-- Puts money in. -/
def credit (id : AccountId) (amount : Decimal) : Program (Option Balances) := do
  let amount ← .ofExcept (Amount.ofDecimal amount)
  move id amount.value

/-- Takes money out. -/
def debit (id : AccountId) (amount : Decimal) : Program (Option Balances) := do
  let amount ← .ofExcept (Amount.ofDecimal amount)
  move id (-amount.value)

/-- A reason for a hold must not be blank. -/
def checkReason (reason : String) : Except LedgerError Unit :=
  if reason.toList.all Text.isBlank then .error (.invalidArgument .blankReason) else .ok ()

/-- A hold must not end before it begins. -/
def checkExpiry (now : Instant) : Option Instant → Except LedgerError Unit
  | some t => if now.before t then .ok () else .error (.invalidArgument .expiry)
  | none => .ok ()

/-- Sets money of an active account aside. -/
def createHold (request : HoldRequest) : Program Hold := do
  let amount ← .ofExcept (Amount.ofDecimal request.amount)
  Program.ofExcept (checkReason request.reason)
  let now ← Program.time
  Program.ofExcept (checkExpiry now request.expiresAt)
  let a ← account request.account
  Program.ofExcept a.ensureActive
  let id ← Program.freshId .hold
  let h := Hold.start id request.account amount request.reason request.reference
    request.expiresAt now
  let _ ← Program.ask (.createHold h)
  Program.emit (.holdCreated h)
  return h

/-- Gives money back that was set aside. -/
def releaseHold (id : HoldId) : Program Hold := do
  let now ← Program.time
  let h ← Program.ask (.releaseHold id now)
  Program.emit (.holdReleased h)
  return h

/-- Finds a hold. -/
def hold (id : HoldId) : Program Hold := .ask (.getHold id)

/-- The holds of an account that are not released, the newest first. The account must exist. -/
def activeHolds (id : AccountId) : Program (List Hold) := do
  let _ ← account id
  .ask (.activeHolds id)

end Ledger

end BankLedger
