import BankLedger.Account.Basic
import BankLedger.Hold
import BankLedger.Store.Table

/-!
# The store

The store keeps the accounts and the holds. It is used through calls, and each call is carried out
as one step: nothing else happens to the store in between. A call that is refused gives no new
store, so it cannot leave anything half done.

Account numbers have a table of their own, so that an account is found by its number and no number
is given twice.

## Main definitions

* `Store`: The accounts, their numbers, and the holds.
* `Call`: What can be asked of the store.
* `Call.Reply`: The type of the answer to a call.
* `Store.perform`: Carries a call out.
* `Store.after`: The store after a call, whatever the answer.
-/

namespace BankLedger

/-- The accounts, their numbers, and the holds. -/
structure Store where
  accounts : Table Account.id
  /-- Which account has which number. -/
  index : Table (Prod.fst : AccountNumber × AccountId → AccountNumber)
  /-- The holds, released ones included. -/
  holds : Table Hold.id

/-- What can be asked of the store. -/
inductive Call where
  | createAccount (a : Account)
  | getAccount (id : AccountId)
  | getByNumber (n : AccountNumber)
  | accountsOf (customer : CustomerId)
  /-- Sets status and interest rate of an account. -/
  | amend (id : AccountId) (status : Option Status) (rate : Option Decimal)
  /-- Freezes, unfreezes or closes an account. -/
  | changeStatus (id : AccountId) (action : Action) (time : Instant)
  /-- Moves money in or out. -/
  | applyDelta (id : AccountId) (delta : Decimal)
  /-- Adds a hold and sets its amount aside. -/
  | createHold (h : Hold)
  | releaseHold (id : HoldId) (time : Instant)
  | getHold (id : HoldId)
  /-- Lists the holds of an account that are not released. -/
  | activeHolds (id : AccountId)
deriving DecidableEq

/-- The type of the answer to a call. -/
def Call.Reply : Call → Type
  | .createAccount _ => Unit
  | .getAccount _ => Account
  | .getByNumber _ => Account
  | .accountsOf _ => List Account
  | .amend _ _ _ => Account
  | .changeStatus _ _ _ => Account
  | .applyDelta _ _ => Unit
  | .createHold _ => Unit
  | .releaseHold _ _ => Hold
  | .getHold _ => Hold
  | .activeHolds _ => List Hold

/-- The newest first; of those made at the same time, the one with the smaller identifier. -/
def newestFirst {ρ : Type} {subject : Subject} (createdAt : ρ → Instant) (id : ρ → Id subject)
    (rows : List ρ) : List ρ :=
  rows.mergeSort fun a b =>
    ((createdAt b).compare (createdAt a)).then ((id a).compare (id b)) != .gt

namespace Store

/-- The store with nothing in it. -/
def empty : Store := ⟨.empty, .empty, .empty⟩

instance : Inhabited Store := ⟨empty⟩

/-- Finds an account. -/
def account (s : Store) (id : AccountId) : Except LedgerError Account :=
  match s.accounts.get? id with
  | some a => .ok a
  | none => .error (.accountNotFound (.id id))

/-- Finds a hold. -/
def hold (s : Store) (id : HoldId) : Except LedgerError Hold :=
  match s.holds.get? id with
  | some h => .ok h
  | none => .error (.holdNotFound id)

/-- Finds an account by its number. -/
def byNumber (s : Store) (n : AccountNumber) : Except LedgerError Account :=
  match s.index.get? n with
  | some (_, id) => s.account id
  | none => .error (.accountNotFound (.number n))

/-- The accounts of a customer. -/
def accountsOf (s : Store) (customer : CustomerId) : List Account :=
  newestFirst Account.createdAt Account.id
    (s.accounts.rows.filter fun a => a.customer = customer)

/-- The holds of an account that are not released. -/
def activeHolds (s : Store) (id : AccountId) : List Hold :=
  newestFirst Hold.createdAt Hold.id
    (s.holds.rows.filter fun h => h.account = id && h.isActive)

/-- The store with another state of an account. -/
def setAccount (s : Store) (a : Account) : Store := { s with accounts := s.accounts.replace a }

/-- Adds an account. Its number and its identifier must be free, and the number is looked at
    first. -/
def createAccount (s : Store) (a : Account) : Except LedgerError Store :=
  match s.index.insert? (a.number, a.id), s.accounts.insert? a with
  | none, _ => .error (.alreadyExists (.number a.number))
  | some _, none => .error (.alreadyExists (.account a.id))
  | some index, some accounts => .ok { s with accounts := accounts, index := index }

/-- Changes one account by an operation that may refuse. -/
def changeAccount (s : Store) (id : AccountId) (f : Account → Except LedgerError Account) :
    Except LedgerError (Account × Store) := do
  let a ← f (← s.account id)
  return (a, s.setAccount a)

/-- Adds a hold and sets its amount aside on its account. -/
def createHold (s : Store) (h : Hold) (now : Instant) : Except LedgerError Store := do
  let a ← s.account h.account
  match s.holds.insert? h with
  | none => throw (.alreadyExists (.hold h.id))
  | some holds =>
      let a ← a.reserve h.amount now
      return { s.setAccount a with holds := holds }

/-- Marks a hold as released and gives its amount back to its account. -/
def releaseHold (s : Store) (id : HoldId) (now : Instant) : Except LedgerError (Hold × Store) := do
  let h ← s.hold id
  let a ← s.account h.account
  match h.markReleased now with
  | none => throw (.alreadyReleased id)
  | some released =>
      let a ← a.restore h.amount now
      return (released, { s.setAccount a with holds := s.holds.replace released })

/-- Carries a call out at a time: the answer and the store afterwards, or a refusal. -/
def perform (s : Store) (now : Instant) : (c : Call) → Except LedgerError (c.Reply × Store)
  | .createAccount a => (s.createAccount a).map ((), ·)
  | .getAccount id => (s.account id).map (·, s)
  | .getByNumber n => (s.byNumber n).map (·, s)
  | .accountsOf customer => .ok (s.accountsOf customer, s)
  | .amend id status rate => s.changeAccount id (·.amend status rate now)
  | .changeStatus id action time => s.changeAccount id (·.apply action time)
  | .applyDelta id delta => (s.changeAccount id (·.applyDelta delta now)).map fun r => ((), r.2)
  | .createHold h => (s.createHold h now).map ((), ·)
  | .releaseHold id time => s.releaseHold id time
  | .getHold id => (s.hold id).map (·, s)
  | .activeHolds id => .ok (s.activeHolds id, s)

/-- The store after a call. A refused call changes nothing. -/
def after (s : Store) (now : Instant) (c : Call) : Store :=
  match s.perform now c with
  | .ok (_, t) => t
  | .error _ => s

end Store

end BankLedger
