import BankLedger.Account.Basic
import BankLedger.Hold
import BankLedger.Json.Value

/-!
# Events

An event announces to the outside that something in the ledger has changed. It says what happened,
to which account, and carries the values that others need to follow.

## Main definitions

* `EventKind`: What happened.
* `Event`: An announcement.
* `Notice`: What an event says.
* `Notice.accountCreated`, `Notice.balanceUpdated`, `Notice.statusChanged`, `Notice.holdCreated`,
  `Notice.holdReleased`: What is said about each change.
-/

namespace BankLedger

/-- What happened. -/
inductive EventKind where
  | accountCreated
  | balanceUpdated
  | accountFrozen
  | accountUnfrozen
  | accountClosed
  | holdCreated
  | holdReleased
deriving DecidableEq

namespace EventKind

/-- The name of a kind of event. -/
def name : EventKind → String
  | .accountCreated => "account.created"
  | .balanceUpdated => "balance.updated"
  | .accountFrozen => "account.frozen"
  | .accountUnfrozen => "account.unfrozen"
  | .accountClosed => "account.closed"
  | .holdCreated => "hold.created"
  | .holdReleased => "hold.released"

/-- The kinds of event by name. -/
def byName : List (String × EventKind) :=
  [.accountCreated, .balanceUpdated, .accountFrozen, .accountUnfrozen, .accountClosed,
    .holdCreated, .holdReleased].map fun k => (k.name, k)

/-- The kind of event that an action on an account is announced with. -/
def ofAction : Action → EventKind
  | .freeze => .accountFrozen
  | .unfreeze => .accountUnfrozen
  | .close => .accountClosed

end EventKind

/-- An announcement. -/
structure Event where
  id : Uuid
  kind : EventKind
  account : AccountId
  payload : Json
  timestamp : Instant

/-- What an event says, before it is given an identifier and a time. -/
structure Notice where
  kind : EventKind
  account : AccountId
  payload : Json

namespace Notice

/-- The event of a notice. -/
def toEvent (n : Notice) (id : Uuid) (now : Instant) : Event :=
  ⟨id, n.kind, n.account, n.payload, now⟩

/-- An account was opened. -/
def accountCreated (a : Account) : Notice :=
  ⟨.accountCreated, a.id, .record [
    ("account_number", .text a.number.text),
    ("account_type", .text a.kind.name),
    ("currency", .text a.currency),
    ("customer_id", .text a.customer.toText)]⟩

/-- Money moved; `a` is the account as it was read back afterwards. -/
def balanceUpdated (a : Account) : Notice :=
  ⟨.balanceUpdated, a.id, .record [
    ("available_balance", .text a.available.toText),
    ("balance", .text a.balance.toText)]⟩

/-- The status changed, in the way that `kind` says. -/
def statusChanged (kind : EventKind) (a : Account) : Notice :=
  ⟨kind, a.id, .record [
    ("closed_at", Json.ofOption (.text ·.toText) a.closedAt),
    ("status", .text a.status.name)]⟩

/-- Money was set aside. -/
def holdCreated (h : Hold) : Notice :=
  ⟨.holdCreated, h.account, .record [
    ("amount", .text h.amount.value.toText),
    ("hold_id", .text h.id.toText),
    ("reason", .text h.reason),
    ("transaction_ref", Json.ofOption .text h.reference)]⟩

/-- Money that was set aside was given back. -/
def holdReleased (h : Hold) : Notice :=
  ⟨.holdReleased, h.account, .record [
    ("amount", .text h.amount.value.toText),
    ("hold_id", .text h.id.toText),
    ("released_at", Json.ofOption (.text ·.toText) h.releasedAt)]⟩

end Notice

end BankLedger
