import BankLedger.Account.Arguments
import BankLedger.Instant

/-!
# Holds

A hold sets an amount of an account aside. It is never deleted: a release marks the time at which
the money was given back, once, and the hold stays as a record.

## Main definitions

* `Hold`: A reservation of money.
* `Hold.start`: A new hold.
* `Hold.markReleased`: The hold after its release, if it was not released before.
-/

namespace BankLedger

/-- A reservation of money on one account. -/
structure Hold where
  id : HoldId
  account : AccountId
  amount : Amount
  reason : String
  /-- The name of the hold outside the ledger, if it has one. -/
  reference : Option String
  /-- When it should end, for those who look after it; nothing happens here at that time. -/
  expiresAt : Option Instant
  /-- When the money was given back, if it was. -/
  releasedAt : Option Instant
  createdAt : Instant
deriving DecidableEq

namespace Hold

/-- A new hold. -/
def start (id : HoldId) (account : AccountId) (amount : Amount) (reason : String)
    (reference : Option String) (expiresAt : Option Instant) (now : Instant) : Hold where
  id := id
  account := account
  amount := amount
  reason := reason
  reference := reference
  expiresAt := expiresAt
  releasedAt := none
  createdAt := now

/-- The money has not been given back yet. -/
def isActive (h : Hold) : Bool := h.releasedAt.isNone

/-- The hold after its release; `none` when it was released before. -/
def markReleased (h : Hold) (now : Instant) : Option Hold :=
  if h.isActive then some { h with releasedAt := some now } else none

end Hold

end BankLedger
