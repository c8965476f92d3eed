import BankLedger.Event
import BankLedger.Proofs.Decimal.RoundTrip
import BankLedger.Proofs.Uuid

/-!
# Reading Events

Whoever follows the events has nothing but their texts. A balance, an amount or the identifier of a
hold is read from its member of the payload, and it is what was written there.

## Main definitions

* `Json.text?`: The text of a member of a record.
* `Event.text?`: A text that an event carries.
* `Event.balance?`, `Event.amount?`, `Event.hold?`: What the texts stand for.

## Theorems

* `balance?_balanceUpdated`, `amount?_holdCreated`, `hold?_holdCreated`, `hold?_holdReleased`: What
  was written is read.
-/

namespace BankLedger

/-- The text of a member of a record. -/
def Json.text? (name : String) : Json → Option String
  | .record members => match members.lookup name with
    | some (.text s) => some s
    | _ => none
  | _ => none

namespace Event

/-- A text that an event carries. -/
def text? (e : Event) (name : String) : Option String := e.payload.text? name

/-- The balance that an event carries. -/
def balance? (e : Event) : Option Decimal := (e.text? "balance").bind Decimal.ofText?

/-- The amount that an event carries. -/
def amount? (e : Event) : Option Decimal := (e.text? "amount").bind Decimal.ofText?

/-- The hold that an event names. -/
def hold? (e : Event) : Option HoldId :=
  (e.text? "hold_id").bind fun s => (Id.parse .hold s).toOption

variable (made : Uuid) (now : Instant)

theorem balance?_balanceUpdated {a : Account} (h : a.balance.IsPlain) :
    ((Notice.balanceUpdated a).toEvent made now).balance? = some a.balance := by
  have htext : ((Notice.balanceUpdated a).toEvent made now).text? "balance"
      = some a.balance.toText := rfl
  rw [balance?, htext, Option.bind_some, Decimal.ofText?_toText h]

theorem amount?_holdCreated {h : Hold} (hplain : h.amount.value.IsPlain) :
    ((Notice.holdCreated h).toEvent made now).amount? = some h.amount.value := by
  have htext : ((Notice.holdCreated h).toEvent made now).text? "amount"
      = some h.amount.value.toText := rfl
  rw [amount?, htext, Option.bind_some, Decimal.ofText?_toText hplain]

theorem hold?_eq_some {e : Event} {id : HoldId} (h : e.text? "hold_id" = some id.toText) :
    e.hold? = some id := by
  rw [hold?, h, Option.bind_some, Id.parse_toText]
  rfl

theorem hold?_holdCreated (h : Hold) :
    ((Notice.holdCreated h).toEvent made now).hold? = some h.id := hold?_eq_some rfl

theorem hold?_holdReleased (h : Hold) :
    ((Notice.holdReleased h).toEvent made now).hold? = some h.id := hold?_eq_some rfl

end Event

end BankLedger
