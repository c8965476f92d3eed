import BankLedger.Event
import BankLedger.Json.Decoder

/-!
# The stored form of rows

Accounts, holds and events are stored and exchanged as JSON. Decimals, instants and identifiers are
strings there, and so keep every digit. Fields are written in the order of the type, and what is
absent is written as null.

Reading is more lenient: decimals may be numbers too, fields may come in any order, and fields of
other names are ignored. Reading does not check again what requests have to obey: a row with a
negative amount can be read, because the type of amounts allows it.

## Main definitions

* `Account.toJson`, `Hold.toJson`, `Event.toJson`, `Balances.toJson`: The stored forms.
* `Decode.account`, `Decode.hold`, `Decode.event`, `Decode.balances`: The decoders.
-/

namespace BankLedger

/-- The stored form of a decimal. -/
def Decimal.toJson (a : Decimal) : Json := .text a.toText

/-- The stored form of an instant. -/
def Instant.toJson (a : Instant) : Json := .text a.toText

/-- The stored form of an identifier. -/
def Id.toJson {subject : Subject} (a : Id subject) : Json := .text a.toText

/-- The stored form of both balances. -/
def Balances.toJson (b : Balances) : Json := .record [
  ("balance", b.balance.toJson),
  ("available_balance", b.available.toJson)]

/-- The stored form of an account. -/
def Account.toJson (a : Account) : Json := .record [
  ("id", a.id.toJson),
  ("account_number", .text a.number.text),
  ("customer_id", a.customer.toJson),
  ("account_type", .text a.kind.name),
  ("currency", .text a.currency),
  ("balance", a.balance.toJson),
  ("available_balance", a.available.toJson),
  ("status", .text a.status.name),
  ("interest_rate", a.rate.toJson),
  ("opened_at", a.openedAt.toJson),
  ("closed_at", Json.ofOption Instant.toJson a.closedAt),
  ("created_at", a.createdAt.toJson),
  ("updated_at", a.updatedAt.toJson)]

/-- The stored form of a hold. -/
def Hold.toJson (h : Hold) : Json := .record [
  ("id", h.id.toJson),
  ("account_id", h.account.toJson),
  ("amount", h.amount.value.toJson),
  ("reason", .text h.reason),
  ("transaction_ref", Json.ofOption .text h.reference),
  ("expires_at", Json.ofOption Instant.toJson h.expiresAt),
  ("released_at", Json.ofOption Instant.toJson h.releasedAt),
  ("created_at", h.createdAt.toJson)]

/-- The stored form of an event. -/
def Event.toJson (e : Event) : Json := .record [
  ("event_id", .text e.id.toText),
  ("event_type", .text e.kind.name),
  ("account_id", e.account.toJson),
  ("payload", e.payload),
  ("timestamp", e.timestamp.toJson)]

namespace Decode

open Json (Decoder RecordDecoder Fault Tree)

/-- The decimal of a string or a number. A fraction counts as its shortest decimal. -/
def decimalOf? : Tree → Option Decimal
  | .text (some s) => Decimal.ofText? s
  | .number (some (.whole n)) => Decimal.ofInt? n
  | .number (some (.fraction x)) => Decimal.ofPlain? x.toPlainChars
  | _ => none

/-- Decodes a decimal. A value of another kind is refused without a look inside, but it counts as a
    level of nesting. -/
def decimal : Decoder Decimal
  | 0, .list _ _ => .error .malformed
  | 0, .record _ _ => .error .malformed
  | _, t => match decimalOf? t with
    | some a => .ok a
    | none => .error (Decoder.refuse t)

/-- Decodes an identifier. -/
def uuid : Decoder Uuid := Decoder.text.convert fun s => (Uuid.parse s).toOption

/-- Decodes an identifier of a row. -/
def id (subject : Subject) : Decoder (Id subject) := uuid.convert fun u => some ⟨u⟩

/-- Decodes an instant. -/
def instant : Decoder Instant := Decoder.text.convert Instant.ofText?

/-- Decodes an account number. -/
def accountNumber : Decoder AccountNumber := Decoder.text.convert AccountNumber.ofText?

/-- Decodes a status. -/
def status : Decoder Status := Decoder.name Status.byName

/-- Decodes a kind of account. -/
def accountKind : Decoder AccountKind := Decoder.name AccountKind.byName

/-- Decodes a kind of event. -/
def eventKind : Decoder EventKind := Decoder.name EventKind.byName

/-- Decodes an amount. -/
def amount : Decoder Amount := decimal.convert fun a => some ⟨a⟩

/-- Decodes both balances. -/
def balances : Decoder Balances :=
  RecordDecoder.toDecoder <| RecordDecoder.done Balances.mk
    |>.field "balance" decimal
    |>.field "available_balance" decimal

/-- Decodes an account. -/
def account : Decoder Account :=
  RecordDecoder.toDecoder <| RecordDecoder.done Account.mk
    |>.field "id" (id .account)
    |>.field "account_number" accountNumber
    |>.field "customer_id" (id .customer)
    |>.field "account_type" accountKind
    |>.field "currency" Decoder.text
    |>.field "balance" decimal
    |>.field "available_balance" decimal
    |>.field "status" status
    |>.field "interest_rate" decimal
    |>.field "opened_at" instant
    |>.optionalField "closed_at" instant
    |>.field "created_at" instant
    |>.field "updated_at" instant

/-- Decodes a hold. -/
def hold : Decoder Hold :=
  RecordDecoder.toDecoder <| RecordDecoder.done Hold.mk
    |>.field "id" (id .hold)
    |>.field "account_id" (id .account)
    |>.field "amount" amount
    |>.field "reason" Decoder.text
    |>.optionalField "transaction_ref" Decoder.text
    |>.optionalField "expires_at" instant
    |>.optionalField "released_at" instant
    |>.field "created_at" instant

/-- Decodes an event. -/
def event : Decoder Event :=
  RecordDecoder.toDecoder <| RecordDecoder.done Event.mk
    |>.field "event_id" uuid
    |>.field "event_type" eventKind
    |>.field "account_id" (id .account)
    |>.field "payload" Decoder.json
    |>.field "timestamp" instant

end Decode

end BankLedger
