import BankLedger.Encoding
import BankLedger.Proofs.Decimal.RoundTrip
import BankLedger.Proofs.Instant
import BankLedger.Proofs.Json.Decoder
import BankLedger.Proofs.Json.Text

/-!
# Rows Read Back

Accounts, holds and events are written as JSON and read back as they were, with the scale of every
decimal, every nanosecond, and what is absent still absent. Whatever text such a row was read from,
it is written as one and the same text.

The text of a row is read as the tree of its stored form, and the tree field by field. So there is
one lemma for each kind of field, and a row is a chain of them.

What is asked of a row is little. A zero has no minus, since the sign would not be read. The
calendar covers the instants. Numbers in the payload of an event are whole, as fractions are read
fast and not to the last bit, and its records have their keys in order. A row that was read from
some text is in the calendar and in order already.

## Main definitions

* `Account.IsStorable`, `Hold.IsStorable`, `Event.IsStorable`: What is asked of a row.
* `Json.rewrite`: Reads a text and writes what was read.
* `Json.RoundTrips`: A value is read from its text, and all its spellings are rewritten to that.

## Theorems

* `Decode.account_toJson`, `Decode.hold_toJson`, `Decode.event_toJson`: The stored form is decoded.
* `Decode.account_isStorable`, `Decode.hold_isStorable`, `Decode.event_isStorable`: What is asked of
  a row that was read.
* `Json.roundTrips_of_decodeValue`: A stored form that is decoded makes a round trip.
* `Decode.rows_roundTrip`: So do all accounts, holds and events.
-/

namespace BankLedger

namespace Decode

open Json (Decoder toTree)

section Fields

variable {depth : Nat}

theorem decimal_toJson {a : Decimal} (h : a.IsPlain) : decimal depth (toTree a.toJson) = .ok a := by
  cases depth <;> simp [decimal, decimalOf?, Decimal.toJson, toTree, Decimal.ofText?_toText h]

theorem amount_toJson {a : Amount} (h : a.value.IsPlain) :
    amount depth (toTree a.value.toJson) = .ok a := by
  unfold amount Decoder.convert
  rw [decimal_toJson h]

theorem uuid_toText (a : Uuid) : uuid depth (toTree (.text a.toText)) = .ok a := by
  simp only [uuid, Decoder.convert, toTree, Decoder.text, Uuid.parse_toText]
  rfl

theorem id_toJson {subject : Subject} (a : Id subject) :
    id subject depth (toTree a.toJson) = .ok a := by
  have hread : uuid depth (toTree a.toJson) = .ok a.uuid := uuid_toText a.uuid
  simp only [id, Decoder.convert, hread]

theorem instant_toText {a : Instant} (h : a.InCalendar) :
    instant depth (toTree a.toJson) = .ok a := by
  simp only [instant, Decoder.convert, Instant.toJson, toTree, Decoder.text,
    Instant.ofText?_toText h]

theorem accountNumber_text (a : AccountNumber) :
    accountNumber depth (toTree (.text a.text)) = .ok a := by
  have hread : AccountNumber.ofText? a.text = some a := dif_pos a.wellFormed
  simp only [accountNumber, Decoder.convert, toTree, Decoder.text, hread]

theorem status_name (s : Status) : status depth (toTree (.text s.name)) = .ok s :=
  Decoder.name_eq (by cases s <;> decide)

theorem accountKind_name (k : AccountKind) :
    accountKind depth (toTree (.text k.name)) = .ok k :=
  Decoder.name_eq (by cases k <;> decide)

theorem eventKind_name (k : EventKind) : eventKind depth (toTree (.text k.name)) = .ok k :=
  Decoder.name_eq (by cases k <;> decide)

/-- A text that may be absent. -/
theorem optional_text (a : Option String) :
    Decoder.text.optional depth (toTree (Json.ofOption .text a)) = .ok a :=
  Decoder.optional_ofOption (fun s => s) fun s _ => Decoder.text_eq s

/-- A time that may be absent. -/
theorem optional_instant {a : Option Instant} (h : ∀ t ∈ a, t.InCalendar) :
    instant.optional depth (toTree (Json.ofOption Instant.toJson a)) = .ok a :=
  Decoder.optional_ofOption Instant.toText fun t ht => instant_toText (h t ht)

end Fields

end Decode

/-- What is asked of an account: no zero has a minus, and the calendar covers the instants. -/
structure Account.IsStorable (a : Account) : Prop where
  balance : a.balance.IsPlain
  available : a.available.IsPlain
  rate : a.rate.IsPlain
  openedAt : a.openedAt.InCalendar
  closedAt : ∀ t ∈ a.closedAt, t.InCalendar
  createdAt : a.createdAt.InCalendar
  updatedAt : a.updatedAt.InCalendar

/-- What is asked of a hold: a zero has no minus, and the calendar covers the instants. -/
structure Hold.IsStorable (h : Hold) : Prop where
  amount : h.amount.value.IsPlain
  expiresAt : ∀ t ∈ h.expiresAt, t.InCalendar
  releasedAt : ∀ t ∈ h.releasedAt, t.InCalendar
  createdAt : h.createdAt.InCalendar

/-- What is asked of an event: the payload has whole numbers only and its keys in order, and nests a
    hundred levels at most, and the calendar covers the time. -/
structure Event.IsStorable (e : Event) : Prop where
  numbers : e.payload.isExact = true
  keys : e.payload.isOrdered = true
  nesting : e.payload.nesting ≤ 100
  timestamp : e.timestamp.InCalendar

namespace Decode

open Json (Decoder RecordDecoder Tree decodeText decodeValue maxDepth)

/-- An account is decoded from its stored form. -/
theorem account_toJson {a : Account} (h : a.IsStorable) :
    decodeValue account a.toJson = .ok a := by
  have hreads := RecordDecoder.reads_done Account.mk (maxDepth - 1)
    |>.field "id" (by simp) (id_toJson a.id)
    |>.field "account_number" (by simp) (accountNumber_text a.number)
    |>.field "customer_id" (by simp) (id_toJson a.customer)
    |>.field "account_type" (by simp) (accountKind_name a.kind)
    |>.field "currency" (by simp) (Decoder.text_eq a.currency)
    |>.field "balance" (by simp) (decimal_toJson h.balance)
    |>.field "available_balance" (by simp) (decimal_toJson h.available)
    |>.field "status" (by simp) (status_name a.status)
    |>.field "interest_rate" (by simp) (decimal_toJson h.rate)
    |>.field "opened_at" (by simp) (instant_toText h.openedAt)
    |>.optionalField "closed_at" (by simp) (optional_instant h.closedAt)
    |>.field "created_at" (by simp) (instant_toText h.createdAt)
    |>.field "updated_at" (by simp) (instant_toText h.updatedAt)
  exact hreads.decodeValue

/-- A hold is decoded from its stored form. -/
theorem hold_toJson {h : Hold} (hh : h.IsStorable) : decodeValue hold h.toJson = .ok h := by
  have hreads := RecordDecoder.reads_done Hold.mk (maxDepth - 1)
    |>.field "id" (by simp) (id_toJson h.id)
    |>.field "account_id" (by simp) (id_toJson h.account)
    |>.field "amount" (by simp) (amount_toJson hh.amount)
    |>.field "reason" (by simp) (Decoder.text_eq h.reason)
    |>.optionalField "transaction_ref" (by simp) (optional_text h.reference)
    |>.optionalField "expires_at" (by simp) (optional_instant hh.expiresAt)
    |>.optionalField "released_at" (by simp) (optional_instant hh.releasedAt)
    |>.field "created_at" (by simp) (instant_toText hh.createdAt)
  exact hreads.decodeValue

/-- An event is decoded from its stored form. -/
theorem event_toJson {e : Event} (h : e.IsStorable) : decodeValue event e.toJson = .ok e := by
  have hnesting : e.payload.nesting ≤ maxDepth - 1 := h.nesting.trans (by decide)
  have hreads := RecordDecoder.reads_done Event.mk (maxDepth - 1)
    |>.field "event_id" (by simp) (uuid_toText e.id)
    |>.field "event_type" (by simp) (eventKind_name e.kind)
    |>.field "account_id" (by simp) (id_toJson e.account)
    |>.field "payload" (by simp) (Decoder.json_toTree h.keys hnesting)
    |>.field "timestamp" (by simp) (instant_toText h.timestamp)
  exact hreads.decodeValue

section Read

open Json.RecordDecoder (fieldValue)

variable {depth : Nat} {t : Option Tree} {s : String}

theorem inCalendar_of_instant {t : Tree} {a : Instant} (h : instant depth t = .ok a) :
    a.InCalendar := by
  rcases Decoder.convert_eq_ok_iff.mp h with ⟨s, -, hs⟩
  exact Instant.inCalendar_of_ofText? hs

theorem inCalendar_of_field {e : Json.Fault} {a : Instant}
    (h : fieldValue instant (.error e) depth t = .ok a) : a.InCalendar := by
  rcases RecordDecoder.exists_of_fieldValue h with ⟨t, ht⟩
  exact inCalendar_of_instant ht

theorem inCalendar_of_optionalField {a : Option Instant}
    (h : fieldValue instant.optional (.ok none) depth t = .ok a) : ∀ b ∈ a, b.InCalendar := by
  intro b hb
  rcases RecordDecoder.exists_of_optionalValue h b hb with ⟨t, ht⟩
  exact inCalendar_of_instant ht

/-- An account that is read can be stored, if no zero has a minus. -/
theorem account_isStorable {a : Account} (h : decodeText account s = .ok a)
    (hbalance : a.balance.IsPlain) (havailable : a.available.IsPlain) (hrate : a.rate.IsPlain) :
    a.IsStorable := by
  rcases Json.exists_of_decodeText h with ⟨_, ht⟩
  rcases RecordDecoder.exists_build ht with ⟨_, _, hbuild⟩
  simp only [RecordDecoder.field, RecordDecoder.optionalField, RecordDecoder.build_andField_iff,
    RecordDecoder.build_done_iff] at hbuild
  -- One field after the other, from the last one; the account is what the first one began.
  rcases hbuild with ⟨updated, _, hupdated, heq, created, _, hcreated, heq, closed, _, hclosed, heq,
    opened, _, hopened, heq, _, _, -, heq, _, _, -, heq, _, _, -, heq, _, _, -, heq, _, _, -, heq,
    _, _, -, heq, _, _, -, heq, _, _, -, heq, _, _, -, heq, heq⟩
  subst_vars
  exact ⟨hbalance, havailable, hrate, inCalendar_of_field hopened,
    inCalendar_of_optionalField hclosed, inCalendar_of_field hcreated,
    inCalendar_of_field hupdated⟩

/-- A hold that is read can be stored, if a zero has no minus. -/
theorem hold_isStorable {h : Hold} (hh : decodeText hold s = .ok h)
    (hamount : h.amount.value.IsPlain) : h.IsStorable := by
  rcases Json.exists_of_decodeText hh with ⟨_, ht⟩
  rcases RecordDecoder.exists_build ht with ⟨_, _, hbuild⟩
  simp only [RecordDecoder.field, RecordDecoder.optionalField, RecordDecoder.build_andField_iff,
    RecordDecoder.build_done_iff] at hbuild
  rcases hbuild with ⟨created, _, hcreated, rfl, released, _, hreleased, rfl, expires, _, hexpires,
    rfl, _, _, -, rfl, _, _, -, rfl, _, _, -, rfl, _, _, -, rfl, _, _, -, rfl, rfl⟩
  exact ⟨hamount, inCalendar_of_optionalField hexpires, inCalendar_of_optionalField hreleased,
    inCalendar_of_field hcreated⟩

/-- An event that is read can be stored, if its payload has no fraction in it and does not nest too
    deep. -/
theorem event_isStorable {e : Event} (h : decodeText event s = .ok e)
    (hexact : e.payload.isExact = true) (hnesting : e.payload.nesting ≤ 100) : e.IsStorable := by
  rcases Json.exists_of_decodeText h with ⟨_, ht⟩
  rcases RecordDecoder.exists_build ht with ⟨_, _, hbuild⟩
  simp only [RecordDecoder.field, RecordDecoder.build_andField_iff,
    RecordDecoder.build_done_iff] at hbuild
  rcases hbuild with ⟨time, _, htime, rfl, payload, _, hpayload, rfl, _, _, -, rfl, _, _, -, rfl,
    _, _, -, rfl, rfl⟩
  rcases RecordDecoder.exists_of_fieldValue hpayload with ⟨v, hv⟩
  exact ⟨hexact, Decoder.isOrdered_of_jsonAt v hv, hnesting, inCalendar_of_field htime⟩

end Read

end Decode

namespace Json

section RoundTrips

variable {α : Type}

theorem isExact_ofOption {f : α → Json} (h : ∀ b, (f b).isExact = true) (a : Option α) :
    (Json.ofOption f a).isExact = true := by
  cases a with
  | none => rfl
  | some b => exact h b

/-- Reads a text and writes what was read. -/
def rewrite (toJson : α → Json) (d : Decoder α) (s : String) : Except Fault String :=
  (decodeText d s).map fun a => (toJson a).toText

/-- A value is read back from its text, and from whatever text it is read, that one is written. -/
structure RoundTrips (toJson : α → Json) (d : Decoder α) (a : α) : Prop where
  readBack : decodeText d (toJson a).toText = .ok a
  canonical : ∀ s, decodeText d s = .ok a → rewrite toJson d s = .ok (toJson a).toText

/-- A value that is decoded from its stored form makes a round trip, if there is no fraction in
    it. -/
theorem roundTrips_of_decodeValue {toJson : α → Json} {d : Decoder α} {a : α}
    (hexact : (toJson a).isExact = true) (h : decodeValue d (toJson a) = .ok a) :
    RoundTrips toJson d a where
  readBack := (decodeText_toText d hexact).trans h
  canonical s hs := by rw [rewrite, hs, Except.map]

end RoundTrips

end Json

theorem Account.isExact_toJson (a : Account) : a.toJson.isExact = true := by
  have hclosed : (Json.ofOption Instant.toJson a.closedAt).isExact = true :=
    Json.isExact_ofOption (fun _ => rfl) _
  simp only [Account.toJson, Json.isExact, Json.membersExact, hclosed]
  rfl

theorem Hold.isExact_toJson (h : Hold) : h.toJson.isExact = true := by
  have htime (t : Option Instant) : (Json.ofOption Instant.toJson t).isExact = true :=
    Json.isExact_ofOption (fun _ => rfl) _
  have hreference : (Json.ofOption .text h.reference).isExact = true :=
    Json.isExact_ofOption (fun _ => rfl) _
  simp only [Hold.toJson, Json.isExact, Json.membersExact, htime, hreference]
  rfl

theorem Event.isExact_toJson {e : Event} (h : e.payload.isExact = true) :
    e.toJson.isExact = true := by
  simp only [Event.toJson, Json.isExact, Json.membersExact, h]
  rfl

namespace Decode

open Json (RoundTrips)

/-- Every account, hold and event is read back from the text it is written as, with every digit and
    nanosecond and with what is absent; and whatever text it is read from, that is the text it is
    written as again. -/
theorem rows_roundTrip :
    (∀ a : Account, a.IsStorable → RoundTrips Account.toJson account a) ∧
      (∀ h : Hold, h.IsStorable → RoundTrips Hold.toJson hold h) ∧
      ∀ e : Event, e.IsStorable → RoundTrips Event.toJson event e := by
  refine ⟨fun a h => ?_, fun h hh => ?_, fun e h => ?_⟩
  · exact Json.roundTrips_of_decodeValue a.isExact_toJson (account_toJson h)
  · exact Json.roundTrips_of_decodeValue h.isExact_toJson (hold_toJson hh)
  · exact Json.roundTrips_of_decodeValue (Event.isExact_toJson h.numbers) (event_toJson h)

/-- A leap second, at the end of 2016. -/
def leapSecond : Instant := ⟨1483228799, 1999999999⟩

/-- The last nanosecond of the year 9999. -/
def lastNanosecond : Instant := ⟨253402300799, 999999999⟩

/-- An account with the lowest balance there is, and a currency that has to be escaped. -/
def edgeAccount : Account where
  id := ⟨Uuid.ofNat 1⟩
  number := ⟨"40-0712-9000", by decide⟩
  customer := ⟨Uuid.ofNat 2⟩
  kind := .savings
  currency := "\u0000\"\\"
  balance := -Decimal.max
  available := .zero
  status := .closed
  rate := .hundredth
  openedAt := ⟨-62167219200, 1⟩
  closedAt := some leapSecond
  createdAt := lastNanosecond
  updatedAt := .epoch

/-- A hold with nothing but what it needs. -/
def bareHold : Hold where
  id := ⟨Uuid.ofNat 3⟩
  account := ⟨Uuid.ofNat 1⟩
  amount := ⟨.hundredth⟩
  reason := ""
  reference := none
  expiresAt := none
  releasedAt := some leapSecond
  createdAt := lastNanosecond

/-- An event with the smallest and the largest number in its payload. -/
def edgeEvent : Event where
  id := Uuid.ofNat 4
  kind := .balanceUpdated
  account := ⟨Uuid.ofNat 1⟩
  payload := .record [
    ("", .list [.null, .record []]),
    ("limits", .list [.ofInt (-0x8000_0000_0000_0000), .ofInt 0xFFFF_FFFF_FFFF_FFFF])]
  timestamp := leapSecond

theorem edge_roundTrip : (edgeAccount.IsStorable ∧ bareHold.IsStorable ∧ edgeEvent.IsStorable) ∧
    RoundTrips Account.toJson account edgeAccount ∧ RoundTrips Hold.toJson hold bareHold ∧
      RoundTrips Event.toJson event edgeEvent := by
  have hleap : leapSecond.InCalendar := ⟨by decide, by decide⟩
  have hlast : lastNanosecond.InCalendar := ⟨by decide, by decide⟩
  have hstart : (⟨-62167219200, 1⟩ : Instant).InCalendar := ⟨by decide, by decide⟩
  have hepoch : Instant.epoch.InCalendar := ⟨by decide, by decide⟩
  have haccount : edgeAccount.IsStorable :=
    ⟨fun _ => by decide, Decimal.isPlain_zero, nofun, hstart,
      fun _ ht => Option.some.inj ht ▸ hleap, hlast, hepoch⟩
  have hhold : bareHold.IsStorable :=
    ⟨nofun, nofun, fun _ ht => Option.some.inj ht ▸ hleap, hlast⟩
  have hevent : edgeEvent.IsStorable := ⟨by decide, by decide, by decide, hleap⟩
  exact ⟨⟨haccount, hhold, hevent⟩, rows_roundTrip.1 edgeAccount haccount,
    rows_roundTrip.2.1 bareHold hhold, rows_roundTrip.2.2 edgeEvent hevent⟩

end Decode

end BankLedger
