import BankLedger.Settings.Basic
import BankLedger.Text.Utf8
import BankLedger.Toml.Document

/-!
# Settings from a file

Settings are read from a file that names the ones that differ from the defaults. Names that are no
settings are ignored, whatever their values are. A value of the wrong kind or out of range spoils
the file. The interest rates are a table, or a list of rates in their order; a date in their place
has nothing to say about them and changes nothing.

## Main definitions

* `Settings.ofText`: Reads settings and checks them.
* `Settings.ofBytes`: The same for a file.
-/

namespace BankLedger

namespace Settings

open Toml (Value)

/-- Reads one entry of a table; without it the value is `d`. -/
def entryOr {α : Type} (entries : List (String × Value)) (name : String) (d : α)
    (f : Value → Option α) : Option α :=
  match entries.lookup name with
  | some v => f v
  | none => some d

/-- A string. -/
def stringOf? : Value → Option String
  | .text s => some s
  | _ => none

/-- A whole number. -/
def integerOf? : Value → Option Int
  | .integer n => some n
  | _ => none

/-- A natural number below a bound. -/
def naturalOf? (bound : Nat) : Value → Option Nat
  | .integer n => if 0 ≤ n ∧ n < bound then some n.toNat else none
  | _ => none

/-- An interest rate: a string, or a number. A fraction counts as its shortest decimal. -/
def rateOf? : Value → Option Decimal
  | .text s => Decimal.ofText? s
  | .integer n => Decimal.ofInt? n
  | .fraction (.finite x) => Decimal.ofPlain? x.toPlainChars
  | _ => none

/-- A rate at a place of a list; without it the rate is `d`. -/
def rateAtOr (items : List Value) (i : Nat) (d : Decimal) : Option Decimal :=
  match items[i]? with
  | some v => rateOf? v
  | none => some d

/-- The interest rates. -/
def interestOf? (d : InterestRates) : Value → Option InterestRates
  | .table entries => do
      let checking ← entryOr entries "checking" d.checking rateOf?
      let savings ← entryOr entries "savings" d.savings rateOf?
      return ⟨checking, savings⟩
  | .list items => do
      let checking ← rateAtOr items 0 d.checking
      let savings ← rateAtOr items 1 d.savings
      return ⟨checking, savings⟩
  | .moment => some d
  | _ => none

/-- The settings of a table. -/
def ofTable? (entries : List (String × Value)) : Option Settings := do
  let d := Settings.default
  let currency ← entryOr entries "default_currency" d.currency stringOf?
  let interest ← entryOr entries "interest" d.interest (interestOf? d.interest)
  let timeout ← entryOr entries "storage_timeout_ms" d.storageTimeout (naturalOf? UInt64.size)
  let attempts ← entryOr entries "account_number_attempts" d.numberAttempts (naturalOf? UInt32.size)
  let capacity ← entryOr entries "event_queue_capacity" d.queueCapacity (naturalOf? UInt64.size)
  let lock ← entryOr entries "lock_timeout_ms" d.lockTimeout integerOf?
  return ⟨currency, interest, timeout, attempts, capacity, lock⟩

/-- The settings of a whole file. -/
def ofValue? : Value → Option Settings
  | .table entries => ofTable? entries
  | _ => none

/-- Reads settings and checks them. -/
def ofText (s : String) : Except LedgerError Settings :=
  match (Toml.parse? s).bind ofValue? with
  | none => .error (.config .unreadable)
  | some settings => settings.check.map fun _ => settings

/-- Reads the settings of a file. -/
def ofBytes (bytes : List UInt8) : Except LedgerError Settings :=
  match Text.decodeUtf8 bytes with
  | .ok s => ofText s
  | .error _ => .error (.io .notText)

end Settings

end BankLedger
