import BankLedger.Account.Number
import BankLedger.Account.Status
import BankLedger.Csv.Fault
import BankLedger.Decimal.Text
import BankLedger.Id

/-!
# Errors of the ledger

Why the ledger refuses a request. Each constructor is a cause; the words for it are in one place, so
that the rest of the library never looks at text to tell one cause from another.

## Main definitions

* `LedgerError`: Why a request fails.
* `LedgerError.message`: The cause in words.
* `LedgerError.isNotFound`: The request names something the ledger does not have.
-/

namespace BankLedger

/-- How a request names an account. -/
inductive AccountName where
  | id (a : AccountId)
  | number (n : AccountNumber)
  | ofBatch (s : String)
deriving DecidableEq

/-- What exists already. -/
inductive Taken where
  | number (n : AccountNumber)
  | account (a : AccountId)
  | hold (h : HoldId)
  | everyAttempt (attempts : Nat)
  | accountAlias (s : String)
  | holdAlias (s : String)
  /-- Something that the storage names in its own words. -/
  | other (s : String)
deriving DecidableEq

/-- What is wrong with an argument. -/
inductive BadArgument where
  /-- The amount is not above zero. -/
  | amount (a : Decimal)
  /-- The text has not the form of an account number. -/
  | accountNumber (s : String)
  /-- A digit of an account number is above nine. -/
  | digits
  | status (s : String)
  | kind (s : String)
  | currency (s : String)
  | id (subject : Subject) (f : Uuid.Fault)
  /-- The balance would leave the range of decimals. -/
  | overflow (a : AccountId)
  /-- An update cannot close an account. -/
  | closing
  /-- An account is not closed and given a new rate at once. -/
  | closingWithRate
  | rate (r : Decimal)
  | blankReason
  | expiry
  | noAmount (op : Operation)
  | noHoldAlias
  | noReason
  | noReleaseAlias
  | holdAlias (s : String)
  /-- A source of account numbers gives its own reason. -/
  | other (s : String)
deriving DecidableEq

/-- Which state stands in the way. -/
inductive BadState where
  /-- An account of this status is not frozen. -/
  | freezing (a : AccountId) (s : Status)
  /-- A pending account is not closed. -/
  | closingPending (a : AccountId)
  /-- A closed account is not updated. -/
  | closed (a : AccountId)
deriving DecidableEq

/-- What is wrong with the settings. -/
inductive BadSettings where
  | unreadable
  | currency (s : String)
  | rates
  /-- There is no time for a call of the storage. -/
  | timeout
  /-- There is no attempt to find a free account number. -/
  | attempts
  | capacity
deriving DecidableEq

/-- What went wrong with a file or a stream. -/
inductive BadStream where
  | missing
  | closed
  | notText
deriving DecidableEq

/-- Why a request fails. -/
inductive LedgerError where
  | accountNotFound (name : AccountName)
  | holdNotFound (h : HoldId)
  | alreadyExists (what : Taken)
  | invalidArgument (why : BadArgument)
  | insufficientFunds (a : AccountId)
  | accountNotActive (a : AccountId) (s : Status)
  | invalidState (why : BadState)
  | alreadyFrozen (a : AccountId)
  | notFrozen (a : AccountId)
  | alreadyClosed (a : AccountId)
  | nonZeroBalance (a : AccountId) (balance : Decimal)
  | alreadyReleased (h : HoldId)
  | timeout
  | config (why : BadSettings)
  | csv (f : Csv.Fault)
  | io (why : BadStream)
  /-- The storage fails for a reason of its own. -/
  | internal (s : String)
deriving DecidableEq

/-- How an account is named in a message. -/
def AccountName.message : AccountName → String
  | .id a => a.toText
  | .number n => n.text
  | .ofBatch s => s

/-- What exists already, in words. -/
def Taken.message : Taken → String
  | .number n => "account number " ++ n.text
  | .account a => "account " ++ a.toText
  | .hold h => "hold " ++ h.toText
  | .everyAttempt n => "no free account number after " ++ toString n ++ " attempts"
  | .accountAlias s => "account alias '" ++ s ++ "'"
  | .holdAlias s => "hold alias '" ++ s ++ "'"
  | .other s => s

/-- What is wrong with an argument, in words. -/
def BadArgument.message : BadArgument → String
  | .amount a => "amount must be greater than zero, got " ++ a.toText
  | .accountNumber s => "malformed account number '" ++ s ++ "'"
  | .digits => "account number digits must be 0-9"
  | .status s => "unknown account status '" ++ s ++ "'"
  | .kind s => "unknown account type '" ++ s ++ "'"
  | .currency s => "invalid currency code '" ++ s ++ "'"
  | .id subject f => subject.idName ++ ": " ++ f.message
  | .overflow a => "balance of account " ++ a.toText ++ " would overflow"
  | .closing => "closing an account goes through the close operation"
  | .closingWithRate => "closing an account cannot be combined with a rate change"
  | .rate r => "interest rate must not be negative, got " ++ r.toText
  | .blankReason => "hold reason must not be empty"
  | .expiry => "hold expiry must be in the future"
  | .noAmount op => op.title ++ " needs an amount"
  | .noHoldAlias => "hold needs a reference"
  | .noReason => "hold needs a reason"
  | .noReleaseAlias => "release needs a hold reference"
  | .holdAlias s => "unknown hold '" ++ s ++ "'"
  | .other s => s

/-- Which state stands in the way, in words. -/
def BadState.message : BadState → String
  | .freezing a s => "cannot freeze account " ++ a.toText ++ " in status " ++ s.name
  | .closingPending a => "cannot close pending account " ++ a.toText
  | .closed a => "account " ++ a.toText ++ " is closed"

/-- What is wrong with the settings, in words. -/
def BadSettings.message : BadSettings → String
  | .unreadable => "the settings are not a table of known values"
  | .currency s => "Invalid argument: " ++ (BadArgument.currency s).message
  | .rates => "default interest rates must not be negative"
  | .timeout => "storage_timeout_ms must be positive"
  | .attempts => "account_number_attempts must be at least 1"
  | .capacity => "event_queue_capacity must be at least 1"

/-- What went wrong with a file or a stream, in words. -/
def BadStream.message : BadStream → String
  | .missing => "No such file or directory (os error 2)"
  | .closed => "sink closed"
  | .notText => "stream did not contain valid UTF-8"

namespace LedgerError

/-- The cause in words. -/
def message : LedgerError → String
  | .accountNotFound name => "Account " ++ name.message ++ " not found"
  | .holdNotFound h => "Hold " ++ h.toText ++ " not found"
  | .alreadyExists what => "Already exists: " ++ what.message
  | .invalidArgument why => "Invalid argument: " ++ why.message
  | .insufficientFunds a => "Insufficient funds on account " ++ a.toText
  | .accountNotActive a s =>
      "Account " ++ a.toText ++ " is not active (status: " ++ s.name ++ ")"
  | .invalidState why => "Invalid state: " ++ why.message
  | .alreadyFrozen a => "Account " ++ a.toText ++ " is already frozen"
  | .notFrozen a => "Account " ++ a.toText ++ " is not frozen"
  | .alreadyClosed a => "Account " ++ a.toText ++ " is already closed"
  | .nonZeroBalance a balance =>
      "Cannot close account " ++ a.toText ++ " with non-zero balance " ++ balance.toText
  | .alreadyReleased h => "Hold " ++ h.toText ++ " was already released"
  | .timeout => "Storage operation timed out"
  | .config why => "Configuration error: " ++ why.message
  | .csv f => "CSV error: " ++ f.message
  | .io why => "IO error: " ++ why.message
  | .internal s => "Internal error: " ++ s

/-- The request names an account or a hold that the ledger does not have. -/
def isNotFound : LedgerError → Bool
  | .accountNotFound _ => true
  | .holdNotFound _ => true
  | _ => false

end LedgerError

end BankLedger
