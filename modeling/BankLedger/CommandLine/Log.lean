import BankLedger.CommandLine.Session
import BankLedger.Json.Value

/-!
# The log

An entry of the log is one line, either of JSON or of plain text. Both forms carry the time, the
level, the words of the entry, and what it is about.

## Main definitions

* `LogEntry.fields`: What an entry is about.
* `LogEntry.line`: The line of an entry.
-/

namespace BankLedger

namespace LogEntry

/-- What an entry is about. -/
def fields : LogEntry → List (String × Json)
  | .refused n e => [("record", .ofInt n), ("error", .text e.message)]
  | .unreadable n e => [("record", .ofInt n), ("error", .text e.message)]
  | .noDatabase => []
  | .published e => [
      ("event_id", .text e.id.toText),
      ("event_type", .text e.kind.name),
      ("account_id", .text e.account.toText),
      ("payload", .text e.payload.toText)]

/-- An entry as a line of JSON. -/
def jsonLine (now : Instant) (e : LogEntry) : String :=
  (Json.record [
    ("timestamp", .text now.toText),
    ("level", .text e.level),
    ("fields", .record (("message", .text e.message) :: e.fields))]).toText

/-- What stands for a field in a line of text. -/
def fieldText : Json → String
  | .text s => s
  | v => v.toText

/-- An entry as a line of text. -/
def textLine (now : Instant) (e : LogEntry) : String :=
  " ".intercalate ([now.toText, e.level, e.message] ++
    e.fields.map fun f => f.1 ++ "=" ++ fieldText f.2)

/-- The line of an entry. -/
def line (format : LogFormat) (now : Instant) (e : LogEntry) : String :=
  match format with
  | .json => e.jsonLine now
  | .text => e.textLine now

end LogEntry

end BankLedger
