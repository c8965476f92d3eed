import BankLedger.Batch.Runner
import BankLedger.CommandLine.Arguments
import BankLedger.Settings.File

/-!
# Sessions

A session is one run of the program: it reads the settings, runs the batch record by record, and
writes the report. Whatever goes wrong with a single record is logged, and the next record is
read. What goes wrong before the first record ends the session, and then there is no report.

The events that the ledger announces are taken by the log while the batch runs.

## Main definitions

* `LogEntry`: What is logged.
* `Outcome`: How a session ends.
* `Session.run`: A session, given the files it may read.
* `Session.ofArguments`: The same, from the arguments on.
-/

namespace BankLedger

/-- What is logged. -/
inductive LogEntry where
  | refused (record : Nat) (e : LedgerError)
  | unreadable (record : Nat) (e : LedgerError)
  /-- A database was asked for, and the rows are kept in memory all the same. -/
  | noDatabase
  | published (e : Event)

/-- How serious an entry is. -/
def LogEntry.level : LogEntry → String
  | .refused _ _ => "ERROR"
  | .unreadable _ _ => "ERROR"
  | .noDatabase => "WARN"
  | .published _ => "INFO"

/-- The words of an entry. -/
def LogEntry.message : LogEntry → String
  | .refused _ _ => "Error applying command"
  | .unreadable _ _ => "Error reading command"
  | .noDatabase =>
      "WARNING: Persistent storage requested via --db-path, but 'storage-rocksdb' feature is " ++
        "not enabled. Falling back to in-memory storage."
  | .published _ => "published event"

/-- How a session ends. -/
structure Outcome where
  exit : Nat
  output : String
  complaint : Option String
  /-- What is logged, in order. -/
  log : List LogEntry

namespace Session

/-- The files that there are. -/
abbrev Files := String → Option (List UInt8)

/-- A session that ends early. -/
def failed (e : LedgerError) (log : List LogEntry) : Outcome := ⟨1, "", some e.message, log⟩

/-- The settings of a session: from the file, if one is named, with the time for calls of the store
    as the arguments say. -/
def settingsOf (files : Files) (i : Invocation) : Except LedgerError Settings := do
  let settings ← match i.config with
    | none => .ok .default
    | some path => match files path with
      | some bytes => Settings.ofBytes bytes
      | none => .error (.io .missing)
  let settings := { settings with
    storageTimeout := i.storageTimeout.getD settings.storageTimeout }
  settings.check
  return settings

/-- What is logged about the outcome of a record. -/
def entryOf (number : Nat) (record : Except LedgerError Command)
    (result : Except LedgerError Unit) : List LogEntry :=
  match record, result with
  | .error e, _ => [.unreadable number e]
  | .ok _, .error e => [.refused number e]
  | .ok _, .ok _ => []

/-- Runs the records of a batch, which are counted from `number`: what is logged, and the batch
    afterwards. -/
def runRecords (number : Nat) (b : Batch) :
    List (Except LedgerError Command) → List LogEntry × Batch
  | [] => ([], b)
  | record :: rest =>
      let (result, b) := b.next record
      let (events, b) := b.drain
      let (log, b) := runRecords (number + 1) b rest
      (entryOf number record result ++ events.map .published ++ log, b)

/-- What is logged about a database. -/
def storeLog (i : Invocation) : List LogEntry := if i.database.isSome then [.noDatabase] else []

/-- A session. -/
def run (files : Files) (numbers : NumberSource) (clock : Instant) (i : Invocation) : Outcome :=
  match settingsOf files i with
  | .error e => failed e []
  | .ok settings =>
      match files i.input with
      | none => failed (.io .missing) (storeLog i)
      | some bytes =>
          let start := Batch.start settings numbers clock
          let (log, b) := runRecords 1 start (Command.readAll bytes)
          match b.report with
          | .error e => failed e (storeLog i ++ log)
          | .ok rows => ⟨0, Report.text rows, none, storeLog i ++ log⟩

/-- The name and the version of the program. -/
def versionText : String := "account-ledger 0.1.0\n"

/-- How the program is used. -/
def helpLines : List String := [
  "Usage: account-ledger [OPTIONS] <INPUT>",
  "",
  "Arguments:",
  "  <INPUT>  Input ledger commands CSV file",
  "",
  "Options:",
  "      --db-path <DB_PATH>",
  "          Path to persistent database (optional). If provided, uses RocksDB",
  "      --config <CONFIG>",
  "          TOML configuration file",
  "      --log-format <LOG_FORMAT>",
  "          [default: text] [possible values: text, json]",
  "      --storage-timeout-ms <STORAGE_TIMEOUT_MS>",
  "          Overrides \x60storage_timeout_ms\x60 from the configuration",
  "  -h, --help",
  "          Print help",
  "  -V, --version",
  "          Print version"]

/-- How the program is used, as one text. -/
def helpText : String := String.join (helpLines.map (· ++ "\n"))

/-- A session from its arguments on. -/
def ofArguments (files : Files) (numbers : NumberSource) (clock : Instant) (args : List String) :
    Outcome :=
  match Arguments.parse args with
  | .error m => ⟨2, "", some m.message, []⟩
  | .ok .help => ⟨0, helpText, none, []⟩
  | .ok .version => ⟨0, versionText, none, []⟩
  | .ok (.run i) => run files numbers clock i

end Session

end BankLedger
