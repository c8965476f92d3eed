import BankLedger.CommandLine.Log
import BankLedger.Service.Numbers
import Std.Time.DateTime.Timestamp

/-!
# The program

Reads a batch of commands, runs it on a ledger kept in memory, and writes the report. The log goes
to the error stream, so the output holds the report and nothing else.

Only what needs the outside is done here: reading the files that the arguments name, the clock, and
a seed for the account numbers.
-/

namespace BankLedger

/-- What the wall clock shows. -/
def wallClock : IO Instant := do
  let n := (← Std.Time.Timestamp.now).toNanosecondsSinceUnixEpoch.toInt
  return ⟨n / Instant.nanosPerSecond, (n % Instant.nanosPerSecond).toNat⟩

/-- A number that cannot be foreseen. -/
def randomSeed : IO UInt64 := do
  return (← IO.getRandomBytes 8).foldl (fun n b => n * 256 + b.toUInt64) 0

/-- The bytes of a file, if it can be read. -/
def readFile? (path : String) : IO (Option (List UInt8)) := do
  try
    return some (← IO.FS.readBinFile path).toList
  catch _ =>
    return none

/-- The files that an invocation names. -/
def filesOf (i : Invocation) : IO Session.Files := do
  let input ← readFile? i.input
  let config ← i.config.mapM readFile?
  return fun path => if path = i.input then input else if some path = i.config then config.join else
    none

/-- Ends a session: the log and complaints to the error stream, the report to the output. -/
def conclude (format : LogFormat) (now : Instant) (o : Outcome) : IO UInt32 := do
  for entry in o.log do
    IO.eprintln (entry.line format now)
  if let some complaint := o.complaint then
    IO.eprintln complaint
  IO.print o.output
  return o.exit.toUInt32

/-- The program, given its arguments: the status it ends with. -/
def runProgram (args : List String) : IO UInt32 := do
  let now ← wallClock
  let numbers := NumberSource.scattered (← randomSeed)
  match Arguments.parse args with
  | .ok (.run i) =>
      conclude i.logFormat now (Session.ofArguments (← filesOf i) numbers now args)
  | _ => conclude .text now (Session.ofArguments (fun _ => none) numbers now args)

end BankLedger

/-- Runs the program. -/
def main (args : List String) : IO UInt32 := BankLedger.runProgram args
