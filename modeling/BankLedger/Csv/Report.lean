import BankLedger.Account.Basic
import BankLedger.Text.Utf8

/-!
# The report

The accounts of a batch are reported as a table with a header. A cell that holds a comma, a quote or
a line end is put in quotes, and its own quotes are doubled. Balances are written without trailing
zeros.

The header comes before the first row, and is also all that is written when there are no rows. That
is decided for each list of rows by itself: a list without rows gives a header of its own, and does
not stand for the one before the first row.

What is written is collected and handed to the sink in portions. A sink that takes nothing is
noticed when the first portion is full, or at the end of the list.

## Main definitions

* `Csv.line`: The text of a record.
* `Report.Writer`: Whether the header is still due.
* `Report.Writer.write`: The text for a list of rows.
* `Report.writeAll`: The text for several lists.
-/

namespace BankLedger

namespace Csv

/-- The character does not stand in a cell without quotes. -/
def needsQuotes (c : Char) : Bool := c == ',' || c == '"' || c == '\r' || c == '\n'

/-- A quote inside quotes is doubled. -/
def doubled (c : Char) : List Char := if c = '"' then ['"', '"'] else [c]

/-- A cell, in quotes if it has to be. -/
def cellText (s : String) : String :=
  if s.toList.any needsQuotes then "\"" ++ String.ofList (s.toList.flatMap doubled) ++ "\"" else s

/-- The text of a record of several cells. -/
def line (cells : List String) : String := ",".intercalate (cells.map cellText) ++ "\n"

end Csv

/-- Where a report is written to. -/
inductive Sink where
  | taking
  | closed
deriving DecidableEq

namespace Report

/-- The names of the columns. -/
def header : List String := ["account", "number", "status", "balance", "available_balance"]

/-- A row of the report: an alias and the account it stands for. -/
abbrev Row := String × Account

/-- The cells of a row. -/
def cells (r : Row) : List String :=
  [r.1, r.2.number.text, r.2.status.name, r.2.balance.normalize.toText,
    r.2.available.normalize.toText]

/-- Whether the header before the first row is still due. -/
structure Writer where
  headerDue : Bool

/-- A writer that has written nothing. -/
def Writer.new : Writer := ⟨true⟩

/-- How many bytes are collected before they are handed to the sink. -/
def portion : Nat := 8192

/-- The text for a list of rows. -/
def Writer.text (w : Writer) (rows : List Row) : String :=
  if rows.isEmpty then Csv.line header
  else (if w.headerDue then Csv.line header else "") ++ String.join (rows.map (Csv.line ∘ cells))

/-- The writer after a list of rows. -/
def Writer.next (w : Writer) (rows : List Row) : Writer := ⟨w.headerDue && rows.isEmpty⟩

/-- Writes a list of rows: the text, and the writer afterwards. -/
def Writer.write (w : Writer) (sink : Sink) (rows : List Row) :
    Except LedgerError (String × Writer) :=
  let text := w.text rows
  match sink with
  | .taking => .ok (text, w.next rows)
  | .closed => .error (if portion < text.utf8ByteSize then .csv .sinkClosed else .io .closed)

/-- Writes several lists of rows: all the text, or the first error. -/
def writeAll (sink : Sink) (w : Writer) : List (List Row) → Except LedgerError String
  | [] => .ok ""
  | rows :: rest => do
      let (text, w) ← w.write sink rows
      return text ++ (← writeAll sink w rest)

/-- The report of a batch that has ended. -/
def text (rows : List Row) : String := Writer.new.text rows

end Report

end BankLedger
