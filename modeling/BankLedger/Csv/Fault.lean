import BankLedger.Batch.Operation
import BankLedger.Binary64.Shortest
import BankLedger.Binary64.Text
import BankLedger.Text.Quoted

/-!
# Faults of tables

What can be wrong with a record of a batch, and the words for it. A record is found again by its
number, the line it starts on, and the position of its first byte.

## Main definitions

* `Csv.Place`: Where a record begins.
* `Csv.Cell`: A cell that was expected to hold an amount.
* `Csv.Cause`: Why a record is no command.
* `Csv.Fault`: What is wrong with a record or a report.
-/

namespace BankLedger

namespace Csv

/-- Where a record begins. -/
structure Place where
  /-- The number of the record; the header is number zero. -/
  record : Nat
  /-- The line of its first byte, counted from one. -/
  line : Nat
  /-- The position of its first byte, counted from zero. -/
  byte : Nat
deriving DecidableEq

/-- What the cell of an amount was taken for when it gave no amount. -/
inductive Cell where
  | bool (b : Bool)
  /-- A whole number too long for 64 bits without sign. -/
  | natural (n : Nat)
  /-- A whole number below what 64 bits hold. -/
  | integer (n : Int)
  | real (x : Binary64.Datum)
  | text (s : String)
deriving DecidableEq

/-- Why a record is no command. -/
inductive Cause where
  /-- The operation is none of the known ones. -/
  | unknownOperation (s : String)
  | notDecimal (c : Cell)
  | duplicateColumn (name : String)
  | missingColumn (name : String)
  /-- The record ends before a column that it needs. -/
  | endOfRow
  /-- The record has only so many of the cells that it needs. -/
  | tooShort (cells : Nat)
deriving DecidableEq

/-- What is wrong with a record or a report. -/
inductive Fault where
  | notCommand (place : Place) (cause : Cause)
  /-- A cell of the record is no text: its number, and how many of its bytes are. -/
  | notText (place : Place) (cell valid : Nat)
  /-- The sink of a report took no more. -/
  | sinkClosed
deriving DecidableEq

/-- A number as a message shows it: a finite one always shows that it is a fraction. -/
def datumMessage : Binary64.Datum → String
  | .finite x =>
      let cs := x.toPlainChars
      String.ofList (if cs.contains '.' then cs else cs ++ ['.', '0'])
  | .infinite negative => if negative then "-inf" else "inf"
  | .undefined => "NaN"

/-- What a cell was taken for, in words. -/
def Cell.message : Cell → String
  | .bool b => "invalid type: boolean \x60" ++ (if b then "true" else "false") ++ "\x60"
  | .natural n => "invalid type: integer \x60" ++ toString n ++ "\x60 as u128"
  | .integer n => "invalid type: integer \x60" ++ toString n ++ "\x60 as i128"
  | .real x => "invalid value: floating point \x60" ++ datumMessage x ++ "\x60"
  | .text s => "invalid value: string " ++ Text.quoted s

/-- A name in marks. -/
def marked (s : String) : String := "\x60" ++ s ++ "\x60"

/-- Why a record is no command, in words. -/
def Cause.message : Cause → String
  | .unknownOperation s =>
      "unknown variant " ++ marked s ++ ", expected one of " ++
        ", ".intercalate (Operation.all.map fun op => marked op.name)
  | .notDecimal c =>
      c.message ++ ", expected a Decimal type representing a fixed-point number"
  | .duplicateColumn name => "duplicate field " ++ marked name
  | .missingColumn name => "missing field " ++ marked name
  | .endOfRow => "expected field, but got end of row"
  | .tooShort n =>
      "invalid length " ++ toString n ++ ", expected struct LedgerCommand with 5 elements"

/-- What is wrong, in words. -/
def Fault.message : Fault → String
  | .notCommand p c =>
      "CSV deserialize error: record " ++ toString p.record ++ " (line: " ++ toString p.line ++
        ", byte: " ++ toString p.byte ++ "): " ++ c.message
  | .notText p cell valid =>
      "CSV parse error: record " ++ toString p.record ++ " (line " ++ toString p.line ++
        ", field: " ++ toString cell ++ ", byte: " ++ toString p.byte ++
        "): invalid utf-8: invalid UTF-8 in field " ++ toString cell ++ " near byte index " ++
        toString valid
  | .sinkClosed => "sink closed"

end Csv

end BankLedger
