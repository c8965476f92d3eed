import BankLedger.Csv.Amount
import BankLedger.Csv.Record
import BankLedger.LedgerError

/-!
# Commands of a batch

A batch is a table with one command per record. The first record names the columns, in any order;
columns of other names are ignored. When the first record is no text, the cells of the others are
taken in the order in which the columns are listed here.

A record may be shorter than the header: what may be absent is absent then. It may be longer too.
Each record is decoded by itself, and a record that is no command does not keep the next one from
being read.

## Main definitions

* `Command`: An operation with its arguments.
* `Command.ofRow`: The command of a record, by the names of the columns.
* `Command.ofCells`: The command of a record, by the order of its cells.
* `Command.readAll`: The commands of a batch, or why a record is none.
-/

namespace BankLedger

/-- An operation of a batch with its arguments. Accounts and holds are named by aliases. -/
structure Command where
  op : Operation
  account : String
  /-- The amount, if there is one. -/
  amount : Option Decimal
  /-- The alias of the hold, if there is one. -/
  reference : Option String
  /-- The kind of account to open or the reason for a hold, if there is one. -/
  detail : Option String
deriving DecidableEq

namespace Command

open Csv (Cause)

/-- A column that is known. -/
inductive Column where
  | op
  | account
  | amount
  | reference
  /-- The kind of account or the reason. -/
  | detail
deriving DecidableEq

/-- The name of a column. -/
def Column.name : Column → String
  | .op => "op"
  | .account => "account"
  | .amount => "amount"
  | .reference => "reference"
  | .detail => "detail"

/-- The known columns. -/
def columns : List Column := [.op, .account, .amount, .reference, .detail]

/-- The operation of a cell. -/
def readOperation (s : String) : Except Cause Operation :=
  match Operation.ofName? s with
  | some op => .ok op
  | none => .error (.unknownOperation s)

/-- The amount of a cell; an empty one has none. -/
def readAmount : Option String → Except Cause (Option Decimal)
  | none => .ok none
  | some s =>
      if s.isEmpty then .ok none
      else match Csv.amountOf s with
        | .ok a => .ok (some a)
        | .error cell => .error (.notDecimal cell)

/-- The text of a cell; an empty one has none. -/
def readText (cell : Option String) : Option String := cell.filter (!·.isEmpty)

/-- What of a command has been read. -/
structure Draft where
  op : Option Operation
  /-- The alias of the account, once it has been read. -/
  account : Option String
  amount : Option Decimal
  reference : Option String
  /-- The kind of account or the reason. -/
  detail : Option String

/-- Nothing has been read. -/
def Draft.empty : Draft := ⟨none, none, none, none, none⟩

/-- Reads the cell of a column. What must be there needs a cell, even an empty one. -/
def Draft.set (d : Draft) (cell : Option String) : Column → Except Cause Draft
  | .op => match cell with
    | none => .error .endOfRow
    | some s => (readOperation s).map fun op => { d with op := some op }
  | .account => match cell with
    | none => .error .endOfRow
    | some s => .ok { d with account := some s }
  | .amount => (readAmount cell).map fun a => { d with amount := a }
  | .reference => .ok { d with reference := readText cell }
  | .detail => .ok { d with detail := readText cell }

/-- Reads the cells under their columns, in the order of the header; `seen` are the known columns so
    far. A column of another name has to have a cell all the same. -/
def readRow (d : Draft) (seen : List Column) : List String → List String → Except Cause Draft
  | [], _ => .ok d
  | name :: names, cells =>
      match columns.find? (·.name == name) with
      | none =>
          if cells.isEmpty then .error .endOfRow else readRow d seen names cells.tail
      | some c =>
          if seen.contains c then .error (.duplicateColumn name)
          else match d.set cells.head? c with
            | .error e => .error e
            | .ok d => readRow d (c :: seen) names cells.tail

/-- The command of a record, by the names of the columns. -/
def ofRow (header cells : List String) : Except Cause Command :=
  match readRow .empty [] header cells with
  | .error e => .error e
  | .ok d => match d.op, d.account with
    | none, _ => .error (.missingColumn Column.op.name)
    | some _, none => .error (.missingColumn Column.account.name)
    | some op, some account => .ok ⟨op, account, d.amount, d.reference, d.detail⟩

/-- The command of a record, by the order of its cells. -/
def ofCells : List String → Except Cause Command
  | [] => .error (.tooShort 0)
  | op :: rest =>
      match readOperation op, rest with
      | .error e, _ => .error e
      | .ok _, [] => .error (.tooShort 1)
      | .ok op, account :: rest =>
          (readAmount rest[0]?).map fun amount =>
            ⟨op, account, amount, readText rest[1]?, readText rest[2]?⟩

/-- The names of the columns; `none` when the header is no text. -/
def headerOf (r : Csv.Record) : Option (List String) := r.texts.toOption

/-- The command of a record, given the header. -/
def ofRecord (header : Option (List String)) (r : Csv.Record) : Except LedgerError Command :=
  match r.texts with
  | .error f => .error (.csv f)
  | .ok cells =>
      let command := match header with
        | some names => ofRow names cells
        | none => ofCells cells
      command.mapError fun cause => .csv (.notCommand r.place cause)

/-- The commands of a batch, one for each record after the header, or why the record is none. -/
def readAll (bytes : List UInt8) : List (Except LedgerError Command) :=
  match Csv.records bytes with
  | [] => []
  | header :: records => records.map (ofRecord (headerOf header))

end Command

end BankLedger
