import BankLedger.Csv.Fault
import BankLedger.Text.Blank
import BankLedger.Text.Utf8

/-!
# Records of a table

A table comes as bytes. Commas separate cells, and a carriage return or a line feed ends a record;
what stands between records, blank lines included, belongs to none of them. A cell that begins with
a quote goes on to the next quote, so it may hold commas and line ends, and two quotes in it stand
for one. After the closing quote the cell goes on as any other cell. A table that ends inside a
record ends that record.

A record remembers where the reading of it began, which is right behind the byte that ended the
record before it.

## Main definitions

* `Csv.Record`: The cells of a record, as bytes, and its place.
* `Csv.Mode`, `Csv.Mode.react`: What a byte means, given what came before.
* `Csv.records`: The records of a table.
* `Csv.Record.texts`: The cells as texts, without blanks around them.
-/

namespace BankLedger

namespace Csv

/-- A record: its place, and its cells as bytes. -/
structure Record where
  /-- Where the reading of it began. -/
  place : Place
  /-- Its cells. -/
  cells : List (List UInt8)

/-- What the next byte is part of. -/
inductive Mode where
  /-- Nothing yet: a record may begin. -/
  | between
  /-- A cell, of which it is the first byte. -/
  | cellStart
  /-- A cell without quotes. -/
  | plain
  /-- A cell in quotes. -/
  | quoted
  /-- A cell in quotes, right behind a quote. -/
  | quoteSeen
deriving DecidableEq

/-- What a byte does. -/
inductive Effect where
  /-- It is left out. -/
  | drop
  /-- It is part of the cell. -/
  | keep
  /-- It ends the cell. -/
  | endCell
  /-- It ends the cell and the record. -/
  | endRecord
deriving DecidableEq

/-- The byte ends a record. -/
def isLineEnd (b : UInt8) : Bool := b == 0x0A || b == 0x0D

/-- A comma. -/
def comma : UInt8 := 0x2C

/-- A quote. -/
def quote : UInt8 := 0x22

/-- What a byte outside quotes does. -/
def reactPlain (b : UInt8) : Effect × Mode :=
  if b == comma then (.endCell, .cellStart)
  else if isLineEnd b then (.endRecord, .between)
  else (.keep, .plain)

/-- What a byte that begins a cell does. -/
def reactStart (b : UInt8) : Effect × Mode :=
  if b == quote then (.drop, .quoted) else reactPlain b

/-- What a byte does, and what the next one is part of. -/
def Mode.react (b : UInt8) : Mode → Effect × Mode
  | .between => if isLineEnd b then (.drop, .between) else reactStart b
  | .cellStart => reactStart b
  | .plain => reactPlain b
  | .quoted => if b == quote then (.drop, .quoteSeen) else (.keep, .quoted)
  | .quoteSeen => if b == quote then (.keep, .quoted) else reactPlain b

/-- How far the reading is, and what of the record has been read, last first. -/
structure Scan where
  /-- Where the reading of the record began. -/
  place : Place
  /-- The line of the next byte. -/
  line : Nat
  /-- The position of the next byte. -/
  byte : Nat
  /-- What the next byte is part of. -/
  mode : Mode
  /-- The bytes of the cell. -/
  cell : List UInt8
  /-- The cells before it. -/
  cells : List (List UInt8)

/-- The record that ends here. -/
def Scan.record (s : Scan) : Record := ⟨s.place, (s.cell.reverse :: s.cells).reverse⟩

/-- The position behind a byte. -/
def Scan.advance (s : Scan) (b : UInt8) (mode : Mode) : Scan :=
  { s with line := if b == 0x0A then s.line + 1 else s.line, byte := s.byte + 1, mode := mode }

/-- The reading of the next record begins. -/
def Scan.begin (s : Scan) : Scan :=
  { s with place := ⟨s.place.record + 1, s.line, s.byte⟩, cell := [], cells := [] }

/-- The records from here on. -/
def Scan.records (s : Scan) : List UInt8 → List Record
  | [] => if s.mode = .between then [] else [s.record]
  | b :: bs =>
      let (effect, mode) := s.mode.react b
      let t := s.advance b mode
      match effect with
      | .drop => t.records bs
      | .keep => { t with cell := b :: s.cell }.records bs
      | .endCell => { t with cell := [], cells := s.cell.reverse :: s.cells }.records bs
      | .endRecord => s.record :: t.begin.records bs

/-- The mark with which a text may begin to show its encoding. -/
def byteOrderMark : List UInt8 := [0xEF, 0xBB, 0xBF]

/-- The records of a table. A byte order mark at its start is left out, but its bytes count. -/
def records (bytes : List UInt8) : List Record :=
  let marked := bytes.take byteOrderMark.length == byteOrderMark
  let skipped := if marked then byteOrderMark.length else 0
  Scan.records ⟨⟨0, 1, 0⟩, 1, skipped, .between, [], []⟩ (bytes.drop skipped)

/-- The cells as texts, or the number of the first that is no text and how many of its bytes are.
    ASCII blanks around a cell are taken off before it is looked at, all others after. -/
def textsFrom (number : Nat) : List (List UInt8) → Except (Nat × Nat) (List String)
  | [] => .ok []
  | c :: cs =>
      match Text.decodeUtf8 (Text.trimBytes c) with
      | .error valid => .error (number, valid)
      | .ok s => (textsFrom (number + 1) cs).map (Text.trim s :: ·)

/-- The cells of a record as texts, without blanks around them. -/
def Record.texts (r : Record) : Except Fault (List String) :=
  match textsFrom 0 r.cells with
  | .ok cells => .ok cells
  | .error (cell, valid) => .error (.notText r.place cell valid)

end Csv

end BankLedger
