import BankLedger.Csv.Record
import BankLedger.Csv.Report
import BankLedger.Proofs.Text.Utf8

/-!
# Tables Read Back

A table that is written line by line is read as the same cells, whatever text they hold. What stands
between the two is that cells are put in quotes only when they have to be: a cell without quotes is
read as far as the next comma or line end, so it must have none of them, and must not begin with a
quote. The writer looks at characters and the reader at bytes, but all that divides cells is a byte
below 128, and such a byte is no part of another character.

The reader also counts lines and bytes, for the place of a record. The places hang on everything
that comes before, so they are left out first: `cellsFrom` is the reader without them, and it is the
one that is followed. It stands still wherever a cell may end, and that there are three such places
does not matter to what comes next.

A table whose first bytes happen to be a byte order mark loses them, and a line of one empty cell is
no record. So lines of at least two cells are asked for, and no mark in front of them.

## Main definitions

* `Csv.cellsFrom`: The cells that are read, without the places of their records.
* `Csv.IsBare`: A byte that may stand in a cell without quotes.
* `Csv.Record.fields`: The texts of the cells of a record, blanks and all.
* `Csv.table`: The text of a table.

## Theorems

* `Csv.map_cells_records`: The reader without places.
* `Csv.cellsFrom_bare`, `Csv.cellsFrom_quoted`: Cells without quotes and in quotes.
* `Csv.cellsFrom_line`: The line of a record.
* `Csv.map_fields_table`: A table is read back.
-/

namespace BankLedger

namespace Csv

open Text (toBytes toBytes_eq toBytes_append decodeUtf8)

/-- The cells of the records from here on, wherever the records stand. -/
def cellsFrom (mode : Mode) (cell : List UInt8) (cells : List (List UInt8)) :
    List UInt8 → List (List (List UInt8))
  | [] => if mode = .between then [] else [(cell.reverse :: cells).reverse]
  | b :: bs => match mode.react b with
    | (.drop, next) => cellsFrom next cell cells bs
    | (.keep, next) => cellsFrom next (b :: cell) cells bs
    | (.endCell, next) => cellsFrom next [] (cell.reverse :: cells) bs
    | (.endRecord, next) => (cell.reverse :: cells).reverse :: cellsFrom next [] [] bs

/-- The cells of the records do not hang on the places. -/
theorem map_cells_records (s : Scan) (bs : List UInt8) :
    (s.records bs).map Record.cells = cellsFrom s.mode s.cell s.cells bs := by
  induction bs generalizing s with
  | nil =>
      unfold Scan.records cellsFrom
      by_cases hmode : s.mode = .between
      · simp only [if_pos hmode, List.map_nil]
      · simp only [if_neg hmode, List.map_cons, List.map_nil, Scan.record]
  | cons b bs ih =>
      unfold Scan.records cellsFrom
      rcases s.mode.react b with ⟨effect, next⟩
      cases effect with
      | drop => exact ih _
      | keep => exact ih _
      | endCell => exact ih _
      | endRecord =>
          rw [List.map_cons, ih]
          rfl

/-- A byte that may stand in a cell without quotes. -/
def IsBare (b : UInt8) : Prop := b ≠ comma ∧ b ≠ quote ∧ isLineEnd b = false

/-- A quote inside quotes is doubled. -/
def doubledByte (b : UInt8) : List UInt8 := if b = quote then [quote, quote] else [b]

/-- A cell may end here. -/
def Mode.MayEnd (m : Mode) : Prop := m ≠ .between ∧ m ≠ .quoted

section Scan

variable {b : UInt8} {m : Mode}

theorem reactPlain_of_isBare (h : IsBare b) : reactPlain b = (.keep, .plain) := by
  unfold reactPlain
  rw [if_neg (by simpa using h.1), if_neg (by simp [h.2.2])]

theorem reactStart_of_isBare (h : IsBare b) : reactStart b = (.keep, .plain) := by
  unfold reactStart
  rw [if_neg (by simpa using h.2.1), reactPlain_of_isBare h]

/-- Where a cell may end, a byte that is no quote does what it does in a cell without quotes. -/
theorem Mode.MayEnd.react_of_ne_quote (h : m.MayEnd) (hb : b ≠ quote) :
    m.react b = reactPlain b := by
  have hquote : ¬ (b == quote) = true := by simpa using hb
  cases m with
  | between => exact absurd rfl h.1
  | quoted => exact absurd rfl h.2
  | cellStart => exact if_neg hquote
  | plain => rfl
  | quoteSeen => exact if_neg hquote

variable (cell : List UInt8) (cells : List (List UInt8)) (rest : List UInt8)

/-- The bytes of a cell without quotes are kept. -/
theorem cellsFrom_bare {bs : List UInt8} (h : ∀ b ∈ bs, IsBare b) :
    cellsFrom .plain cell cells (bs ++ rest) =
      cellsFrom .plain (bs.reverse ++ cell) cells rest := by
  induction bs generalizing cell with
  | nil => rfl
  | cons b bs ih =>
      have hb := reactPlain_of_isBare (h b List.mem_cons_self)
      rw [List.cons_append, cellsFrom]
      simp only [Mode.react, hb]
      rw [ih _ fun b' hb' => h b' (List.mem_cons_of_mem _ hb'), List.reverse_cons,
        List.append_assoc, List.singleton_append]

/-- The bytes of a cell in quotes are kept, with one quote for two. -/
theorem cellsFrom_quoted (bs : List UInt8) :
    cellsFrom .quoted cell cells (bs.flatMap doubledByte ++ quote :: rest) =
      cellsFrom .quoteSeen (bs.reverse ++ cell) cells rest := by
  induction bs generalizing cell with
  | nil => rfl
  | cons b bs ih =>
      have hstep : cellsFrom .quoted cell cells
          (doubledByte b ++ (bs.flatMap doubledByte ++ quote :: rest)) =
          cellsFrom .quoted (b :: cell) cells (bs.flatMap doubledByte ++ quote :: rest) := by
        unfold doubledByte
        by_cases hb : b = quote
        · rw [if_pos hb, hb]
          rfl
        · have hkeep : Mode.react b .quoted = (.keep, .quoted) := if_neg (by simpa using hb)
          rw [if_neg hb, List.singleton_append, cellsFrom, hkeep]
      rw [List.flatMap_cons, List.append_assoc, hstep, ih, List.reverse_cons, List.append_assoc,
        List.singleton_append]

end Scan

section Cells

/-- A character that asks for quotes is one of four bytes. -/
theorem isBare_of_mem {s : String} (h : s.toList.any needsQuotes = false) :
    ∀ b ∈ toBytes s, IsBare b := by
  intro b hb
  rw [toBytes_eq] at hb
  rcases List.mem_flatMap.mp hb with ⟨c, hc, hbyte⟩
  have hplain : needsQuotes c = false := by
    simpa using List.any_eq_false.mp h c hc
  have hne (d : Char) (hd : needsQuotes d = true) (hsmall : d.toNat < 128) :
      b.toNat ≠ d.toNat := by
    intro heq
    rcases Text.mem_encodeChar hbyte with hself | hlarge
    · have hcd : c = d := Char.toNat_inj.mp (hself.symm.trans heq)
      rw [hcd, hd] at hplain
      cases hplain
    · omega
  refine ⟨?_, ?_, ?_⟩
  · rintro rfl
    exact hne ',' rfl (by decide) rfl
  · rintro rfl
    exact hne '"' rfl (by decide) rfl
  · unfold isLineEnd
    rw [Bool.or_eq_false_iff, beq_eq_false_iff_ne, beq_eq_false_iff_ne]
    constructor
    · rintro rfl
      exact hne '\n' rfl (by decide) rfl
    · rintro rfl
      exact hne '\r' rfl (by decide) rfl

/-- Doubling the quotes of a text doubles those of its bytes. -/
theorem toBytes_doubled (cs : List Char) :
    toBytes (String.ofList (cs.flatMap doubled)) =
      (toBytes (String.ofList cs)).flatMap doubledByte := by
  simp only [toBytes_eq, String.toList_ofList, List.flatMap_assoc]
  congr 1
  funext c
  by_cases hc : c = '"'
  · rw [hc]
    rfl
  · have hkeep : ∀ b ∈ String.utf8EncodeChar c, doubledByte b = [b] := by
      intro b hb
      refine if_neg ?_
      rintro rfl
      rcases Text.mem_encodeChar hb with hself | hlarge
      · exact hc (Char.toNat_inj.mp hself.symm)
      · exact absurd hlarge (by decide)
    rw [doubled, if_neg hc, List.flatMap_singleton, List.flatMap_congr hkeep,
      List.flatMap_singleton']

/-- The bytes of a cell that is put in quotes. -/
theorem toBytes_cellText_quoted {s : String} (h : s.toList.any needsQuotes = true) :
    toBytes (cellText s) = quote :: ((toBytes s).flatMap doubledByte ++ [quote]) := by
  have hquote : toBytes "\"" = [quote] := by
    rw [toBytes_eq]
    rfl
  unfold cellText
  rw [if_pos h, toBytes_append, toBytes_append, hquote, toBytes_doubled, String.ofList_toList]
  rfl

-- The cell is empty, is kept as it is, or is in quotes; it may end behind it in each case.
/-- The text of a cell brings the reader to the end of the cell. -/
theorem exists_cellsFrom_cellText (s : String) :
    ∃ m : Mode, m.MayEnd ∧ ∀ cells rest,
      cellsFrom .cellStart [] cells (toBytes (cellText s) ++ rest) =
        cellsFrom m (toBytes s).reverse cells rest := by
  by_cases hquotes : s.toList.any needsQuotes = true
  · refine ⟨.quoteSeen, ⟨nofun, nofun⟩, fun cells rest => ?_⟩
    have hopen : Mode.react quote .cellStart = (.drop, .quoted) := rfl
    rw [toBytes_cellText_quoted hquotes, List.cons_append, cellsFrom, hopen, List.append_assoc,
      List.singleton_append]
    exact (cellsFrom_quoted [] cells rest _).trans (by rw [List.append_nil])
  · have hbare := isBare_of_mem (Bool.eq_false_iff.mpr hquotes)
    unfold cellText
    rw [if_neg hquotes]
    rcases hbytes : toBytes s with _ | ⟨b, bs⟩
    · exact ⟨.cellStart, ⟨nofun, nofun⟩, fun _ _ => rfl⟩
    · rw [hbytes] at hbare
      refine ⟨.plain, ⟨nofun, nofun⟩, fun cells rest => ?_⟩
      have hfirst : Mode.react b .cellStart = (.keep, .plain) :=
        reactStart_of_isBare (hbare b List.mem_cons_self)
      rw [List.cons_append, cellsFrom, hfirst]
      simp only [List.reverse_cons (a := b)]
      exact cellsFrom_bare [b] cells rest fun b' hb' => hbare b' (List.mem_cons_of_mem _ hb')

/-- No cell begins with a line end. -/
theorem isLineEnd_head_cellText {s : String} {b : UInt8} {bs : List UInt8}
    (h : toBytes (cellText s) = b :: bs) : isLineEnd b = false := by
  by_cases hquotes : s.toList.any needsQuotes = true
  · rw [toBytes_cellText_quoted hquotes] at h
    rw [← (List.cons.inj h).1]
    rfl
  · have hbare := isBare_of_mem (Bool.eq_false_iff.mpr hquotes)
    unfold cellText at h
    rw [if_neg hquotes] at h
    exact (hbare b (h ▸ List.mem_cons_self)).2.2

end Cells

section Lines

variable (c : String) (cs : List String)

theorem toBytes_line_single : toBytes (line [c]) = toBytes (cellText c) ++ [0x0A] := by
  have hend : toBytes "\n" = [0x0A] := by
    rw [toBytes_eq]
    rfl
  unfold line
  rw [toBytes_append, hend]
  rfl

theorem toBytes_line_cons (d : String) :
    toBytes (line (c :: d :: cs)) = toBytes (cellText c) ++ comma :: toBytes (line (d :: cs)) := by
  have hcomma : toBytes "," = [comma] := by
    rw [toBytes_eq]
    rfl
  have hline : line (c :: d :: cs) = cellText c ++ ("," ++ line (d :: cs)) := by
    apply String.toList_inj.mp
    simp [line, String.toList_intercalate, List.intercalate]
  rw [hline, toBytes_append, toBytes_append, hcomma]
  rfl

-- By induction on the cells behind the first one; `done` are those before it, reversed.
/-- The line of a record is read as its cells. -/
theorem cellsFrom_line (done : List (List UInt8)) (rest : List UInt8) :
    cellsFrom .cellStart [] done (toBytes (line (c :: cs)) ++ rest) =
      (done.reverse ++ (c :: cs).map toBytes) :: cellsFrom .between [] [] rest := by
  induction cs generalizing c done with
  | nil =>
      rcases exists_cellsFrom_cellText c with ⟨m, hm, hcell⟩
      have hend : m.react 0x0A = (.endRecord, .between) := hm.react_of_ne_quote (by decide)
      rw [toBytes_line_single, List.append_assoc, hcell, List.singleton_append, cellsFrom, hend]
      simp only [List.reverse_reverse, List.reverse_cons, List.map_cons, List.map_nil]
  | cons d cs ih =>
      rcases exists_cellsFrom_cellText c with ⟨m, hm, hcell⟩
      have hend : m.react comma = (.endCell, .cellStart) := hm.react_of_ne_quote (by decide)
      rw [toBytes_line_cons, List.append_assoc, hcell, List.cons_append, cellsFrom, hend]
      simp only
      rw [ih, List.reverse_reverse, List.reverse_cons, List.append_assoc, List.singleton_append,
        List.map_cons (a := c)]

/-- A record of two cells or more begins with its line. -/
theorem cellsFrom_between_line (d : String) (rest : List UInt8) :
    cellsFrom .between [] [] (toBytes (line (c :: d :: cs)) ++ rest) =
      cellsFrom .cellStart [] [] (toBytes (line (c :: d :: cs)) ++ rest) := by
  have hstart {b : UInt8} (hb : isLineEnd b = false) :
      Mode.react b .between = Mode.react b .cellStart := if_neg (by simp [hb])
  rw [toBytes_line_cons, List.append_assoc]
  rcases hfirst : toBytes (cellText c) with _ | ⟨b, bs⟩
  · rfl
  · rw [List.cons_append, cellsFrom, cellsFrom, hstart (isLineEnd_head_cellText hfirst)]

end Lines

/-- The texts of the cells of a record, blanks and all. -/
def Record.fields (r : Record) : List (Except Nat String) := r.cells.map decodeUtf8

/-- The text of a table: the lines of its records. -/
def table (rows : List (List String)) : String := String.join (rows.map line)

theorem table_append (rows later : List (List String)) :
    table (rows ++ later) = table rows ++ table later := by
  unfold table
  rw [List.map_append, String.join_append]

theorem toBytes_table_cons (row : List String) (rows : List (List String)) :
    toBytes (table (row :: rows)) = toBytes (line row) ++ toBytes (table rows) := by
  unfold table
  rw [List.map_cons, String.join_cons, toBytes_append]

/-- A table of records of two cells or more is read as their cells. -/
theorem cellsFrom_table {rows : List (List String)} (h : ∀ row ∈ rows, 2 ≤ row.length) :
    cellsFrom .between [] [] (toBytes (table rows)) = rows.map (List.map toBytes) := by
  induction rows with
  | nil =>
      rw [toBytes_eq]
      rfl
  | cons row rows ih =>
      have hrow := h row List.mem_cons_self
      rw [toBytes_table_cons]
      rcases row with _ | ⟨c, _ | ⟨d, cs⟩⟩
      · simp at hrow
      · simp at hrow
      · rw [cellsFrom_between_line, cellsFrom_line,
          ih fun row' hrow' => h row' (List.mem_cons_of_mem _ hrow')]
        rfl

/-- A table of records of two cells or more is read back, if there is no byte order mark in front
    of it. -/
theorem map_fields_table {rows : List (List String)} (h : ∀ row ∈ rows, 2 ≤ row.length)
    (hmark : (toBytes (table rows)).take 3 ≠ byteOrderMark) :
    (records (toBytes (table rows))).map Record.fields = rows.map (List.map Except.ok) := by
  have hcells := cellsFrom_table h
  generalize toBytes (table rows) = bytes at hmark hcells
  have hmarked : (bytes.take byteOrderMark.length == byteOrderMark) = false :=
    beq_false_of_ne hmark
  have hread := map_cells_records ⟨⟨0, 1, 0⟩, 1, 0, .between, [], []⟩ bytes
  rw [hcells] at hread
  have hfields : Record.fields = List.map decodeUtf8 ∘ Record.cells := rfl
  unfold records
  simp only [hmarked, Bool.false_eq_true, if_false, List.drop_zero]
  rw [hfields, ← List.map_map, hread, List.map_map]
  refine List.map_congr_left fun row _ => ?_
  rw [Function.comp_apply, List.map_map]
  exact List.map_congr_left fun s _ => Text.decodeUtf8_toBytes s

end Csv

end BankLedger
