import BankLedger.Proofs.Csv.Table

/-!
# Tables by Lines

The reader goes through a table byte by byte, and what a byte means hangs on all that came before
it. One quote can make everything behind it a single cell. Without quotes nothing of this is left:
the reader forgets at each line end, and what it remembers within a line is only where the cell
began. So a table without quotes is a list of lines that have nothing to do with each other, and its
records are these lines, divided at the commas.

A carriage return ends a line as well as a line feed, so between the two of a pair there is one more
line, an empty one. Empty lines are no records and count for nothing.

## Main definitions

* `Csv.body`: The bytes of a table behind its byte order mark.
* `Csv.linesOf`, `Csv.lines`: The lines of some bytes and of a table that are not empty.
* `Csv.cellsOf`: The cells of a line.
* `Csv.Divided`: The reader divides bytes at line ends, and lines at commas.

## Theorems

* `Csv.Divided.cons`: A byte that is no quote leaves the reader where it can be told by lines.
* `Csv.divided`: Without quotes the reader divides bytes at line ends, and lines at commas.
* `Csv.map_cells_records_eq`: Without quotes the records of a table are its lines.
* `Csv.number_of_record`: The records of a table are counted from zero.
* `Csv.lines_append`: Lines stay what they are when others are put between them.
-/

namespace BankLedger

namespace Csv

/-- The bytes of a table behind its byte order mark, if it has one. -/
def body (bytes : List UInt8) : List UInt8 :=
  if bytes.take byteOrderMark.length = byteOrderMark then bytes.drop byteOrderMark.length
  else bytes

/-- The lines that are not empty. -/
def linesOf (bytes : List UInt8) : List (List UInt8) :=
  (bytes.splitOnP isLineEnd).filter (!·.isEmpty)

/-- The lines of a table that are not empty. -/
def lines (bytes : List UInt8) : List (List UInt8) := linesOf (body bytes)

/-- The cells of a line, which commas divide. -/
def cellsOf (line : List UInt8) : List (List UInt8) := line.splitOn comma

section Reading

variable {b : UInt8} {bs : List UInt8} {m : Mode}

theorem cellsOf_cons (b : UInt8) (line : List UInt8) : cellsOf (b :: line)
    = if b = comma then [] :: cellsOf line else (cellsOf line).modifyHead (List.cons b) := by
  simp only [cellsOf, List.splitOn_eq_splitOnP, List.splitOnP_cons_eq_if_modifyHead, beq_iff_eq]

/-- A line end makes no line. -/
theorem linesOf_cons_lineEnd (hb : isLineEnd b = true) : linesOf (b :: bs) = linesOf bs := by
  unfold linesOf
  rw [List.splitOnP_cons_eq_if_modifyHead, if_pos hb]
  rfl

/-- The reader is within a line and has seen no quote in it. -/
def Mode.InLine (m : Mode) : Prop := m = .cellStart ∨ m = .plain

theorem Mode.InLine.mayEnd (h : m.InLine) : m.MayEnd := by
  rcases h with rfl | rfl
  · exact ⟨nofun, nofun⟩
  · exact ⟨nofun, nofun⟩

/-- The cells of the records when a line of which some cells and a part of one have been read goes
    on with these lines. -/
def cellsWithin (cell : List UInt8) (cells : List (List UInt8)) :
    List (List UInt8) → List (List (List UInt8))
  | [] => []
  | line :: rest => (cells.reverse ++ (cellsOf line).modifyHead (cell.reverse ++ ·))
      :: (rest.filter (!·.isEmpty)).map cellsOf

section Within

variable (cell : List UInt8) (cells : List (List UInt8)) (line : List UInt8)
  (rest : List (List UInt8))

theorem cellsWithin_end : cellsWithin cell cells ([] :: rest)
    = (cell.reverse :: cells).reverse :: (rest.filter (!·.isEmpty)).map cellsOf := by
  simp [cellsWithin, cellsOf]

theorem cellsWithin_begin : cellsWithin [] cells (line :: rest)
    = (cells.reverse ++ cellsOf line) :: (rest.filter (!·.isEmpty)).map cellsOf := by
  have hsame : (cellsOf line).modifyHead ([].reverse ++ ·) = cellsOf line := by
    cases cellsOf line <;> rfl
  simp only [cellsWithin, hsame]

theorem cellsWithin_comma : cellsWithin cell cells ((comma :: line) :: rest)
    = cellsWithin [] (cell.reverse :: cells) (line :: rest) := by
  rw [cellsWithin_begin]
  simp [cellsWithin, cellsOf_cons]

theorem cellsWithin_keep (hb : b ≠ comma) : cellsWithin cell cells ((b :: line) :: rest)
    = cellsWithin (b :: cell) cells (line :: rest) := by
  have hkeep : (cell.reverse ++ ·) ∘ List.cons b = ((b :: cell).reverse ++ ·) := by
    funext bytes
    simp
  simp only [cellsWithin, cellsOf_cons, if_neg hb, List.modifyHead_modifyHead, hkeep]

end Within

/-- The reader divides bytes at line ends, and lines at commas, from between two lines on and from
    within one. -/
structure Divided (bs : List UInt8) : Prop where
  between : cellsFrom .between [] [] bs = (linesOf bs).map cellsOf
  within : ∀ {m : Mode}, m.InLine → ∀ cell cells,
    cellsFrom m cell cells bs = cellsWithin cell cells (bs.splitOnP isLineEnd)

theorem divided_nil : Divided [] where
  between := rfl
  within {m} hm cell cells := by
    rw [cellsFrom, if_neg hm.mayEnd.1, List.splitOnP_nil, cellsWithin_end]
    rfl

-- The byte is a comma, ends the line, or is kept.
/-- Within a line a byte that is no quote does what it looks like. -/
theorem Divided.within_cons (h : Divided bs) (hb : b ≠ quote) (hm : m.InLine) (cell : List UInt8)
    (cells : List (List UInt8)) : cellsFrom m cell cells (b :: bs)
      = cellsWithin cell cells ((b :: bs).splitOnP isLineEnd) := by
  have hline := @h.within
  rcases List.exists_cons_of_ne_nil (List.splitOnP_ne_nil isLineEnd bs) with ⟨line, rest, hsplit⟩
  rw [hsplit] at hline
  rw [cellsFrom, hm.mayEnd.react_of_ne_quote hb, List.splitOnP_cons_eq_if_modifyHead, hsplit]
  unfold reactPlain
  by_cases hcomma : b = comma
  · subst hcomma
    exact (hline (Or.inl rfl) _ _).trans (cellsWithin_comma cell cells line rest).symm
  · rw [if_neg (by simpa using hcomma)]
    cases hend : isLineEnd b with
    | true =>
        simp only [if_true]
        rw [h.between, cellsWithin_end]
        unfold linesOf
        rw [hsplit]
    | false =>
        simp only [Bool.false_eq_true, if_false]
        exact (hline (Or.inr rfl) _ _).trans (cellsWithin_keep cell cells line rest hcomma).symm

/-- Between two lines a line end is left out, and any other byte begins a line. -/
theorem Divided.cons (h : Divided bs) (hb : b ≠ quote) : Divided (b :: bs) where
  within hm := h.within_cons hb hm
  between := by
    cases hend : isLineEnd b with
    | true => rw [linesOf_cons_lineEnd hend, ← h.between, cellsFrom, Mode.react, if_pos hend]
    | false =>
        have hstart : Mode.react b .between = Mode.react b .cellStart := if_neg (by simp [hend])
        have hbegin : cellsFrom .between [] [] (b :: bs)
            = cellsFrom .cellStart [] [] (b :: bs) := by
          rw [cellsFrom, cellsFrom, hstart]
        rcases List.exists_cons_of_ne_nil (List.splitOnP_ne_nil isLineEnd bs) with
          ⟨line, rest, hsplit⟩
        rw [hbegin, h.within_cons hb (Or.inl rfl)]
        unfold linesOf
        rw [List.splitOnP_cons_eq_if_modifyHead, if_neg (by simp [hend]), hsplit]
        exact cellsWithin_begin [] (b :: line) rest

/-- Without quotes the reader divides bytes at line ends, and lines at commas. -/
theorem divided (h : quote ∉ bs) : Divided bs := by
  induction bs with
  | nil => exact divided_nil
  | cons b bs ih =>
      rw [List.mem_cons, not_or] at h
      exact (ih h.2).cons (Ne.symm h.1)

end Reading

/-- The records from here on are counted from the number of the first. -/
theorem map_number_records_scan (s : Scan) (bs : List UInt8) :
    (s.records bs).map (·.place.record)
      = List.range' s.place.record (s.records bs).length := by
  induction bs generalizing s with
  | nil =>
      unfold Scan.records
      split <;> rfl
  | cons b bs ih =>
      unfold Scan.records
      rcases s.mode.react b with ⟨effect, next⟩
      cases effect with
      | drop => exact ih _
      | keep => exact ih _
      | endCell => exact ih _
      | endRecord => exact congrArg (s.place.record :: ·) (ih _)

section Table

variable {bytes : List UInt8}

/-- The records of a table are counted from zero. -/
theorem number_of_record {i : Nat} {r : Record} (h : (records bytes)[i]? = some r) :
    r.place.record = i := by
  have hnumbers : (records bytes).map (·.place.record)
      = List.range' 0 (records bytes).length := map_number_records_scan _ _
  have hnumber : ((records bytes).map (·.place.record))[i]? = some r.place.record := by
    rw [List.getElem?_map, h]
    rfl
  rw [hnumbers, ← List.range_eq_range'] at hnumber
  rcases List.getElem?_eq_some_iff.mp hnumber with ⟨_, heq⟩
  exact heq.symm.trans (List.getElem_range _)

theorem mem_of_mem_body {b : UInt8} (h : b ∈ body bytes) : b ∈ bytes := by
  unfold body at h
  split at h
  · exact List.mem_of_mem_drop h
  · exact h

/-- Without quotes the records of a table are its lines, divided at the commas. -/
theorem map_cells_records_eq (h : quote ∉ bytes) :
    (records bytes).map Record.cells = (lines bytes).map cellsOf := by
  have hbody : quote ∉ body bytes := fun hmem => h (mem_of_mem_body hmem)
  unfold lines
  rw [← (divided hbody).between]
  unfold records body
  by_cases hmark : bytes.take byteOrderMark.length = byteOrderMark
  · simp only [hmark, beq_self_eq_true, if_true]
    exact map_cells_records _ _
  · simp only [beq_false_of_ne hmark, if_neg hmark, Bool.false_eq_true, if_false, List.drop_zero]
    exact map_cells_records _ _

/-- A line end parts the lines before it from those behind it. -/
theorem linesOf_append {before : List UInt8} {e : UInt8} (he : isLineEnd e = true)
    (after : List UInt8) : linesOf (before ++ e :: after) = linesOf before ++ linesOf after := by
  unfold linesOf
  rw [List.splitOnP_append_cons _ _ he, List.filter_append]

/-- A byte order mark holds no line end, so it stands before the first one or not at all. -/
theorem body_append {before : List UInt8} {e : UInt8} (he : isLineEnd e = true)
    (after : List UInt8) : body (before ++ e :: after) = body before ++ e :: after := by
  unfold body
  by_cases hlength : byteOrderMark.length ≤ before.length
  · rw [List.take_append_of_le_length hlength, List.drop_append_of_le_length hlength]
    split <;> rfl
  · have hshort : before.take byteOrderMark.length ≠ byteOrderMark := by
      intro heq
      have hlengths := congrArg List.length heq
      rw [List.length_take] at hlengths
      omega
    have hend : (before ++ e :: after).take byteOrderMark.length ≠ byteOrderMark := by
      intro heq
      have hmem : e ∈ byteOrderMark := by
        rw [← heq, List.take_append]
        obtain ⟨k, hk⟩ := Nat.exists_eq_add_of_lt (not_le.mp hlength)
        rw [hk]
        simp [Nat.add_assoc]
      have hnone : byteOrderMark.any isLineEnd = false := rfl
      rw [List.any_eq_true.mpr ⟨e, hmem, he⟩] at hnone
      cases hnone
    rw [if_neg hshort, if_neg hend]

/-- Lines stay what they are, whatever is put between them. -/
theorem lines_append {before : List UInt8} {e : UInt8} (he : isLineEnd e = true)
    (after : List UInt8) : lines (before ++ e :: after) = lines before ++ linesOf after := by
  unfold lines
  rw [body_append he, linesOf_append he]

end Table

end Csv

end BankLedger
