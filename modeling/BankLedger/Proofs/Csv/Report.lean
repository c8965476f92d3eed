import BankLedger.Proofs.Csv.Table
import BankLedger.Proofs.Decimal.Normal

/-!
# Reports Read Back

What a writer writes is the table of some records, and `written` is their list: the rows, and a
header wherever one is put. No row is a header, since its second cell is an account number. So the
rows are those of the lists in order, whatever is done about headers, and the headers are counted
apart from them.

A header is written for each list without rows and before the first row of all. With one list only
one of the two can happen. With more lists there is a header too many as soon as one of them has no
rows, because the header that stands for no rows is not remembered when the first row comes, and the
other way round.

A report begins with a letter, so it has no byte order mark and is read back as its records. This is
used twice: to see what one list of rows is read back as, and to see that two tables with different
records are different texts.

## Main definitions

* `Report.block`, `Report.written`: The records that are written for one list of rows and for
  several.
* `Report.headerCount`: How many of them are headers.
* `Report.OneHeader`: The text is the header and then the rows of all the lists.
* `Report.Tells`: The fields that are read are those of a row.

## Theorems

* `Report.writeAll_taking`: The text is the table of the records.
* `Report.filter_written`, `Report.count_written`: The rows and the headers among them.
* `Report.map_fields_header`: A table with the header on top is read back.
* `Report.oneHeader_iff`: When there is one header, and what is written when there is not.
* `Report.write_readBack`: One list of rows is read back.
-/

namespace BankLedger

namespace Report

open Csv (table table_append byteOrderMark)
open Text (toBytes toBytes_eq)

/-- The records that are written for a list of rows, when the header is still due or not. -/
def block (due : Bool) (rows : List Row) : List (List String) :=
  (if due || rows.isEmpty then [header] else []) ++ rows.map cells

/-- The records that are written for several lists of rows. -/
def written (due : Bool) : List (List Row) → List (List String)
  | [] => []
  | rows :: rest => block due rows ++ written (due && rows.isEmpty) rest

/-- The text for a list of rows is the table of its records. -/
theorem text_eq_table (w : Writer) (rows : List Row) :
    w.text rows = table (block w.headerDue rows) := by
  unfold Writer.text block
  rw [table_append]
  unfold table
  rw [List.map_map]
  cases rows with
  | nil => simp
  | cons r rows => cases w.headerDue <;> simp

/-- The text for several lists of rows is the table of the records. -/
theorem writeAll_taking (w : Writer) (calls : List (List Row)) :
    writeAll .taking w calls = .ok (table (written w.headerDue calls)) := by
  induction calls generalizing w with
  | nil => rfl
  | cons rows rest ih =>
      unfold writeAll written
      simp only [Writer.write, bind, Except.bind, ih (w.next rows), pure, Except.pure]
      rw [text_eq_table, table_append]
      rfl

section Written

/-- No row is a header: what stands in its second cell is an account number. -/
theorem cells_ne_header (r : Row) : cells r ≠ header := by
  intro heq
  have hnumber : r.2.number.text = "number" := (List.cons.inj (List.cons.inj heq).2).1
  have hform := r.2.number.wellFormed
  rw [hnumber] at hform
  exact absurd hform (by decide)

theorem length_of_mem_cells {rows : List Row} {record : List String}
    (h : record ∈ rows.map cells) : record.length = 5 := by
  rcases List.mem_map.mp h with ⟨r, -, rfl⟩
  rfl

theorem length_of_mem_block {due : Bool} {rows : List Row} {record : List String}
    (h : record ∈ block due rows) : record.length = 5 := by
  rcases List.mem_append.mp h with hheader | hrow
  · split at hheader
    · rw [List.mem_singleton.mp hheader]
      rfl
    · cases hheader
  · exact length_of_mem_cells hrow

/-- A header comes in front of the rows if it is due or there are none. -/
theorem count_block (due : Bool) (rows : List Row) :
    (block due rows).count header = if due || rows.isEmpty then 1 else 0 := by
  have hrows : (rows.map cells).count header = 0 := by
    refine List.count_eq_zero.mpr fun hmem => ?_
    rcases List.mem_map.mp hmem with ⟨r, -, heq⟩
    exact cells_ne_header r heq
  unfold block
  rw [List.count_append, hrows, Nat.add_zero]
  split
  · exact List.count_singleton_self
  · rfl

theorem filter_block (due : Bool) (rows : List Row) :
    (block due rows).filter (· ≠ header) = rows.map cells := by
  have hrows : (rows.map cells).filter (· ≠ header) = rows.map cells := by
    refine List.filter_eq_self.mpr fun record hrecord => ?_
    rcases List.mem_map.mp hrecord with ⟨r, -, rfl⟩
    exact decide_eq_true (cells_ne_header r)
  unfold block
  rw [List.filter_append, hrows]
  split
  · rw [List.filter_cons_of_neg (by simp), List.filter_nil, List.nil_append]
  · rfl

variable (due : Bool) (calls : List (List Row))

theorem length_of_mem_written {record : List String} (h : record ∈ written due calls) :
    record.length = 5 := by
  induction calls generalizing due with
  | nil => cases h
  | cons rows rest ih =>
      rcases List.mem_append.mp h with hblock | hrest
      · exact length_of_mem_block hblock
      · exact ih _ hrest

/-- Without the headers, the rows of all the lists are left, in order. -/
theorem filter_written : (written due calls).filter (· ≠ header) = calls.flatten.map cells := by
  induction calls generalizing due with
  | nil => rfl
  | cons rows rest ih =>
      rw [written, List.filter_append, filter_block, ih, List.flatten_cons, List.map_append]

/-- One header for each list without rows, and one before the first row of all. -/
def headerCount (calls : List (List Row)) : Nat :=
  calls.countP List.isEmpty + if calls.all List.isEmpty then 0 else 1

-- The lists before the first row have none, so the header stays due until then.
/-- The headers that are written, when the first one is still due or not. -/
theorem count_written : (written due calls).count header =
    if due then headerCount calls else calls.countP List.isEmpty := by
  unfold headerCount
  induction calls generalizing due with
  | nil => cases due <;> rfl
  | cons rows rest ih =>
      rw [written, List.count_append, count_block, ih, List.countP_cons, List.all_cons]
      cases rows with
      | nil =>
          cases due with
          | false => simp [Nat.add_comm]
          | true =>
              simp only [List.isEmpty_nil, Bool.or_self, Bool.and_self, Bool.true_and, if_true]
              omega
      | cons r rows =>
          cases due with
          | false => simp
          | true => simp [Nat.add_comm]

/-- The first list gives a header, with rows or without. Behind it are the rows, and the headers
    that are left. -/
theorem exists_written_eq_cons {calls : List (List Row)} (h : calls ≠ []) :
    ∃ rest, written true calls = header :: rest ∧
      rest.filter (· ≠ header) = calls.flatten.map cells ∧
      rest.count header + 1 = headerCount calls := by
  have hcount := count_written true calls
  have hfilter := filter_written true calls
  have htop : ∃ rest, written true calls = header :: rest := by
    cases calls with
    | nil => exact absurd rfl h
    | cons rows rest => exact ⟨_, rfl⟩
  rcases htop with ⟨rest, hrest⟩
  rw [hrest, List.filter_cons_of_neg (by simp)] at hfilter
  rw [hrest, List.count_cons_self, if_pos rfl] at hcount
  exact ⟨rest, hrest, hfilter, hcount⟩

/-- There is one header if there is one list, or if all of them have rows. -/
theorem headerCount_eq_one_iff {calls : List (List Row)} (h : calls ≠ []) :
    headerCount calls = 1 ↔ calls.length = 1 ∨ ∀ rows ∈ calls, rows ≠ [] := by
  unfold headerCount
  by_cases hnone : calls.all List.isEmpty = true
  · have hlength : calls.countP List.isEmpty = calls.length :=
      List.countP_eq_length.mpr (List.all_eq_true.mp hnone)
    rw [if_pos hnone, hlength, Nat.add_zero]
    constructor
    · exact Or.inl
    · rintro (hone | hrows)
      · exact hone
      · rcases List.exists_mem_of_ne_nil calls h with ⟨rows, hmem⟩
        exact absurd (List.isEmpty_iff.mp (List.all_eq_true.mp hnone rows hmem)) (hrows rows hmem)
  · rw [if_neg hnone, Nat.add_eq_right, List.countP_eq_zero]
    simp only [List.isEmpty_iff]
    constructor
    · exact Or.inr
    · rintro (hone | hrows)
      · rcases List.length_eq_one_iff.mp hone with ⟨rows, rfl⟩
        intro rows' hmem hempty
        rw [List.mem_singleton.mp hmem] at hempty
        rw [hempty] at hnone
        exact hnone rfl
      · exact hrows

end Written

section ReadBack

variable {records : List (List String)}

/-- A report begins with a letter. -/
theorem take_toBytes_ne_mark (records : List (List String)) :
    (toBytes (table (header :: records))).take 3 ≠ byteOrderMark := by
  have hcell : toBytes (Csv.cellText "account") = 0x61 :: toBytes "ccount" := by
    rw [toBytes_eq, toBytes_eq]
    rfl
  rw [Csv.toBytes_table_cons, header, Csv.toBytes_line_cons, hcell]
  intro hmark
  exact absurd (List.cons.inj hmark).1 (by decide)

/-- A table with the header on top is read back. -/
theorem map_fields_header (h : ∀ record ∈ records, record.length = 5) :
    (Csv.records (toBytes (table (header :: records)))).map Csv.Record.fields =
      (header :: records).map (List.map Except.ok) := by
  refine Csv.map_fields_table ?_ (take_toBytes_ne_mark records)
  intro record hrecord
  rcases List.mem_cons.mp hrecord with rfl | hmem
  · exact (by decide : 2 ≤ header.length)
  · rw [h record hmem]
    decide

/-- Tables with different records are different texts. -/
theorem records_eq_of_table_eq {others : List (List String)}
    (h : ∀ record ∈ records, record.length = 5) (hothers : ∀ record ∈ others, record.length = 5)
    (heq : table (header :: records) = table (header :: others)) : records = others := by
  have hread := map_fields_header h
  rw [heq, map_fields_header hothers] at hread
  have hinj : Function.Injective (List.map (Except.ok : String → Except Nat String)) :=
    List.map_injective_iff.mpr fun _ _ => Except.ok.inj
  exact (List.cons.inj (List.map_injective_iff.mpr hinj hread)).2.symm

end ReadBack

section OneHeader

variable {calls : List (List Row)}

/-- The text for several lists of rows is the header and then the rows of all of them. -/
def OneHeader (calls : List (List Row)) : Prop :=
  writeAll .taking .new calls = .ok (table (header :: calls.flatten.map cells))

/-- It comes down to the number of the headers, because they and the rows are told apart. -/
theorem oneHeader_iff_count (h : calls ≠ []) : OneHeader calls ↔ headerCount calls = 1 := by
  rcases exists_written_eq_cons h with ⟨rest, hwritten, hfilter, hcount⟩
  have htext : writeAll .taking .new calls = .ok (table (header :: rest)) :=
    hwritten ▸ writeAll_taking .new calls
  unfold OneHeader
  rw [htext, Except.ok.injEq, ← hcount, Nat.add_eq_right]
  constructor
  · intro htable
    have hrest : ∀ record ∈ rest, record.length = 5 := fun record hmem =>
      length_of_mem_written true calls (hwritten ▸ List.mem_cons_of_mem _ hmem)
    have hrows := records_eq_of_table_eq hrest (fun _ => length_of_mem_cells) htable
    rw [hrows, ← hfilter, List.count_eq_zero]
    intro hmem
    exact absurd rfl (of_decide_eq_true (List.mem_filter.mp hmem).2)
  · intro hzero
    have hself : rest.filter (· ≠ header) = rest :=
      List.filter_eq_self.mpr fun record hmem =>
        decide_eq_true fun heq => List.count_eq_zero.mp hzero (heq ▸ hmem)
    rw [← hfilter, hself]

/-- For several lists of rows, of which there is at least one, the text is the header and then their
    rows exactly if there is only one list or all of them have rows. In every case it begins with
    the header, the rows come all and in order, and between them are the headers that are left: one
    for each list without rows and one before the first row, less the one on top. -/
theorem oneHeader_iff (h : calls ≠ []) :
    (OneHeader calls ↔ calls.length = 1 ∨ ∀ rows ∈ calls, rows ≠ []) ∧
    ∃ records, writeAll .taking .new calls = .ok (table (header :: records)) ∧
      records.filter (· ≠ header) = calls.flatten.map cells ∧
      records.count header + 1 = headerCount calls := by
  refine ⟨(oneHeader_iff_count h).trans (headerCount_eq_one_iff h), ?_⟩
  rcases exists_written_eq_cons h with ⟨rest, hwritten, hrest⟩
  exact ⟨rest, hwritten ▸ writeAll_taking .new calls, hrest⟩

/-- The row of a new account. -/
def newRow (name : String) : Row :=
  (name, .start default default .checking "NGN" ⟨"40-2611-0875", by decide⟩ .zero .epoch)

/-- Three lists, all of them with rows. -/
def threeLists : List (List Row) :=
  [[newRow "rent"], [newRow "savings", newRow "tax"], [newRow "car"]]

/-- They give the header once, and then all four rows. -/
theorem oneHeader_threeLists : threeLists ≠ [] ∧ (∀ rows ∈ threeLists, rows ≠ []) ∧
    OneHeader threeLists ∧ threeLists.flatten.length = 4 := by
  have hlists : threeLists ≠ [] := List.cons_ne_nil _ _
  have hrows : ∀ rows ∈ threeLists, rows ≠ [] := by simp [threeLists]
  exact ⟨hlists, hrows, (oneHeader_iff hlists).1.mpr (Or.inr hrows), rfl⟩

/-- Two lists without rows give it twice. -/
theorem not_oneHeader_twoEmpty : [([] : List Row), []] ≠ [] ∧ ¬ OneHeader [[], []] := by
  refine ⟨by decide, ?_⟩
  rw [oneHeader_iff_count (by decide)]
  decide

end OneHeader

/-- The fields that are read are those of a row: its texts as they are, and a numeral for each
    balance. -/
def Tells (r : Row) (fields : List (Except Nat String)) : Prop :=
  ∃ balance available,
    fields = [r.1, r.2.number.text, r.2.status.name, balance, available].map Except.ok ∧
    Decimal.WritesNormally balance r.2.balance ∧ Decimal.WritesNormally available r.2.available

/-- A new writer writes a list of rows as a table that is read back as the header and one record for
    each row, in order, that tells its alias, number, status and balances. -/
theorem write_readBack (rows : List Row) : ∃ text w first rest,
    Writer.new.write .taking rows = .ok (text, w) ∧
    Csv.records (toBytes text) = first :: rest ∧ first.fields = header.map Except.ok ∧
    List.Forall₂ (fun r record => Tells r record.fields) rows rest := by
  have htext : Writer.new.text rows = table (header :: rows.map cells) :=
    text_eq_table .new rows
  have hlength : ∀ record ∈ rows.map cells, record.length = 5 := fun _ => length_of_mem_cells
  have hread := map_fields_header hlength
  rw [← htext, List.map_cons (a := header)] at hread
  rcases List.map_eq_cons_iff.mp hread with ⟨first, rest, hrecords, hfirst, hrest⟩
  refine ⟨_, _, first, rest, rfl, hrecords, hfirst, ?_⟩
  refine List.forall₂_map_right_iff.mp ?_
  rw [hrest, List.map_map, List.forall₂_map_right_iff, List.forall₂_same]
  intro r _
  exact ⟨_, _, rfl, Decimal.writesNormally_normalize r.2.balance,
    Decimal.writesNormally_normalize r.2.available⟩

end Report

end BankLedger
