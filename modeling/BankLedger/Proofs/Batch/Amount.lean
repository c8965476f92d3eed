import BankLedger.Batch.Command
import BankLedger.Proofs.Csv.Numeral

/-!
# Amounts of a Batch

A record of a batch is read cell by cell: the cell has to be text, the blanks around it are taken
off, and what is left is read by the column it stands under. An amount that is written as a plain
numeral comes out as the number that was written when that number survives, and only then.

So the batch does not read every amount that a decimal can hold. A whole number past 64 bits is
refused, and a fraction with more than fifteen digits may come out as another number without any
error.

## Main definitions

* `Csv.Record.textAt`: The text of a cell.
* `Command.AmountRow`: A record of a batch has this operation and this numeral for its amount.
* `Command.ReadsAmount`: The record is read as a command with this number for its amount.

## Theorems

* `Csv.Record.texts_eq_ok`: The texts of a record are the texts of its cells.
* `Command.ofRow_columns`: What a record of at least three cells is read as.
* `Command.readsAmount_iff`: Which amounts are read as they are written.
-/

namespace BankLedger

namespace Csv

/-- The text of a cell without the blanks around it, if the cell is text. -/
def trimmedText (cell : List UInt8) : Option String :=
  (Text.decodeUtf8 (Text.trimBytes cell)).toOption.map Text.trim

/-- The text of one cell of a record. -/
def Record.textAt (r : Record) (j : Nat) : Option String := r.cells[j]?.bind trimmedText

theorem textsFrom_eq_ok {number : Nat} {cells : List (List UInt8)} {texts : List String}
    (h : textsFrom number cells = .ok texts) : cells.map trimmedText = texts.map some := by
  -- The number of the cell is wanted for its fault only, so it is generalised.
  induction cells generalizing number texts with
  | nil =>
      cases h
      rfl
  | cons c cs ih =>
      unfold textsFrom at h
      split at h
      · cases h
      · next s hs =>
          rcases hrest : textsFrom (number + 1) cs with e | rest
          · rw [hrest] at h
            cases h
          · rw [hrest] at h
            cases h
            have hc : trimmedText c = some (Text.trim s) := by
              unfold trimmedText
              rw [hs]
              rfl
            rw [List.map_cons, List.map_cons, hc, ih hrest]

/-- The texts of a record are the texts of its cells. -/
theorem Record.texts_eq_ok {r : Record} {texts : List String} (h : r.texts = .ok texts) (j : Nat) :
    r.textAt j = texts[j]? := by
  unfold Record.texts at h
  split at h
  · next cells hcells =>
      cases h
      have hmap := congrArg (·[j]?) (textsFrom_eq_ok hcells)
      simp only [List.getElem?_map] at hmap
      have hbind : r.cells[j]?.bind trimmedText = (r.cells[j]?.map trimmedText).bind id := by
        rw [Option.bind_map, Function.id_comp]
      unfold textAt
      rw [hbind, hmap]
      cases texts[j]? <;> rfl
  · cases h

end Csv

namespace Command

theorem readOperation_name (op : Operation) : readOperation op.name = .ok op := by
  cases op <;> rfl

/-- What a record of at least three cells is read as, under the five columns. -/
theorem ofRow_columns (s account amount : String) (rest : List String) :
    ofRow (columns.map Column.name) (s :: account :: amount :: rest) =
      match readOperation s, readAmount (some amount) with
      | .error e, _ => .error e
      | .ok _, .error e => .error e
      | .ok op, .ok a => .ok ⟨op, account, a, readText rest[0]?, readText rest[1]?⟩ := by
  have hnames : columns.map Column.name = ["op", "account", "amount", "reference", "detail"] := rfl
  have hop : columns.find? (·.name == "op") = some .op := by decide
  have haccount : columns.find? (·.name == "account") = some .account := by decide
  have hamount : columns.find? (·.name == "amount") = some .amount := by decide
  have hreference : columns.find? (·.name == "reference") = some .reference := by decide
  have hdetail : columns.find? (·.name == "detail") = some .detail := by decide
  rw [hnames]
  unfold ofRow
  simp only [readRow, hop, haccount, hamount, hreference, hdetail, Draft.set, List.head?_cons,
    List.tail_cons]
  cases readOperation s with
  | error e => rfl
  | ok op =>
      cases readAmount (some amount) with
      | error e => rfl
      | ok a =>
          -- The last two columns may be absent.
          rcases rest with _ | ⟨reference, _ | ⟨detail, _⟩⟩ <;> rfl

/-- The amount of a cell that holds a numeral. -/
theorem readAmount_text (z : Csv.Numeral) {a : Option Decimal} :
    readAmount (some z.text) = .ok a ↔ ∃ b, Csv.amountOf z.text = .ok b ∧ a = some b := by
  have hempty : z.text.isEmpty = false := by
    rw [Bool.eq_false_iff, ne_eq, String.isEmpty_iff]
    exact z.text_ne_empty
  unfold readAmount
  simp only [hempty, Bool.false_eq_true, if_false]
  cases Csv.amountOf z.text with
  | error cell => simp
  | ok b =>
      simp only [Except.ok.injEq, exists_eq_left']
      exact eq_comm

/-- The record behind the header is the text of an operation and of a numeral. -/
structure AmountRow (bytes : List UInt8) (i : Nat) (op : Operation) (z : Csv.Numeral) : Prop where
  /-- The first record names the columns. -/
  header : (Csv.records bytes).head?.bind headerOf = some (columns.map Column.name)
  /-- The operation is written in the first cell. -/
  operation : (Csv.records bytes)[i + 1]?.bind (·.textAt 0) = some op.name
  /-- The numeral is written in the third cell. -/
  amount : (Csv.records bytes)[i + 1]?.bind (·.textAt 2) = some z.text

/-- The record is read as a command with this operation and this number for its amount. -/
def ReadsAmount (bytes : List UInt8) (i : Nat) (op : Operation) (z : Csv.Numeral) : Prop :=
  ∃ c a, (readAll bytes)[i]? = some (.ok c) ∧ c.op = op ∧ c.amount = some a ∧ a.toRat = z.toRat

/-- All cells of the record are text. -/
def IsText (bytes : List UInt8) (i : Nat) : Prop :=
  ∃ row cells, (Csv.records bytes)[i + 1]? = some row ∧ row.texts = .ok cells

theorem readAll_getElem? {bytes : List UInt8} {names : List String}
    (h : (Csv.records bytes).head?.bind headerOf = some names) (i : Nat) :
    (readAll bytes)[i]? = (Csv.records bytes)[i + 1]?.map (ofRecord (some names)) := by
  unfold readAll
  cases hrecords : Csv.records bytes with
  | nil =>
      rw [hrecords] at h
      cases h
  | cons header rows =>
      rw [hrecords, List.head?_cons, Option.bind_some] at h
      rw [List.getElem?_map, h, List.getElem?_cons_succ]

/-- A record that is text is read as a command when its amount is read. -/
theorem ofRecord_eq_ok_iff {row : Csv.Record} {cells : List String} (hcells : row.texts = .ok cells)
    {op : Operation} (hop : row.textAt 0 = some op.name) {z : Csv.Numeral}
    (hz : row.textAt 2 = some z.text) (a : Decimal) :
    (∃ c, ofRecord (some (columns.map Column.name)) row = .ok c ∧ c.op = op ∧ c.amount = some a) ↔
      Csv.amountOf z.text = .ok a := by
  rw [Csv.Record.texts_eq_ok hcells] at hop hz
  -- The amount is in the third cell, so there are at least three.
  rcases cells with _ | ⟨s, _ | ⟨account, _ | ⟨amount, rest⟩⟩⟩
  · cases hop
  · cases hz
  · cases hz
  · cases hop
    cases hz
    unfold ofRecord
    rw [hcells]
    simp only
    rw [ofRow_columns, readOperation_name]
    cases hread : readAmount (some z.text) with
    | error e =>
        refine iff_of_false ?_ ?_
        · rintro ⟨c, hc, _⟩
          cases hc
        · intro ha
          rw [(readAmount_text z).mpr ⟨a, ha, rfl⟩] at hread
          cases hread
    | ok b =>
        rcases (readAmount_text z).mp hread with ⟨b, hb, rfl⟩
        rw [hb]
        constructor
        · rintro ⟨c, hc, _, hamount⟩
          cases hc
          rw [Option.some.inj hamount]
        · intro ha
          cases ha
          exact ⟨_, rfl, rfl, rfl⟩

/-- Which amounts are read as they are written: those that survive, in a record that is text. -/
theorem readsAmount_iff {bytes : List UInt8} {i : Nat} {op : Operation} {z : Csv.Numeral}
    (h : AmountRow bytes i op z) (hrep : Decimal.Representable z.toRat) :
    ReadsAmount bytes i op z ↔ IsText bytes i ∧ z.Survives := by
  unfold ReadsAmount
  rw [readAll_getElem? h.header, ← Csv.Numeral.amountOf_eq_ok_iff z hrep]
  rcases Option.bind_eq_some_iff.mp h.operation with ⟨row, hrow, hop⟩
  have hz := h.amount
  rw [hrow, Option.bind_some] at hz
  rw [hrow, Option.map_some]
  unfold IsText
  constructor
  · rintro ⟨c, a, hc, hcop, hamount, hnumber⟩
    rcases hcells : row.texts with fault | cells
    · -- A record that is no text is no command either.
      have hfault : ofRecord (some (columns.map Column.name)) row = .error (.csv fault) := by
        unfold ofRecord
        rw [hcells]
      rw [hfault] at hc
      cases hc
    · have ha := (ofRecord_eq_ok_iff hcells hop hz a).mp ⟨c, Option.some.inj hc, hcop, hamount⟩
      exact ⟨⟨row, cells, hrow, hcells⟩, a, ha, hnumber⟩
  · rintro ⟨⟨row', cells, hrow', hcells⟩, a, ha, hnumber⟩
    rw [hrow] at hrow'
    cases hrow'
    rcases (ofRecord_eq_ok_iff hcells hop hz a).mpr ha with ⟨c, hc, hcop, hamount⟩
    exact ⟨c, a, by rw [hc], hcop, hamount, hnumber⟩

/-- A batch of one credit. -/
def creditOf (z : Csv.Numeral) : List UInt8 :=
  Text.toBytes ("op,account,amount,reference,detail\ncredit,a," ++ z.text ++ ",,\n")

/-- One quarter, with a plus and a zero at the end. -/
def quarter : Csv.Numeral := ⟨some false, ['0'], some ['2', '5', '0'], by decide, by decide⟩

/-- A quarter is read as a quarter. -/
theorem readsAmount_quarter :
    AmountRow (creditOf quarter) 0 .credit quarter ∧ Decimal.Representable quarter.toRat ∧
      ReadsAmount (creditOf quarter) 0 .credit quarter := by
  have hrow : AmountRow (creditOf quarter) 0 .credit quarter :=
    ⟨by decide +kernel, by decide +kernel, by decide +kernel⟩
  have hcoef : quarter.coefficient = 25 * 10 ^ 1 := by decide
  have hrep : Decimal.Representable quarter.toRat := by
    refine ⟨⟨false, 25, 2, by decide, by decide⟩, ?_⟩
    have hscale : quarter.scale = 3 := rfl
    have hsign : quarter.negative = false := rfl
    unfold Csv.Numeral.toRat Decimal.signed
    rw [hcoef, hscale, hsign, Decimal.toRat_eq]
    norm_num [Decimal.units]
  have htext : IsText (creditOf quarter) 0 := by
    have hsome : ((Csv.records (creditOf quarter))[0 + 1]?.bind (·.texts.toOption)).isSome := by
      decide +kernel
    rcases Option.isSome_iff_exists.mp hsome with ⟨cells, hcells⟩
    rcases Option.bind_eq_some_iff.mp hcells with ⟨row, hrow, htexts⟩
    refine ⟨row, cells, hrow, ?_⟩
    cases hok : row.texts with
    | error fault =>
        rw [hok] at htexts
        cases htexts
    | ok texts =>
        rw [hok] at htexts
        cases htexts
        rfl
  have hsurvives : quarter.Survives :=
    Csv.Numeral.survives_of_digits rfl hrep (m := 25) (by norm_num) hcoef
  exact ⟨hrow, hrep, (readsAmount_iff hrow hrep).mpr ⟨htext, hsurvives⟩⟩

/-- Nineteen digits, two of them behind the point. -/
def longFraction : Csv.Numeral :=
  ⟨none, "12345678901234567".toList, some ['8', '9'], by decide, by decide⟩

/-- An amount that a decimal holds exactly is read as another one, without an error. -/
theorem not_readsAmount_longFraction :
    AmountRow (creditOf longFraction) 0 .credit longFraction ∧
      Decimal.Representable longFraction.toRat ∧
      (readAll (creditOf longFraction)).map Except.toOption = [some ⟨.credit, "a",
        some ⟨false, 12345678901234568, 0, by decide, by decide⟩, none, none⟩] ∧
      ¬ ReadsAmount (creditOf longFraction) 0 .credit longFraction := by
  have hcoef : longFraction.coefficient = 1234567890123456789 := by decide
  have hnumber : longFraction.toRat = 1234567890123456789 / 100 := by
    have hscale : longFraction.scale = 2 := rfl
    have hsign : longFraction.negative = false := rfl
    unfold Csv.Numeral.toRat Decimal.signed
    rw [hcoef, hscale, hsign]
    norm_num
  have hread : (readAll (creditOf longFraction)).map Except.toOption = [some ⟨.credit, "a",
      some ⟨false, 12345678901234568, 0, by decide, by decide⟩, none, none⟩] := by
    decide +kernel
  refine ⟨⟨by decide +kernel, by decide +kernel, by decide +kernel⟩, ?_, hread, ?_⟩
  · refine ⟨⟨false, 1234567890123456789, 2, by decide, by decide⟩, ?_⟩
    rw [hnumber, Decimal.toRat_eq]
    norm_num [Decimal.units]
  · rintro ⟨c, a, hc, _, hamount, ha⟩
    have hfirst := congrArg (·[0]?) hread
    simp only [List.getElem?_map, hc, Option.map_some, List.getElem?_cons_zero, Except.toOption,
      Option.some.injEq] at hfirst
    rw [hfirst, Option.some.injEq] at hamount
    rw [← hamount, hnumber, Decimal.toRat_eq] at ha
    norm_num [Decimal.units] at ha

end Command

end BankLedger
