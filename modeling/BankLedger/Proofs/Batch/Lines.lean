import BankLedger.CommandLine.Session
import BankLedger.Proofs.Batch.Refinement
import BankLedger.Proofs.Csv.Line

/-!
# Batches by Lines

A row of a batch may be spoiled: it names no operation, its amount is none, cells are missing, or
its bytes are no text. Such a row must not spoil others. What is read of a row hangs on the header
and on the bytes of the row itself, so rows may come and go, and be spoiled, and every other one
gives the command that it gave before, or the same error. The reader keeps no state that a bad row
could leave behind, as long as there are no quotes, which would let a cell go on over line ends.

Only the place of a record is not its own. An error says where its record begins, and this hangs on
all that comes before. It is left out where results are compared; what is said of it is that its
number is the one by which the session counts the record.

The session takes the results one after the other. One that is no command leaves the batch as it is,
so in the end the batch is what the runner has made of it by carrying the commands of the good rows
out, and the log has the number of every row that gave an error or was refused. In between the
events are taken from the queue, and no command can see that, so the report is the one of a batch in
which nobody takes them.

## Main definitions

* `Command.verdict`: What is read of a record, wherever it stands.
* `Command.SameEverywhere`: What is read does not hang on the place.
* `Command.ofLine`: What is read of a line under a header.
* `Batch.carryOut`: The batch after some commands, whose events are taken.
* `Session.complaints`: What is to be said of a record.
* `Command.Isolates`: What holds of a batch whose rows are isolated from each other.

## Theorems

* `Command.map_verdict_readAll`: The results of a batch are those of its lines.
* `Command.number_of_error`: An error names the number of its record.
* `Batch.report_carryOut`: Who takes the events does not change the report.
* `Session.runRecords_snd`: The session carries the commands out, and nothing else.
* `Session.filter_runRecords`: What the session logs, and under which number.
* `Command.isolates`: The rows of a batch without quotes are isolated from each other.
-/

namespace BankLedger

namespace Csv

/-- The place at which a table begins. -/
def Place.origin : Place := ⟨0, 1, 0⟩

namespace Fault

/-- The place of the record, if the fault has one. -/
def place? : Fault → Option Place
  | .notCommand p _ => some p
  | .notText p _ _ => some p
  | .sinkClosed => none

/-- The fault, as it would be at the beginning of a table. -/
def unplaced : Fault → Fault
  | .notCommand _ cause => .notCommand .origin cause
  | .notText _ cell valid => .notText .origin cell valid
  | .sinkClosed => .sinkClosed

end Fault

end Csv

/-- The error, as it would be at the beginning of a table. -/
def LedgerError.unplaced : LedgerError → LedgerError
  | .csv f => .csv f.unplaced
  | e => e

namespace Command

open Csv (Cause Fault Place cellsOf lines quote records)

/-- What is read of a record, wherever it stands: a command, or an error without its place. -/
def verdict (result : Except LedgerError Command) : Except LedgerError Command :=
  result.mapError LedgerError.unplaced

/-- What is read of a line under a header. -/
def ofLine (header line : List UInt8) : Except LedgerError Command :=
  ofRecord (headerOf ⟨.origin, cellsOf header⟩) ⟨.origin, cellsOf line⟩

/-- The line with the names of the columns. -/
def headerLine (bytes : List UInt8) : List UInt8 := (lines bytes).headD []

/-- The lines behind it. -/
def dataLines (bytes : List UInt8) : List (List UInt8) := (lines bytes).tail

/-- The commands of the good lines. -/
def commandsOf (bytes : List UInt8) : List Command :=
  (dataLines bytes).filterMap fun line => (ofLine (headerLine bytes) line).toOption

section Reading

variable {bytes : List UInt8}

/-- The names of the columns do not hang on the place of the header. -/
theorem headerOf_eq (r : Csv.Record) : headerOf r = headerOf ⟨.origin, r.cells⟩ := by
  unfold headerOf Csv.Record.texts
  cases Csv.textsFrom 0 r.cells <;> rfl

/-- What is read is the same in all places, but that an error names the place. -/
def SameEverywhere (read : Place → Except LedgerError Command) : Prop :=
  (∃ f : Place → Fault, (∀ p, (f p).place? = some p ∧ (f p).unplaced = f .origin) ∧
    ∀ p, read p = .error (.csv (f p))) ∨ ∃ c, ∀ p, read p = .ok c

theorem sameEverywhere_ofRecord (header : Option (List String)) (cells : List (List UInt8)) :
    SameEverywhere fun p => ofRecord header ⟨p, cells⟩ := by
  unfold ofRecord Csv.Record.texts
  simp only
  cases Csv.textsFrom 0 cells with
  | error fault =>
      exact Or.inl ⟨fun p => .notText p fault.1 fault.2, fun _ => ⟨rfl, rfl⟩, fun _ => rfl⟩
  | ok texts =>
      have hcommand (command : Except Cause Command) : SameEverywhere fun p =>
          command.mapError fun cause => .csv (.notCommand p cause) := by
        cases command with
        | error cause =>
            exact Or.inl ⟨fun p => .notCommand p cause, fun _ => ⟨rfl, rfl⟩, fun _ => rfl⟩
        | ok c => exact Or.inr ⟨c, fun _ => rfl⟩
      exact hcommand _

theorem SameEverywhere.verdict_eq {read : Place → Except LedgerError Command}
    (h : SameEverywhere read) (p : Place) : verdict (read p) = read .origin := by
  rcases h with ⟨f, hf, hread⟩ | ⟨c, hread⟩
  · rw [hread p, hread .origin, ← (hf p).2]
    rfl
  · rw [hread p, hread .origin]
    rfl

/-- Every error names the place of its record. -/
theorem SameEverywhere.place_of_error {read : Place → Except LedgerError Command}
    (h : SameEverywhere read) {p : Place} {e : LedgerError} (herror : read p = .error e) :
    ∃ f, e = .csv f ∧ f.place? = some p := by
  rcases h with ⟨f, hf, hread⟩ | ⟨c, hread⟩
  · cases herror.symm.trans (hread p)
    exact ⟨f p, rfl, (hf p).1⟩
  · cases herror.symm.trans (hread p)

-- The first line is the header and gives no result. When there is none there are no results.
/-- The results of a batch without quotes are those of its lines. -/
theorem map_verdict_readAll (h : quote ∉ bytes) :
    (readAll bytes).map verdict = (dataLines bytes).map (ofLine (headerLine bytes)) := by
  have hcells := Csv.map_cells_records_eq h
  unfold readAll dataLines headerLine
  generalize records bytes = rs at hcells
  generalize lines bytes = ls at hcells
  rcases rs with _ | ⟨header, rest⟩
  · rw [List.map_eq_nil_iff.mp hcells.symm]
    rfl
  · rcases ls with _ | ⟨line, later⟩
    · cases hcells
    · rcases List.cons.inj hcells with ⟨hheader, hrest⟩
      -- The names of the columns are those of the first line.
      have hread (r : Csv.Record) : verdict (ofRecord (headerOf header) r)
          = ofRecord (headerOf ⟨.origin, cellsOf line⟩) ⟨.origin, r.cells⟩ := by
        rw [headerOf_eq header, hheader]
        exact (sameEverywhere_ofRecord _ r.cells).verdict_eq r.place
      calc (rest.map (ofRecord (headerOf header))).map verdict
          = (rest.map Csv.Record.cells).map
              fun cells => ofRecord (headerOf ⟨.origin, cellsOf line⟩) ⟨.origin, cells⟩ := by
            simp only [List.map_map, Function.comp_def, hread]
        _ = later.map (ofLine line) := by
            rw [hrest, List.map_map]
            rfl

/-- An error names its record by the number, which is counted from one. -/
theorem number_of_error {i : Nat} {e : LedgerError} (h : (readAll bytes)[i]? = some (.error e)) :
    ∃ f p, e = .csv f ∧ f.place? = some p ∧ p.record = i + 1 := by
  have hnumber (r : Csv.Record) (hr : (records bytes)[i + 1]? = some r) :
      r.place.record = i + 1 := Csv.number_of_record hr
  unfold readAll at h
  generalize records bytes = rs at h hnumber
  rcases rs with _ | ⟨header, rest⟩
  · cases h
  · rw [List.getElem?_map, Option.map_eq_some_iff] at h
    rcases h with ⟨r, hr, herror⟩
    rcases (sameEverywhere_ofRecord _ r.cells).place_of_error herror with ⟨f, rfl, hplace⟩
    exact ⟨f, r.place, rfl, hplace, hnumber r hr⟩

end Reading

end Command

namespace Batch

/-- The batch with another queue. -/
def withOutbox (b : Batch) (o : Outbox) : Batch := { b with world := b.world.withOutbox o }

/-- The batch without the events that wait. -/
def emptied (b : Batch) : Batch := b.withOutbox { b.world.outbox with waiting := [] }

/-- The batch after some commands. They are carried out one after the other, and behind each of them
    the events are taken. -/
def carryOut (b : Batch) (commands : List Command) : Batch :=
  commands.foldl (fun b c => (b.after c).emptied) b

theorem after_withOutbox (b : Batch) (o : Outbox) (c : Command) :
    ∃ o', (b.withOutbox o).after c = (b.after c).withOutbox o' := by
  rcases (b.runner.apply b.settings c).runAlone_withOutbox b.world o with ⟨o', hrun⟩
  refine ⟨o', ?_⟩
  unfold after withOutbox
  simp only [hrun]

theorem report_withOutbox (b : Batch) (o : Outbox) : (b.withOutbox o).report = b.report := by
  rcases b.runner.report.runAlone_withOutbox b.world o with ⟨o', hrun⟩
  unfold report withOutbox
  simp only [hrun]

-- By induction on the commands, with any queue to begin with, because the two queues are different
-- from the second command on.
/-- To take the events away makes no difference but to the queue. -/
theorem exists_carryOut_eq (b : Batch) (o : Outbox) (commands : List Command) :
    ∃ o', (b.withOutbox o).carryOut commands = (b.afterAll commands).withOutbox o' := by
  induction commands generalizing b o with
  | nil => exact ⟨o, rfl⟩
  | cons c rest ih =>
      rcases after_withOutbox b o c with ⟨o', hafter⟩
      have hfirst : ((b.withOutbox o).after c).emptied
          = (b.next (.ok c)).2.withOutbox { o' with waiting := [] } := by
        rw [hafter, next_ok]
        rfl
      rcases ih (b.next (.ok c)).2 { o' with waiting := [] } with ⟨o'', hrest⟩
      rw [← hfirst] at hrest
      exact ⟨o'', hrest⟩

/-- So the report is the same. -/
theorem report_carryOut (b : Batch) (commands : List Command) :
    (b.carryOut commands).report = (b.afterAll commands).report := by
  rcases exists_carryOut_eq b b.world.outbox commands with ⟨o, hcarried⟩
  exact (congrArg report hcarried).trans (report_withOutbox _ o)

end Batch

/-- The entry tells of an event that was published. -/
def LogEntry.isPublished : LogEntry → Bool
  | .published _ => true
  | _ => false

namespace Session

/-- What is to be said of a record that has this number: it is no command, or its command was
    refused when the runner carried it out. -/
def complaints (number : Nat) (b : Batch) : Except LedgerError Command → List LogEntry
  | .error e => [.unreadable number e]
  | .ok c =>
      match ((b.runner.apply b.settings c).runAlone b.world).1 with
      | .error e => [.refused number e]
      | .ok _ => []

variable {b : Batch}

/-- A record that is no command leaves the batch as it is, when no events wait. -/
theorem carryOut_cons (h : b.world.outbox.waiting = []) (record : Except LedgerError Command)
    (rest : List (Except LedgerError Command)) :
    b.carryOut ((record :: rest).filterMap Except.toOption)
      = (b.next record).2.drain.2.carryOut (rest.filterMap Except.toOption) := by
  cases record with
  | ok c =>
      rw [Batch.next_ok]
      rfl
  | error e =>
      have hsame : (b.next (.error e)).2.drain.2 = b := by
        unfold Batch.next Batch.drain Outbox.drain
        simp only [← h]
      rw [hsame]
      rfl

-- By induction on the records. Behind each of them no event waits any more, so the batch is as it
-- was at the beginning.
/-- The session carries the commands of the records out, and nothing else. -/
theorem runRecords_snd (number : Nat) (h : b.world.outbox.waiting = [])
    (records : List (Except LedgerError Command)) :
    (runRecords number b records).2 = b.carryOut (records.filterMap Except.toOption) := by
  induction records generalizing number b with
  | nil => rfl
  | cons record rest ih => exact (ih _ rfl).trans (carryOut_cons h record rest).symm

/-- The session says of a record what is to be said. -/
theorem filter_entryOf_next (number : Nat) (b : Batch) (record : Except LedgerError Command) :
    (entryOf number record (b.next record).1).filter (!·.isPublished)
      = complaints number b record := by
  cases record with
  | error e => rfl
  | ok c =>
      simp only [Batch.next_ok, complaints]
      cases ((b.runner.apply b.settings c).runAlone b.world).1 with
      | error e => rfl
      | ok r => rfl

/-- Apart from what is published, the session logs what is to be said of each record, under its
    number. -/
theorem filter_runRecords (number : Nat) (h : b.world.outbox.waiting = [])
    (records : List (Except LedgerError Command)) :
    (runRecords number b records).1.filter (!·.isPublished)
      = (records.mapIdx fun i record => complaints (number + i)
          (b.carryOut ((records.take i).filterMap Except.toOption)) record).flatten := by
  induction records generalizing number b with
  | nil => rfl
  | cons record rest ih =>
      have hpublished (events : List Event) :
          (events.map LogEntry.published).filter (!·.isPublished) = [] := by
        simp [List.filter_map, Function.comp_def, LogEntry.isPublished]
      have hlater (i : Nat) (later : Except LedgerError Command) :
          complaints (number + (i + 1))
            (b.carryOut (((record :: rest).take (i + 1)).filterMap Except.toOption)) later
          = complaints (number + 1 + i) ((b.next record).2.drain.2.carryOut
            ((rest.take i).filterMap Except.toOption)) later := by
        rw [List.take_succ_cons, carryOut_cons h, Nat.add_assoc, Nat.add_comm 1 i]
      rw [List.mapIdx_cons, List.flatten_cons]
      simp only [runRecords, List.filter_append, filter_entryOf_next, hpublished, List.append_nil,
        hlater]
      exact congrArg _ (ih (number + 1) rfl)

end Session

namespace Command

open Csv (lines linesOf isLineEnd quote)

variable {bytes : List UInt8}

theorem filterMap_readAll (h : quote ∉ bytes) :
    (readAll bytes).filterMap Except.toOption = commandsOf bytes := by
  have hverdict (result : Except LedgerError Command) :
      result.toOption = (verdict result).toOption := by cases result <;> rfl
  calc (readAll bytes).filterMap Except.toOption
      = ((readAll bytes).map verdict).filterMap Except.toOption := by
        rw [List.filterMap_map]
        exact List.filterMap_congr fun result _ => hverdict result
    _ = commandsOf bytes := by
        rw [map_verdict_readAll h, List.filterMap_map]
        rfl

/-- Every line of data has its result. -/
theorem exists_result (h : quote ∉ bytes) {i : Nat} {line : List UInt8}
    (hline : (dataLines bytes)[i]? = some line) : ∃ result, (readAll bytes)[i]? = some result ∧
      verdict result = ofLine (headerLine bytes) line := by
  have hresult : ((readAll bytes).map verdict)[i]? = some (ofLine (headerLine bytes) line) := by
    rw [map_verdict_readAll h, List.getElem?_map, hline]
    rfl
  rw [List.getElem?_map, Option.map_eq_some_iff] at hresult
  exact hresult

/-- The results of the lines before a line end and of those behind it. -/
theorem map_verdict_append {before after : List UInt8} {e : UInt8} (he : isLineEnd e = true)
    (hbefore : lines before ≠ []) (h : quote ∉ before ++ e :: after) :
    (readAll (before ++ e :: after)).map verdict
      = (dataLines before).map (ofLine (headerLine before))
        ++ (linesOf after).map (ofLine (headerLine before)) := by
  rw [map_verdict_readAll h]
  unfold dataLines headerLine
  rw [Csv.lines_append he]
  rcases hlines : lines before with _ | ⟨header, rest⟩
  · exact absurd hlines hbefore
  · exact List.map_append

/-- The rows of a batch are isolated from each other. -/
structure Isolates (bytes : List UInt8) : Prop where
  /-- There is one result for each line of data, in the order of the lines, and it hangs on nothing
      but the header and the line. -/
  results : (readAll bytes).map verdict = (dataLines bytes).map (ofLine (headerLine bytes))
  /-- An error names its record by the number, counted from the first line of data. -/
  numbered : ∀ i e, (readAll bytes)[i]? = some (.error e) →
    ∃ f p, e = .csv f ∧ f.place? = some p ∧ p.record = i + 1
  /-- Under the same header a line gives the same in every other batch, wherever it stands. -/
  unmoved : ∀ other : List UInt8, quote ∉ other → headerLine other = headerLine bytes →
    ∀ (i j : Nat) (line : List UInt8),
    (dataLines bytes)[i]? = some line → (dataLines other)[j]? = some line →
    ∃ result result', (readAll bytes)[i]? = some result ∧ (readAll other)[j]? = some result' ∧
      verdict result = verdict result'
  /-- Lines that are put between others change nothing about those. -/
  inserted : ∀ before e after, isLineEnd e = true → bytes = before ++ e :: after →
    lines before ≠ [] → ∀ between : List UInt8, quote ∉ between →
    (readAll bytes).map verdict = (dataLines before).map (ofLine (headerLine before))
      ++ (linesOf after).map (ofLine (headerLine before)) ∧
    (readAll (before ++ e :: (between ++ e :: after))).map verdict
      = (dataLines before).map (ofLine (headerLine before))
        ++ ((linesOf between).map (ofLine (headerLine before))
          ++ (linesOf after).map (ofLine (headerLine before)))
  /-- The session carries the commands of the good lines out, in their order, and nothing else. -/
  carriedOut : ∀ settings numbers clock,
    (Session.runRecords 1 (.start settings numbers clock) (readAll bytes)).2
      = (Batch.start settings numbers clock).carryOut (commandsOf bytes)
  /-- Its report is the one of a batch in which there is nothing but these commands. -/
  reported : ∀ settings numbers clock,
    (Session.runRecords 1 (.start settings numbers clock) (readAll bytes)).2.report
      = ((Batch.start settings numbers clock).afterAll (commandsOf bytes)).report
  /-- It counts the records from one, those that are no command included. -/
  logged : ∀ settings numbers clock,
    (Session.runRecords 1 (.start settings numbers clock) (readAll bytes)).1.filter (!·.isPublished)
      = ((readAll bytes).mapIdx fun i record => Session.complaints (1 + i)
          ((Batch.start settings numbers clock).carryOut
            (((readAll bytes).take i).filterMap Except.toOption)) record).flatten

/-- The rows of a batch without quotes are isolated from each other. -/
theorem isolates (h : quote ∉ bytes) : Isolates bytes where
  results := map_verdict_readAll h
  numbered _ _ := number_of_error
  unmoved other hother hheader i j line hi hj := by
    rcases exists_result h hi with ⟨result, hresult, hverdict⟩
    rcases exists_result hother hj with ⟨result', hresult', hverdict'⟩
    exact ⟨result, result', hresult, hresult', hverdict.trans (hheader ▸ hverdict'.symm)⟩
  inserted before e after he hbytes hbefore between hbetween := by
    subst hbytes
    have hmore : quote ∉ before ++ e :: (between ++ e :: after) := by
      simp only [List.mem_append, List.mem_cons, not_or] at h ⊢
      exact ⟨h.1, h.2.1, hbetween, h.2⟩
    refine ⟨map_verdict_append he hbefore h, ?_⟩
    rw [← List.map_append, ← Csv.linesOf_append he]
    exact map_verdict_append he hbefore hmore
  carriedOut settings numbers clock := by
    rw [Session.runRecords_snd 1 rfl, filterMap_readAll h]
  reported settings numbers clock := by
    rw [Session.runRecords_snd 1 rfl, filterMap_readAll h, Batch.report_carryOut]
  logged settings numbers clock := Session.filter_runRecords 1 rfl _

/-- Between two good rows there is one with an unknown operation, an empty one, and one that is no
    text. -/
def spoiled : List UInt8 :=
  Text.toBytes "op,account\nopen,rent\ntransfer,rent\n\n" ++ 0xFF :: Text.toBytes "\nopen,savings\n"

/-- The good rows are read and carried out all the same. -/
theorem spoiled_isolates : quote ∉ spoiled ∧ Isolates spoiled ∧
    (readAll spoiled).map Except.toOption =
      [some ⟨.open, "rent", none, none, none⟩, none, none,
        some ⟨.open, "savings", none, none, none⟩] ∧
    (Session.runRecords 1 (.start .default .counted .epoch) (readAll spoiled)).2.runner.accounts.map
      Prod.fst = ["rent", "savings"] := by
  have hquote : quote ∉ spoiled := by decide +kernel
  refine ⟨hquote, isolates hquote, ?_, ?_⟩
  · decide +kernel
  · decide +kernel

end Command

end BankLedger
