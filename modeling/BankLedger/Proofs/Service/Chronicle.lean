import BankLedger.Proofs.Service.Journal

/-!
# What Was Done While Requests Were Served

A chronicle writes down the deeds of all requests while they are served, each with what came of it.
So it can be said of a run which calls changed the store and which events reached the queue, and who
is to blame.

A run is a list of turns, and nearly everything that is known of one is known by induction over that
list: what every turn preserves holds after every schedule, and what is preserved by the turns
before which something is true holds after every schedule along which it is true.

## Main definitions

* `Chronicle`: Requests under way, with what they have done so far.
* `Chronicle.deedsOf`, `Chronicle.deeds`: What one request has done, and what all have done.
* `Chronicle.answered`: How a request was answered, if it was.
* `Chronicle.Along`: Something is true before every turn of a schedule.
* `Chronicle.Recorded`: The store and the queue are what the deeds have made of them.

## Theorems

* `traffic_run`: A chronicle does not interfere with what it records.
* `run_induction`, `run_along_induction`: Induction over the turns of a run.
* `exists_turn`: Every step of a request was taken on one of its turns.
* `mem_deedsOf_run`: Every deed of a request was done on one of its turns.
* `journal_of_oneByOne`: Served one after the other, requests write one after the other.
* `recorded_run`: After every schedule the store and the queue are what the deeds have made of them.
* `keeps_run`: No schedule makes a program do something else.
-/

namespace BankLedger

open Deed

/-- Requests under way, with what they have done so far. -/
structure Chronicle (ι : Type) where
  traffic : Traffic ι
  /-- Who did what, the first deed first. -/
  journal : List (ι × Deed)

namespace Chronicle

variable {ι : Type} [DecidableEq ι]

/-- No request has begun. -/
def start (settings : Settings) (w : World) (requests : ι → Request) : Chronicle ι :=
  ⟨.start settings w requests, []⟩

/-- What a request does on its next turn. -/
def deedsAt (moments : ι → Nat → Moment) (x : Chronicle ι) (i : ι) : List Deed :=
  (x.traffic.flights i).rest.deeds (moments i (x.traffic.flights i).steps) x.traffic.world

/-- The turn of one request. -/
def step (moments : ι → Nat → Moment) (x : Chronicle ι) (i : ι) : Chronicle ι :=
  ⟨x.traffic.step moments i, x.journal ++ (x.deedsAt moments i).map (i, ·)⟩

/-- A schedule is carried out. -/
def run (moments : ι → Nat → Moment) (x : Chronicle ι) (schedule : List ι) : Chronicle ι :=
  schedule.foldl (step moments) x

/-- What one request has done. -/
def deedsOf (x : Chronicle ι) (i : ι) : List Deed :=
  x.journal.filterMap fun entry => if entry.1 = i then some entry.2 else none

/-- What all requests have done. -/
def deeds (x : Chronicle ι) : List Deed := x.journal.map Prod.snd

def store (x : Chronicle ι) : Store := x.traffic.world.store

/-- What is still to be done for a request. -/
def rest (x : Chronicle ι) (i : ι) : Program Answer := (x.traffic.flights i).rest

/-- How a request was answered, if it was. -/
def answered (x : Chronicle ι) (i : ι) : Option (Except LedgerError Answer) := (x.rest i).result?

variable (moments : ι → Nat → Moment)

/-- A chronicle does not interfere with what it records. -/
theorem traffic_run (x : Chronicle ι) (schedule : List ι) :
    (x.run moments schedule).traffic = x.traffic.run moments schedule := by
  induction schedule generalizing x with
  | nil => rfl
  | cons i schedule ih => exact ih (x.step moments i)

theorem run_append (x : Chronicle ι) (before later : List ι) :
    x.run moments (before ++ later) = (x.run moments before).run moments later :=
  List.foldl_append

/-- What every turn preserves holds after every schedule. -/
theorem run_induction {P : Chronicle ι → Prop} (hstep : ∀ x i, P x → P (x.step moments i))
    {x : Chronicle ι} (h : P x) (schedule : List ι) : P (x.run moments schedule) := by
  induction schedule generalizing x with
  | nil => exact h
  | cons i schedule ih => exact ih (hstep x i h)

/-- The turn of one request counts as one of its steps. -/
theorem steps_step (x : Chronicle ι) (i j : ι) :
    ((x.step moments i).traffic.flights j).steps
      = (x.traffic.flights j).steps + if j = i then 1 else 0 := by
  by_cases hj : j = i
  · subst hj
    change (((x.traffic.step moments j).flights j).steps) = _
    rw [Traffic.flights_step_self, if_pos rfl]
    rfl
  · change (((x.traffic.step moments i).flights j).steps) = _
    rw [Traffic.flights_step_of_ne moments _ hj, if_neg hj, Nat.add_zero]

theorem rest_step_of_ne (x : Chronicle ι) {i j : ι} (h : j ≠ i) :
    (x.step moments i).rest j = x.rest j :=
  congrArg Flight.rest (Traffic.flights_step_of_ne moments x.traffic h)

theorem rest_step_self (x : Chronicle ι) (i : ι) : (x.step moments i).rest i
    = ((x.rest i).step ((moments i (x.traffic.flights i).steps).world x.traffic.world)
        (moments i (x.traffic.flights i).steps).refusal).1 := Traffic.rest_step_self moments rfl

/-- A call is answered by the store as it is on that turn. -/
theorem step_of_call {x : Chronicle ι} {i : ι} {c : Call}
    {next : Except LedgerError c.Reply → Program Answer} (h : x.rest i = .call c next) :
    (x.step moments i).rest i
        = next ((moments i (x.traffic.flights i).steps).answer x.store c) ∧
      (x.step moments i).store = (moments i (x.traffic.flights i).steps).after x.store c := by
  constructor
  · rw [rest_step_self, h, Program.step_call_fst]
    rfl
  · have hstep := Traffic.store_step moments x.traffic i
    change (x.step moments i).store = (x.rest i).asks.foldl _ x.store at hstep
    rw [hstep, h]
    rfl

omit [DecidableEq ι] in
/-- A request that has come to its end does nothing on its further turns. -/
theorem deedsAt_of_isDone {x : Chronicle ι} {i : ι} (h : (x.rest i).isDone = true) :
    x.deedsAt moments i = [] := by
  rcases Program.exists_of_isDone h with ⟨r, hr⟩
  unfold deedsAt
  change (x.rest i).deeds _ _ = []
  rw [hr]
  rfl

/-- A request has taken as many steps as it has had turns. -/
theorem steps_run (x : Chronicle ι) (schedule : List ι) (i : ι) :
    ((x.run moments schedule).traffic.flights i).steps
      = (x.traffic.flights i).steps + schedule.count i := by
  induction schedule generalizing x with
  | nil => rfl
  | cons j schedule ih =>
      refine (ih (x.step moments j)).trans ?_
      rw [steps_step, List.count_cons]
      by_cases hj : i = j
      · rw [if_pos hj, if_pos (beq_iff_eq.mpr hj.symm)]
        omega
      · rw [if_neg hj, if_neg (beq_iff_eq.not.mpr (Ne.symm hj))]
        omega

-- By induction on the schedule: the turn is the first one, or it is still to come.
/-- Every step of a request was taken on one of its turns. -/
theorem exists_turn {x : Chronicle ι} {i : ι} {n : Nat} (hn : (x.traffic.flights i).steps ≤ n)
    (schedule : List ι) (h : n < ((x.run moments schedule).traffic.flights i).steps) :
    ∃ before later, schedule = before ++ i :: later ∧
      ((x.run moments before).traffic.flights i).steps = n := by
  induction schedule generalizing x with
  | nil => exact absurd h (Nat.not_lt.mpr hn)
  | cons j schedule ih =>
      by_cases hfirst : ((x.step moments j).traffic.flights i).steps ≤ n
      · rcases ih hfirst h with ⟨before, later, rfl, hsteps⟩
        exact ⟨j :: before, later, rfl, hsteps⟩
      · rw [steps_step] at hfirst
        by_cases hj : i = j
        · subst hj
          rw [if_pos rfl] at hfirst
          exact ⟨[], schedule, rfl, by change (x.traffic.flights i).steps = n; omega⟩
        · rw [if_neg hj] at hfirst
          exact absurd hn hfirst

section Along

variable {Q : Chronicle ι → ι → Prop}

/-- Something is true before every turn of a schedule. -/
def Along (Q : Chronicle ι → ι → Prop) : Chronicle ι → List ι → Prop
  | _, [] => True
  | x, i :: schedule => Q x i ∧ Along Q (x.step moments i) schedule

/-- Whether something is true before every turn can be computed along the schedule. -/
def decideAlong [∀ x i, Decidable (Q x i)] : (x : Chronicle ι) → (schedule : List ι) →
    Decidable (Along moments Q x schedule)
  | _, [] => isTrue trivial
  | x, i :: schedule =>
      have := decideAlong (x.step moments i) schedule
      inferInstanceAs (Decidable (Q x i ∧ Along moments Q (x.step moments i) schedule))

instance [∀ x i, Decidable (Q x i)] (x : Chronicle ι) (schedule : List ι) :
    Decidable (Along moments Q x schedule) := decideAlong moments x schedule

theorem along_append {x : Chronicle ι} {before later : List ι} :
    Along moments Q x (before ++ later) ↔
      Along moments Q x before ∧ Along moments Q (x.run moments before) later := by
  induction before generalizing x with
  | nil => exact ⟨fun h => ⟨trivial, h⟩, And.right⟩
  | cons i before ih =>
      change Q x i ∧ Along moments Q (x.step moments i) (before ++ later) ↔
        (Q x i ∧ Along moments Q (x.step moments i) before) ∧
          Along moments Q ((x.step moments i).run moments before) later
      rw [ih, and_assoc]

/-- What is preserved by every turn before which something is true. -/
theorem run_along_induction {P : Chronicle ι → Prop}
    (hstep : ∀ x i, Q x i → P x → P (x.step moments i)) {x : Chronicle ι} (h : P x)
    {schedule : List ι} (halong : Along moments Q x schedule) : P (x.run moments schedule) := by
  induction schedule generalizing x with
  | nil => exact h
  | cons i schedule ih => exact ih (hstep x i halong.1 h) halong.2

end Along

theorem filterMap_own (i : ι) (l : List Deed) :
    (l.map (i, ·)).filterMap (fun entry => if entry.1 = i then some entry.2 else none) = l := by
  rw [List.filterMap_map]
  simp

theorem deedsOf_step_self (x : Chronicle ι) (i : ι) :
    (x.step moments i).deedsOf i = x.deedsOf i ++ x.deedsAt moments i := by
  unfold deedsOf step
  rw [List.filterMap_append, filterMap_own]

theorem deedsOf_step_of_ne (x : Chronicle ι) {i j : ι} (h : j ≠ i) :
    (x.step moments i).deedsOf j = x.deedsOf j := by
  unfold deedsOf step
  rw [List.filterMap_append, List.filterMap_map]
  simp [Ne.symm h]

theorem deeds_step (x : Chronicle ι) (i : ι) :
    (x.step moments i).deeds = x.deeds ++ x.deedsAt moments i := by
  simp [deeds, step, Function.comp_def]

theorem mem_deedsOf_iff (x : Chronicle ι) (i : ι) (d : Deed) :
    d ∈ x.deedsOf i ↔ (i, d) ∈ x.journal := by
  simp [deedsOf]

-- By induction on the schedule: it was done on the first turn, or on one that is still to come.
/-- Every deed of a request was done on one of its turns. -/
theorem mem_deedsOf_run {x : Chronicle ι} {i : ι} {d : Deed} (schedule : List ι)
    (h : d ∈ (x.run moments schedule).deedsOf i) : d ∈ x.deedsOf i ∨
      ∃ before later, schedule = before ++ i :: later ∧
        d ∈ (x.run moments before).deedsAt moments i := by
  induction schedule generalizing x with
  | nil => exact Or.inl h
  | cons j schedule ih =>
      rcases ih h with hfirst | ⟨before, later, rfl, hd⟩
      · by_cases hj : i = j
        · subst hj
          rw [deedsOf_step_self, List.mem_append] at hfirst
          exact hfirst.imp_right fun hd => ⟨[], schedule, rfl, hd⟩
        · rw [deedsOf_step_of_ne moments x hj] at hfirst
          exact Or.inl hfirst
      · exact Or.inr ⟨j :: before, later, rfl, hd⟩

section OneByOne

theorem deedsOf_run_of_notMem (x : Chronicle ι) {i : ι} {schedule : List ι} (h : i ∉ schedule) :
    (x.run moments schedule).deedsOf i = x.deedsOf i := by
  induction schedule generalizing x with
  | nil => rfl
  | cons j schedule ih =>
      rw [List.mem_cons, not_or] at h
      exact (ih (x.step moments j) h.2).trans (deedsOf_step_of_ne moments x h.1)

/-- In a block of turns only one request writes. -/
theorem exists_journal_turns (x : Chronicle ι) (i : ι) (n : Nat) :
    ∃ deeds : List Deed,
      (x.run moments (List.replicate n i)).journal = x.journal ++ deeds.map (i, ·) := by
  induction n generalizing x with
  | zero => exact ⟨[], (List.append_nil _).symm⟩
  | succ n ih =>
      rcases ih (x.step moments i) with ⟨deeds, hdeeds⟩
      refine ⟨x.deedsAt moments i ++ deeds, ?_⟩
      rw [List.map_append, ← List.append_assoc]
      exact hdeeds

-- By induction on the schedule, block by block. What a request has done in its block is all that it
-- does, because it does not come a second time.
/-- Served one after the other, requests write one after the other. -/
theorem journal_of_oneByOne {order schedule : List ι} (horder : order.Nodup)
    (h : Traffic.OneByOne order schedule) (x : Chronicle ι)
    (hfresh : ∀ i ∈ order, x.deedsOf i = []) :
    (x.run moments schedule).journal = x.journal ++
      order.flatMap fun i => ((x.run moments schedule).deedsOf i).map (i, ·) := by
  induction h generalizing x with
  | nil => exact (List.append_nil _).symm
  | @cons i order schedule n hlater ih =>
      rcases List.nodup_cons.mp horder with ⟨hi, horder⟩
      rcases exists_journal_turns moments x i n with ⟨deeds, hblock⟩
      have hfresh' : ∀ j ∈ order, (x.run moments (List.replicate n i)).deedsOf j = [] := by
        intro j hj
        rw [deedsOf_run_of_notMem]
        · exact hfresh j (List.mem_cons_of_mem i hj)
        · intro hmem
          exact hi (List.eq_of_mem_replicate hmem ▸ hj)
      have hown : (x.run moments (List.replicate n i ++ schedule)).deedsOf i = deeds := by
        have hlast : i ∉ schedule := fun hmem => hi (Traffic.mem_of_oneByOne hlater hmem)
        rw [run_append, deedsOf_run_of_notMem moments _ hlast]
        unfold deedsOf
        rw [hblock, List.filterMap_append, filterMap_own]
        exact congrArg (· ++ deeds) (hfresh i List.mem_cons_self)
      rw [List.flatMap_cons, hown, ← List.append_assoc, ← hblock, run_append]
      exact ih horder _ hfresh'

end OneByOne

/-- What has been done is not undone. -/
theorem deeds_run (x : Chronicle ι) (schedule : List ι) :
    ∃ more, (x.run moments schedule).deeds = x.deeds ++ more := by
  refine run_induction (P := fun y => ∃ more, y.deeds = x.deeds ++ more) moments ?_
    ⟨[], (List.append_nil _).symm⟩ schedule
  rintro y i ⟨more, hmore⟩
  exact ⟨_, by rw [deeds_step, hmore, List.append_assoc]⟩

/-- Store and queue are what the deeds have made of those at the beginning. -/
structure Recorded (w : World) (x : Chronicle ι) : Prop where
  changed : w.store.Changed (changes x.deeds) x.store
  waiting_eq : x.traffic.world.outbox.waiting = w.outbox.waiting ++ queued x.deeds

theorem recorded_step {w : World} {x : Chronicle ι} (h : x.Recorded w) (i : ι) :
    (x.step moments i).Recorded w := by
  constructor
  · rw [deeds_step, changes_append]
    exact h.changed.append (Program.changed_step _ _ _)
  · rw [deeds_step, queued_append, ← List.append_assoc, ← h.waiting_eq]
    exact Program.waiting_step _ _ _

/-- From one time to a later one the store has changed by calls that succeeded. -/
theorem changed_run (x : Chronicle ι) (schedule : List ι) :
    ∃ calls, x.store.Changed calls (x.run moments schedule).store := by
  refine run_induction (P := fun y => ∃ calls, x.store.Changed calls y.store) moments ?_
    ⟨[], .nil _⟩ schedule
  rintro y i ⟨calls, hcalls⟩
  exact ⟨_, hcalls.append (Program.changed_step _ _ _)⟩

/-- After every schedule the store and the queue are what the deeds have made of them. -/
theorem recorded_run (settings : Settings) (w : World) (requests : ι → Request)
    (schedule : List ι) : ((start settings w requests).run moments schedule).Recorded w :=
  run_induction (P := Recorded w) moments (fun _ i h => recorded_step moments h i)
    ⟨.nil _, (List.append_nil _).symm⟩ schedule

section Keeps

variable {busy : ι → List Deed → List Call → Prop}
  {ends : ι → List Deed → Except LedgerError Answer → Prop}

-- A turn goes on with one program and leaves all others where they were.
theorem keeps_step {x : Chronicle ι}
    (h : ∀ i, (x.rest i).Keeps (busy i) (ends i) (x.deedsOf i)) (i j : ι) :
    ((x.step moments i).rest j).Keeps (busy j) (ends j) ((x.step moments i).deedsOf j) := by
  by_cases hj : j = i
  · subst hj
    rw [deedsOf_step_self, rest_step_self]
    exact Program.keeps_step (h j) _ _
  · rw [deedsOf_step_of_ne moments x hj, rest_step_of_ne moments x hj]
    exact h j

/-- What the programs keep they keep on every schedule. -/
theorem keeps_run (settings : Settings) (w : World) {requests : ι → Request}
    (h : ∀ i, ((requests i).program settings).Keeps (busy i) (ends i) []) (schedule : List ι)
    (i : ι) : (((start settings w requests).run moments schedule).rest i).Keeps (busy i) (ends i)
      (((start settings w requests).run moments schedule).deedsOf i) :=
  run_induction (P := fun x => ∀ i, (x.rest i).Keeps (busy i) (ends i) (x.deedsOf i)) moments
    (fun _ i h => keeps_step moments h i) (x := start settings w requests) h schedule i

end Keeps

end Chronicle

end BankLedger
