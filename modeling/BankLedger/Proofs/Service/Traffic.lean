import BankLedger.Proofs.Service.Alone
import BankLedger.Proofs.Service.Request
import Mathlib.Data.List.Nodup
import Mathlib.Logic.Function.Basic

/-!
# Requests Under Way Together

Any number of requests are served at once. They take turns at the store, one step of one program at
a time, and a schedule says whose turn it is. Since a call of the store is one step, the schedules
are all the ways in which the calls can be interleaved.

Besides the store a step meets what its surroundings bring: what the clock shows, which identifier
is made, and whether the store answers at all. This is given for every step of every request,
counted along its own program, and not along the schedule. So the same requests can be served again
on another schedule with the same times and the same identifiers, and what still differs is due to
the store.

## Main definitions

* `Moment`: What a step meets besides the store.
* `Flight`: How far a request has been served.
* `Traffic`, `Traffic.run`: All requests together, and a schedule carried out.
* `Traffic.committed`: Whose call has changed the store, in that order.
* `Traffic.OneByOne`: A schedule on which the requests are served one after the other.

## Theorems

* `committed_run_sublist`: A request changes the store on its turns only.
* `exists_oneByOne`: Served one after the other, all requests come to an end.
-/

namespace BankLedger

/-- What a step meets besides the store. -/
structure Moment where
  clock : Instant
  made : Nat
  drawn : Nat
  /-- Why the store does not answer, if it does not. -/
  refusal : Option LedgerError

namespace Moment

/-- A world at a moment. -/
def world (m : Moment) (w : World) : World :=
  { w with clock := m.clock, made := m.made, drawn := m.drawn }

/-- The identifier that is made. -/
def uuid (m : Moment) : Uuid := .timeOrdered m.clock.milliseconds m.made

/-- The event that comes of a notice. -/
def event (m : Moment) (n : Notice) : Event := n.toEvent m.uuid m.clock

/-- What the store answers. -/
def answer (m : Moment) (s : Store) (c : Call) : Except LedgerError c.Reply :=
  match m.refusal with
  | some e => .error e
  | none => (s.perform m.clock c).map Prod.fst

/-- The store after a call. -/
def after (m : Moment) (s : Store) (c : Call) : Store :=
  match m.refusal with
  | some _ => s
  | none => s.after m.clock c

theorem after_of_looking (m : Moment) (s : Store) {c : Call} (hc : c.isMutating = false) :
    m.after s c = s := by
  unfold after
  cases m.refusal with
  | some e => rfl
  | none => exact Store.after_of_looking hc

end Moment

namespace Program

variable {α : Type}

/-- The call that the next step makes. -/
def asks : Program α → List Call
  | .call c _ => [c]
  | _ => []

/-- What the next step announces. -/
def announces : Program α → List Notice
  | .announce n _ => [n]
  | _ => []

/-- There is no next step. -/
def isDone : Program α → Bool
  | .done _ => true
  | _ => false

/-- How the program has ended, if it has. -/
def result? : Program α → Option (Except LedgerError α)
  | .done r => some r
  | _ => none

theorem eq_done_of_result? {p : Program α} {r : Except LedgerError α} (h : p.result? = some r) :
    p = .done r := by
  cases p with
  | done r' =>
      cases h
      rfl
  | _ => cases h

theorem exists_of_isDone {p : Program α} (h : p.isDone = true) : ∃ r, p = .done r := by
  cases p with
  | done r => exact ⟨r, rfl⟩
  | _ => cases h

theorem eq_call_of_mem_asks {p : Program α} {c : Call} (h : c ∈ p.asks) :
    ∃ next, p = .call c next := by
  cases p with
  | call c' next =>
      rcases List.mem_singleton.mp h with rfl
      exact ⟨next, rfl⟩
  | _ => cases h

theorem step_call_fst (m : Moment) (w : World) (c : Call)
    (next : Except LedgerError c.Reply → Program α) :
    ((Program.call c next).step (m.world w) m.refusal).1 = next (m.answer w.store c) := by
  unfold step Moment.answer
  cases m.refusal with
  | some e => rfl
  | none => exact congrArg next (World.ask_fst _ c)

/-- Only a call reaches the store. -/
theorem store_step (m : Moment) (w : World) (p : Program α) :
    (p.step (m.world w) m.refusal).2.store = p.asks.foldl m.after w.store := by
  cases p with
  | call c next =>
      change _ = m.after w.store c
      unfold step Moment.after
      cases m.refusal with
      | some e => rfl
      | none => exact World.store_ask _ c
  | done r => rfl
  | draw next => rfl
  | now next => rfl
  | fresh next => rfl
  | announce n next => rfl

/-- A step that makes no call, or one that only looks, leaves the store as it is. -/
theorem store_step_of_quiet (m : Moment) (w : World) {p : Program α}
    (h : ∀ c ∈ p.asks, c.isMutating = false) :
    (p.step (m.world w) m.refusal).2.store = w.store := by
  rw [store_step]
  cases p with
  | call c next => exact m.after_of_looking w.store (h c (List.mem_singleton.mpr rfl))
  | _ => rfl

end Program

/-- How far a request has been served. -/
structure Flight where
  /-- What is still to be done. -/
  rest : Program Answer
  steps : Nat
  /-- What has been announced, the first event first. -/
  events : List Event

/-- One step of a request. -/
def Flight.step (f : Flight) (m : Moment) (w : World) : Flight × World :=
  let (rest, w') := f.rest.step (m.world w) m.refusal
  (⟨rest, f.steps + 1, f.events ++ f.rest.announces.map m.event⟩, w')

namespace Flight

variable (steps : Nat) (events : List Event) (m : Moment) (w : World)

theorem step_done (r : Except LedgerError Answer) :
    ((⟨.done r, steps, events⟩ : Flight).step m w).1 = ⟨.done r, steps + 1, events⟩ :=
  congrArg (Flight.mk _ _) (List.append_nil events)

theorem step_call (c : Call) (next : Except LedgerError c.Reply → Program Answer) :
    ((⟨.call c next, steps, events⟩ : Flight).step m w).1
      = ⟨next (m.answer w.store c), steps + 1, events⟩ := by
  rw [← Program.step_call_fst m w c next]
  exact congrArg (Flight.mk _ _) (List.append_nil events)

theorem step_now (next : Instant → Program Answer) :
    ((⟨.now next, steps, events⟩ : Flight).step m w).1 = ⟨next m.clock, steps + 1, events⟩ :=
  congrArg (Flight.mk _ _) (List.append_nil events)

theorem step_fresh (next : Uuid → Program Answer) :
    ((⟨.fresh next, steps, events⟩ : Flight).step m w).1 = ⟨next m.uuid, steps + 1, events⟩ :=
  congrArg (Flight.mk _ _) (List.append_nil events)

theorem step_announce (n : Notice) (next : Program Answer) :
    ((⟨.announce n next, steps, events⟩ : Flight).step m w).1
      = ⟨next, steps + 1, events ++ [m.event n]⟩ := rfl

end Flight

/-- Requests that are served together. -/
structure Traffic (ι : Type) where
  world : World
  /-- How far each of them has been served. -/
  flights : ι → Flight
  /-- The calls that have been made and whose they were, the first call first. -/
  calls : List (ι × Call)

namespace Traffic

variable {ι : Type} [DecidableEq ι]

/-- No request has begun. -/
def start (settings : Settings) (w : World) (requests : ι → Request) : Traffic ι :=
  ⟨w, fun i => ⟨(requests i).program settings, 0, []⟩, []⟩

/-- The turn of one request. -/
def step (moments : ι → Nat → Moment) (t : Traffic ι) (i : ι) : Traffic ι :=
  let f := t.flights i
  let (f', w) := f.step (moments i f.steps) t.world
  ⟨w, Function.update t.flights i f', t.calls ++ f.rest.asks.map (i, ·)⟩

/-- A schedule is carried out. -/
def run (moments : ι → Nat → Moment) (t : Traffic ι) (schedule : List ι) : Traffic ι :=
  schedule.foldl (step moments) t

/-- Whose call has changed the store, or was made to, in the order of these calls. -/
def committed (t : Traffic ι) : List ι := (t.calls.filter (·.2.isMutating)).map Prod.fst

/-- All requests have been served. -/
def Finished (t : Traffic ι) : Prop := ∀ i, (t.flights i).rest.isDone = true

/-- A schedule on which the requests are served one after the other: each has its turns in one
    block, and the blocks come in the order of the list. -/
inductive OneByOne : List ι → List ι → Prop where
  | nil : OneByOne [] []
  /-- The first request has some turns, and then come the others. -/
  | cons {i : ι} {order schedule : List ι} (n : Nat) (h : OneByOne order schedule) :
      OneByOne (i :: order) (List.replicate n i ++ schedule)

variable (moments : ι → Nat → Moment)

theorem run_nil (t : Traffic ι) : t.run moments [] = t := rfl

theorem run_cons (t : Traffic ι) (i : ι) (schedule : List ι) :
    t.run moments (i :: schedule) = (t.step moments i).run moments schedule := rfl

theorem run_append (t : Traffic ι) (before later : List ι) :
    t.run moments (before ++ later) = (t.run moments before).run moments later :=
  List.foldl_append

theorem flights_step_self (t : Traffic ι) (i : ι) : (t.step moments i).flights i
    = ((t.flights i).step (moments i (t.flights i).steps) t.world).1 :=
  Function.update_self i _ t.flights

theorem flights_step_of_ne (t : Traffic ι) {i j : ι} (h : j ≠ i) :
    (t.step moments i).flights j = t.flights j :=
  Function.update_of_ne h _ t.flights

theorem committed_step (t : Traffic ι) (i : ι) : (t.step moments i).committed
    = t.committed ++ ((t.flights i).rest.asks.filter Call.isMutating).map fun _ => i := by
  unfold committed
  change List.map Prod.fst (List.filter _ (t.calls ++ (t.flights i).rest.asks.map (i, ·))) = _
  rw [List.filter_append, List.map_append, List.filter_map, List.map_map]
  rfl

theorem store_step (t : Traffic ι) (i : ι) : (t.step moments i).world.store
    = (t.flights i).rest.asks.foldl (moments i (t.flights i).steps).after t.world.store :=
  Program.store_step _ t.world (t.flights i).rest

omit [DecidableEq ι] in
-- A step makes at most one call, so a turn adds its request at most once.
theorem asks_filter_sublist {α : Type} (p : Program α) (i : ι) :
    ((p.asks.filter Call.isMutating).map fun _ => i).Sublist [i] := by
  cases p with
  | call c next =>
      change (([c].filter Call.isMutating).map fun _ => i).Sublist ([c].map fun _ => i)
      exact List.filter_sublist.map _
  | _ => exact List.nil_sublist _

/-- A request changes the store on its turns only. -/
theorem committed_run_sublist (t : Traffic ι) (schedule : List ι) :
    (t.run moments schedule).committed.Sublist (t.committed ++ schedule) := by
  induction schedule generalizing t with
  | nil =>
      rw [run_nil, List.append_nil]
  | cons i schedule ih =>
      have hturn := (asks_filter_sublist (t.flights i).rest i).append_left t.committed
      rw [run_cons, List.append_cons]
      refine (ih _).trans ?_
      rw [committed_step]
      exact hturn.append_right schedule

theorem isDone_run {t : Traffic ι} {i : ι} (h : (t.flights i).rest.isDone = true)
    (schedule : List ι) : ((t.run moments schedule).flights i).rest.isDone = true := by
  induction schedule generalizing t with
  | nil => exact h
  | cons j schedule ih =>
      rw [run_cons]
      refine ih ?_
      by_cases hij : i = j
      · -- A request that has been served stays as it is on its further turns.
        subst hij
        rcases Program.exists_of_isDone h with ⟨r, hr⟩
        rw [flights_step_self]
        unfold Flight.step
        rw [hr]
        rfl
      · rw [flights_step_of_ne moments t hij]
        exact h

theorem rest_step_self {t : Traffic ι} {i : ι} {p : Program Answer}
    (hp : (t.flights i).rest = p) : ((t.step moments i).flights i).rest
      = (p.step ((moments i (t.flights i).steps).world t.world)
          (moments i (t.flights i).steps).refusal).1 := by
  rw [flights_step_self, ← hp]
  rfl

theorem exists_turns_of_step {t : Traffic ι} {i : ι}
    (h : ∃ n,
      (((t.step moments i).run moments (List.replicate n i)).flights i).rest.isDone = true) :
    ∃ n, ((t.run moments (List.replicate n i)).flights i).rest.isDone = true := by
  rcases h with ⟨n, hn⟩
  exact ⟨n + 1, hn⟩

-- By induction on what is left of the program: each turn leaves one of its branches.
theorem exists_turns (p : Program Answer) (t : Traffic ι) (i : ι) (hp : (t.flights i).rest = p) :
    ∃ n, ((t.run moments (List.replicate n i)).flights i).rest.isDone = true := by
  induction p generalizing t with
  | done r => exact ⟨0, by rw [List.replicate_zero, run_nil, hp]; rfl⟩
  | call c next ih =>
      have hnext := (rest_step_self moments hp).trans (Program.step_call_fst _ _ c next)
      exact exists_turns_of_step moments (ih _ _ hnext)
  | draw next ih => exact exists_turns_of_step moments (ih _ _ (rest_step_self moments hp))
  | now next ih => exact exists_turns_of_step moments (ih _ _ (rest_step_self moments hp))
  | fresh next ih => exact exists_turns_of_step moments (ih _ _ (rest_step_self moments hp))
  | announce n next ih => exact exists_turns_of_step moments (ih _ (rest_step_self moments hp))

/-- Served one after the other, all requests come to an end. -/
theorem exists_oneByOne (t : Traffic ι) (order : List ι) : ∃ schedule, OneByOne order schedule ∧
    ∀ i ∈ order, ((t.run moments schedule).flights i).rest.isDone = true := by
  induction order generalizing t with
  | nil => exact ⟨[], .nil, fun i hi => by cases hi⟩
  | cons i order ih =>
      -- The first request gets the turns it needs, and the turns of the others leave it done.
      rcases exists_turns moments _ t i rfl with ⟨n, hn⟩
      rcases ih (t.run moments (List.replicate n i)) with ⟨schedule, hschedule, hdone⟩
      refine ⟨List.replicate n i ++ schedule, .cons n hschedule, fun j hj => ?_⟩
      rw [run_append]
      rcases List.mem_cons.mp hj with rfl | hlater
      · exact isDone_run moments hn schedule
      · exact hdone j hlater

omit [DecidableEq ι] in
theorem mem_of_oneByOne {order schedule : List ι} (h : OneByOne order schedule) {i : ι}
    (hi : i ∈ schedule) : i ∈ order := by
  induction h with
  | nil => exact hi
  | cons n _ ih =>
      rcases List.mem_append.mp hi with hblock | hlater
      · exact List.mem_cons.mpr (Or.inl (List.eq_of_mem_replicate hblock))
      · exact List.mem_cons_of_mem _ (ih hlater)

omit [DecidableEq ι] in
-- Without repetition a block of turns of one request counts once.
theorem sublist_of_oneByOne {l order schedule : List ι} (hl : l.Nodup)
    (h : OneByOne order schedule) (hsub : l.Sublist schedule) : l.Sublist order := by
  induction h generalizing l with
  | nil => exact hsub
  | @cons i order schedule n _ ih =>
      rcases List.sublist_append_iff.mp hsub with ⟨block, later, rfl, hblock, hlater⟩
      rcases List.nodup_append.mp hl with ⟨hblock', hlater', _⟩
      rcases List.sublist_replicate_iff.mp hblock with ⟨m, _, rfl⟩
      have honce : (List.replicate m i).Sublist [i] := by
        rw [List.nodup_replicate] at hblock'
        exact (List.replicate_sublist_replicate i).mpr hblock'
      exact honce.append (ih hlater' hlater)

end Traffic

end BankLedger
