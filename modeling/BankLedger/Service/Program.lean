import BankLedger.Outbox
import BankLedger.Store.Basic

/-!
# Programs against the store

A service call is a program: it asks the store, draws account numbers, looks at the clock, and
announces events, one after the other, and ends with an answer or an error. Between two of these
steps other programs may run, and the store may be changed by them; within a step nothing else
happens.

The program is kept apart from the world it runs in. So the same program can be run alone, with
other programs in between, or against a store that fails, and what holds of every run can be proved
by following the tree of the program.

## Main definitions

* `Program`: A service call, step by step.
* `World`: The store, the queue of events, and where numbers, times and identifiers come from.
* `Program.step`: One step of a program in a world.
* `Program.run`: All steps, with a surrounding that may interfere before each call.
-/

namespace BankLedger

/-- A service call, step by step. -/
inductive Program (α : Type) where
  /-- The call ends. -/
  | done (r : Except LedgerError α)
  /-- The store is asked. -/
  | call (c : Call) (next : Except LedgerError c.Reply → Program α)
  /-- An account number is drawn. -/
  | draw (next : Except LedgerError AccountNumber → Program α)
  /-- The clock is read. -/
  | now (next : Instant → Program α)
  /-- An identifier is made. -/
  | fresh (next : Uuid → Program α)
  /-- An event is announced. -/
  | announce (n : Notice) (next : Program α)

namespace Program

/-- One program after another; an error ends both. -/
def bind {α β : Type} (p : Program α) (f : α → Program β) : Program β :=
  match p with
  | .done (.ok a) => f a
  | .done (.error e) => .done (.error e)
  | .call c next => .call c fun r => (next r).bind f
  | .draw next => .draw fun r => (next r).bind f
  | .now next => .now fun t => (next t).bind f
  | .fresh next => .fresh fun u => (next u).bind f
  | .announce n next => .announce n (next.bind f)

instance : Monad Program where
  pure a := .done (.ok a)
  bind := bind

/-- What needs no world. -/
def ofExcept {α : Type} (r : Except LedgerError α) : Program α := .done r

/-- The program fails. -/
def fail {α : Type} (e : LedgerError) : Program α := .done (.error e)

/-- Asks the store and passes an error on. -/
def ask (c : Call) : Program c.Reply := .call c .done

/-- Draws an account number and passes an error on. -/
def number : Program AccountNumber := .draw .done

/-- Reads the clock. -/
def time : Program Instant := .now fun t => .done (.ok t)

/-- Makes an identifier. -/
def freshId (subject : Subject) : Program (Id subject) := .fresh fun u => .done (.ok ⟨u⟩)

/-- Announces an event. -/
def emit (n : Notice) : Program Unit := .announce n (.done (.ok ()))

end Program

/-- Where account numbers come from: the number of each draw, or why there is none. -/
abbrev NumberSource := Nat → Except LedgerError AccountNumber

/-- What programs run in. -/
structure World where
  /-- The store. -/
  store : Store
  /-- The queue of events. -/
  outbox : Outbox
  /-- Where account numbers come from. -/
  numbers : NumberSource
  /-- How many numbers have been drawn. -/
  drawn : Nat
  /-- What the clock shows. -/
  clock : Instant
  /-- How many identifiers have been made. -/
  made : Nat

namespace World

/-- A world with nothing in it yet. -/
def start (capacity : Nat) (numbers : NumberSource) (clock : Instant) : World where
  store := .empty
  outbox := .ofCapacity capacity
  numbers := numbers
  drawn := 0
  clock := clock
  made := 0

/-- Reads the clock, which shows a later time on each reading. -/
def tick (w : World) : Instant × World := (w.clock, { w with clock := w.clock.next })

/-- Makes an identifier that has not been made before. -/
def fresh (w : World) : Uuid × World :=
  (.timeOrdered w.clock.milliseconds w.made, { w with made := w.made + 1 })

/-- Draws an account number. -/
def draw (w : World) : Except LedgerError AccountNumber × World :=
  (w.numbers w.drawn, { w with drawn := w.drawn + 1 })

/-- Asks the store. -/
def ask (w : World) (c : Call) : Except LedgerError c.Reply × World :=
  let (now, w) := w.tick
  match w.store.perform now c with
  | .ok (reply, store) => (.ok reply, { w with store := store })
  | .error e => (.error e, w)

/-- Announces an event. -/
def announce (w : World) (n : Notice) : World :=
  let (id, w) := w.fresh
  let (now, w) := w.tick
  { w with outbox := w.outbox.enqueue (n.toEvent id now) }

end World

namespace Program

/-- One step. With a refusal the store is not reached, and its call fails for that reason. -/
def step {α : Type} (w : World) (refusal : Option LedgerError) : Program α → Program α × World
  | .done r => (.done r, w)
  | .call c next =>
      match refusal with
      | some e => (next (.error e), w)
      | none => ((next (w.ask c).1), (w.ask c).2)
  | .draw next => (next w.draw.1, w.draw.2)
  | .now next => (next w.tick.1, w.tick.2)
  | .fresh next => (next w.fresh.1, w.fresh.2)
  | .announce n next => (next, w.announce n)

/-- What happens around a program before one of its calls: other calls that reach the store first,
    and a refusal if the store does not answer. -/
structure Interference where
  /-- Calls of others, carried out one after the other. -/
  before : List Call
  /-- Why the store does not answer, if it does not. -/
  refusal : Option LedgerError

/-- What happens before each call, given the calls the program has made so far, the last one
    first. -/
abbrev Surrounding := List Call → Call → Interference

/-- Nothing interferes. -/
def alone : Surrounding := fun _ _ => ⟨[], none⟩

/-- All steps of a program. -/
def run {α : Type} (around : Surrounding) (made : List Call) (w : World) :
    Program α → Except LedgerError α × World
  | .done r => (r, w)
  | .call c next =>
      let i := around made c
      let w := i.before.foldl (fun w c => (w.ask c).2) w
      match i.refusal with
      | some e => (next (.error e)).run around (c :: made) w
      | none => (next (w.ask c).1).run around (c :: made) (w.ask c).2
  | .draw next => (next w.draw.1).run around made w.draw.2
  | .now next => (next w.tick.1).run around made w.tick.2
  | .fresh next => (next w.fresh.1).run around made w.fresh.2
  | .announce n next => next.run around made (w.announce n)

/-- Runs a program by itself. -/
def runAlone {α : Type} (p : Program α) (w : World) : Except LedgerError α × World :=
  p.run alone [] w

end Program

end BankLedger
