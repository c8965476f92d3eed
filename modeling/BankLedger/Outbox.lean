import BankLedger.Event

/-!
# The outbox

Events wait in a queue of bounded length until someone outside takes them. The ledger never waits
for that: an event that finds the queue full, or nobody there to take it, is lost.

## Main definitions

* `Outbox`: The queue.
* `Outbox.enqueue`: Adds an event, or loses it.
* `Outbox.receive?`: Takes the event that has waited longest.
* `Publisher`: Who takes the events in the end.
* `Publisher.deliver`: What becomes of the events that wait.
* `Delivery`: The queue with its senders at one end and the worker at the other.
* `Delivery.step`: What one move of a sender or of the worker does.
-/

namespace BankLedger

/-- Events that wait to be taken. -/
structure Outbox where
  capacity : Nat
  /-- The events that wait, the first one longest. -/
  waiting : List Event
  received : Bool

namespace Outbox

/-- The empty queue. -/
def ofCapacity (capacity : Nat) : Outbox := ⟨capacity, [], true⟩

/-- There is room for one more event, and someone to take it. -/
def accepts (o : Outbox) : Bool := o.received && o.waiting.length < o.capacity

/-- Adds an event; without room or receiver it is lost. -/
def enqueue (o : Outbox) (e : Event) : Outbox :=
  if o.accepts then { o with waiting := o.waiting ++ [e] } else o

/-- Takes the event that has waited longest. -/
def receive? (o : Outbox) : Option (Event × Outbox) :=
  match o.waiting with
  | [] => none
  | e :: rest => some (e, { o with waiting := rest })

/-- Takes all events that wait. -/
def drain (o : Outbox) : List Event × Outbox := (o.waiting, { o with waiting := [] })

/-- The receiver goes away, and what waits goes with it. -/
def abandon (o : Outbox) : Outbox := { o with waiting := [], received := false }

end Outbox

/-- Who takes the events in the end. -/
inductive Publisher where
  | memory
  | failing
  | log
deriving DecidableEq

/-- A publisher takes the event. -/
def Publisher.accepts : Publisher → Event → Bool
  | .memory, _ => true
  | .failing, _ => false
  | .log, _ => true

/-- The events that a publisher takes out of those that wait, in the order in which they wait. An
    event that is refused is not offered again. -/
def Publisher.deliver (p : Publisher) (events : List Event) : List Event := events.filter p.accepts

/-- The queue between those who send and the worker, who takes one event after the other and offers
    each to the publisher. -/
structure Delivery where
  outbox : Outbox
  /-- The senders that are left. -/
  senders : Nat
  /-- The event that the worker took and that the publisher has not answered yet. -/
  inHand : Option Event
  /-- The events that the publisher took. -/
  published : List Event
  /-- What the worker counts. -/
  delivered : Nat
  ended : Bool

/-- What a sender, the worker, the publisher or the one who runs the worker can do. -/
inductive Delivery.Move where
  /-- A sender is doubled. -/
  | join
  /-- A sender goes away. -/
  | leave
  | enqueue (event : Event)
  /-- The worker asks the queue for an event. -/
  | receive
  /-- The publisher answers the worker: the event is taken, or refused. -/
  | publish (taken : Bool)
  /-- The worker is stopped from outside, and the receiver goes with it. -/
  | abandon

namespace Delivery

/-- A new queue with one sender. -/
def start (capacity : Nat) : Delivery := ⟨.ofCapacity capacity, 1, none, [], 0, false⟩

/-- The worker asks for an event while it holds none. With nothing to take it waits as long as there
    is a sender, and comes to its end when there is none. -/
def receive (d : Delivery) : Delivery :=
  match d.outbox.receive? with
  | some (e, rest) => { d with outbox := rest, inHand := some e }
  | none => if d.senders = 0 then { d with outbox := d.outbox.abandon, ended := true } else d

/-- The publisher answers for the event that the worker holds. A refusal is not counted, and the
    event is not offered again. -/
def publish (d : Delivery) (e : Event) (taken : Bool) : Delivery :=
  if taken then
    { d with inHand := none, published := d.published ++ [e], delivered := d.delivered + 1 }
  else { d with inHand := none }

/-- One move. Without a sender nothing is sent and no sender is doubled, the worker takes nothing
    more while it holds an event, and it does nothing when it is gone. -/
def step (d : Delivery) : Move → Delivery
  | .join => if d.senders = 0 then d else { d with senders := d.senders + 1 }
  | .leave => { d with senders := d.senders - 1 }
  | .enqueue e => if d.senders = 0 then d else { d with outbox := d.outbox.enqueue e }
  | .receive => if d.outbox.received && d.inHand.isNone then d.receive else d
  | .publish taken =>
      match d.inHand with
      | some e => if d.outbox.received then d.publish e taken else d
      | none => d
  | .abandon => { d with outbox := d.outbox.abandon }

/-- One move after the other. -/
def run (d : Delivery) (moves : List Move) : Delivery := moves.foldl step d

end Delivery

end BankLedger
