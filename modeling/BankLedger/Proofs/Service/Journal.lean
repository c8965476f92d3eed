import BankLedger.Proofs.Service.Traffic
import BankLedger.Proofs.Store.Run

/-!
# What Requests Do

On each of its turns a request does at most one thing that others can notice: it asks the store, or
it announces an event. These are its deeds, and they tell which calls changed the store and which
events reached the queue.

What a single request may do is a matter of its program, whatever the others do. `Program.Keeps`
says it in the manner of a Hoare logic whose state is the list of deeds so far: one condition for
every point at which the program is still busy, and one for its end, both for all answers that it
may meet on the way. It is proved by following the tree of the program, once for each request.

## Main definitions

* `Deed`: Something that a request does and others can notice.
* `Deed.changes`, `Deed.queued`, `Deed.events`: The calls among some deeds that changed the store,
  the events that reached the queue, and all events.
* `Deed.isLost`: An event that did not reach it.
* `Store.Changed`: A store that came of another by calls that succeeded.
* `Program.Keeps`: What a program does before it ends, and how it ends.

## Theorems

* `Program.keeps_bind`: One program after another.
* `Program.step_cases`: What a step of a program can do to the store.
* `Program.exists_deeds_runAlone`: What a program that runs alone does.
-/

namespace BankLedger

/-- Something that a request does and others can notice. -/
inductive Deed where
  /-- It asks the store. -/
  | asked (time : Instant) (c : Call) (answer : Except LedgerError c.Reply)
  /-- It announces an event, which the queue takes or loses. -/
  | announced (e : Event) (taken : Bool)

namespace Deed

/-- The call that changed the store, with its time. -/
def change? : Deed → Option (Instant × Call)
  | .asked time c answer => if c.isMutating && answer.isOk then some (time, c) else none
  | .announced _ _ => none

def event? : Deed → Option Event
  | .asked _ _ _ => none
  | .announced e _ => some e

/-- The event, if it reached the queue. -/
def queued? : Deed → Option Event
  | .announced e true => some e
  | _ => none

/-- The event found no place on the queue. -/
def isLost : Deed → Bool
  | .announced _ taken => !taken
  | .asked _ _ _ => false

def changes (deeds : List Deed) : List (Instant × Call) := deeds.filterMap change?

def events (deeds : List Deed) : List Event := deeds.filterMap event?

def queued (deeds : List Deed) : List Event := deeds.filterMap queued?

variable (deeds later : List Deed) (time : Instant) {c : Call} (e : Event) (taken : Bool)

@[simp] theorem changes_nil : changes [] = [] := rfl

@[simp] theorem events_nil : events [] = [] := rfl

@[simp] theorem changes_append : changes (deeds ++ later) = changes deeds ++ changes later :=
  List.filterMap_append

@[simp] theorem events_append : events (deeds ++ later) = events deeds ++ events later :=
  List.filterMap_append

@[simp] theorem queued_append : queued (deeds ++ later) = queued deeds ++ queued later :=
  List.filterMap_append

@[simp] theorem changes_announced : changes [.announced e taken] = [] := rfl

@[simp] theorem events_announced : events [.announced e taken] = [e] := rfl

@[simp] theorem events_asked (answer : Except LedgerError c.Reply) :
    events [.asked time c answer] = [] := rfl

@[simp] theorem changes_refused (why : LedgerError) :
    changes [.asked time c (.error why)] = [] := by
  simp [changes, change?, Except.isOk, Except.toBool]

@[simp] theorem changes_looked (hc : c.isMutating = false) (answer : Except LedgerError c.Reply) :
    changes [.asked time c answer] = [] := by
  simp [changes, change?, hc]

@[simp] theorem changes_changed (hc : c.isMutating = true) (reply : c.Reply) :
    changes [.asked time c (.ok reply)] = [(time, c)] := by
  simp [changes, change?, hc, Except.isOk, Except.toBool]

theorem mem_changes {answer : Except LedgerError c.Reply} (hc : c.isMutating = true)
    (hanswer : answer.isOk = true) (hmem : .asked time c answer ∈ deeds) :
    (time, c) ∈ changes deeds := by
  refine List.mem_filterMap.mpr ⟨_, hmem, ?_⟩
  simp only [change?, hc, hanswer, Bool.and_self, if_true]

theorem queued?_eq_some_iff (d : Deed) : d.queued? = some e ↔ d = .announced e true := by
  rcases d with _ | ⟨_, _ | _⟩ <;> simp [queued?]

/-- What reached the queue was announced. -/
theorem queued_sublist : (queued deeds).Sublist (events deeds) := by
  induction deeds with
  | nil => exact .slnil
  | cons d deeds ih =>
      cases d with
      | asked time c answer => exact ih
      | announced e taken =>
          cases taken with
          | false => exact ih.cons e
          | true => exact ih.cons_cons e

end Deed

open Deed

namespace Store

/-- The second store came of the first by these calls, and each of them succeeded. -/
inductive Changed : Store → List (Instant × Call) → Store → Prop where
  | nil (s : Store) : Changed s [] s
  | cons {s t u : Store} {now : Instant} {c : Call} {reply : c.Reply} {rest : List (Instant × Call)}
      (h : s.perform now c = .ok (reply, t)) (hrest : Changed t rest u) :
      Changed s ((now, c) :: rest) u

theorem Changed.append {s t u : Store} {calls later : List (Instant × Call)}
    (h : Changed s calls t) (hlater : Changed t later u) : Changed s (calls ++ later) u := by
  induction h with
  | nil s => exact hlater
  | cons hcall _ ih => exact .cons hcall (ih hlater)

theorem Changed.eq_of_nil {s t : Store} (h : Changed s [] t) : t = s := by
  cases h
  rfl

/-- A single change is the effect of its call. -/
theorem Changed.effect {s t : Store} {now : Instant} {c : Call} (h : Changed s [(now, c)] t) :
    Effect s now c t := by
  cases h with
  | cons hcall hrest =>
      rw [hrest.eq_of_nil]
      exact effect_of_perform hcall

/-- The calls lead to the store that came of them. -/
theorem Changed.eq_afterAll {s t : Store} {calls : List (Instant × Call)} (h : Changed s calls t) :
    t = s.afterAll calls := by
  induction h with
  | nil s => rfl
  | cons hcall _ ih =>
      rw [afterAll_cons, after_of_perform hcall]
      exact ih

/-- A call changes the store when it is answered and may change it. -/
theorem changed_after (s : Store) (now : Instant) (c : Call) :
    Changed s (changes [.asked now c ((s.perform now c).map Prod.fst)]) (s.after now c) := by
  cases hc : c.isMutating with
  | false =>
      rw [changes_looked _ hc, after_of_looking hc]
      exact .nil s
  | true =>
      rcases hrun : s.perform now c with e | ⟨reply, t⟩
      · rw [after_of_refused hrun]
        exact changes_refused now e ▸ .nil s
      · rw [after_of_perform hrun]
        exact changes_changed now hc reply ▸ .cons hrun (.nil t)

end Store

/-- A call that meets a moment changes the store when it is answered and may change it. -/
theorem Moment.changed_after (m : Moment) (s : Store) (c : Call) :
    s.Changed (changes [.asked m.clock c (m.answer s c)]) (m.after s c) := by
  unfold answer after
  cases m.refusal with
  | some e => exact changes_refused m.clock e ▸ .nil _
  | none => exact s.changed_after m.clock c

theorem Moment.get?_of_answer {m : Moment} {s : Store} {id : AccountId} {a : Account}
    (h : m.answer s (.getAccount id) = .ok a) : s.accounts.get? id = some a := by
  unfold answer at h
  cases hrefusal : m.refusal with
  | some e =>
      rw [hrefusal] at h
      cases h
  | none =>
      rw [hrefusal] at h
      rcases (Attempt.map_eq_ok_iff _ _ _).mp h with ⟨_, hrun, rfl⟩
      rcases (Attempt.map_eq_ok_iff _ _ _).mp hrun with ⟨_, hfound, rfl⟩
      exact (s.account_eq_ok_iff id _).mp hfound

namespace World

/-- An event that is announced comes last in the queue, if the queue takes it. -/
theorem waiting_announce (m : Moment) (w : World) (n : Notice) :
    ((m.world w).announce n).outbox.waiting
      = w.outbox.waiting ++ queued [.announced (m.event n) w.outbox.accepts] := by
  change (w.outbox.enqueue (m.event n)).waiting = _
  unfold Outbox.enqueue
  cases w.outbox.accepts with
  | false => exact (List.append_nil _).symm
  | true => rfl

end World

namespace Program

variable {α β : Type}

/-- What the next step does. -/
def deeds (m : Moment) (w : World) : Program α → List Deed
  | .call c _ => [.asked m.clock c (m.answer w.store c)]
  | .announce n _ => [.announced (m.event n) w.outbox.accepts]
  | _ => []

/-- One step makes those changes to the store that its deed names. -/
theorem changed_step (m : Moment) (w : World) (p : Program α) :
    w.store.Changed (changes (p.deeds m w)) (p.step (m.world w) m.refusal).2.store := by
  rw [store_step]
  cases p with
  | call c next => exact m.changed_after w.store c
  | announce n next => exact .nil _
  | _ => exact .nil _

/-- One step adds that event to the queue that its deed names. -/
theorem waiting_step (m : Moment) (w : World) (p : Program α) :
    (p.step (m.world w) m.refusal).2.outbox.waiting
      = w.outbox.waiting ++ queued (p.deeds m w) := by
  cases p with
  | announce n next => exact World.waiting_announce m w n
  | call c next =>
      refine Eq.trans ?_ (List.append_nil _).symm
      unfold step
      cases m.refusal with
      | some e => rfl
      | none => exact congrArg Outbox.waiting (World.outbox_ask _ c)
  | _ => exact (List.append_nil _).symm

/-- After these deeds the program does only what it may, whatever it is answered: while it is busy,
    the deeds so far and the call that it makes next, if it makes one, are as `busy` says, and it
    ends as `ends` says. -/
def Keeps (busy : List Deed → List Call → Prop) (ends : List Deed → Except LedgerError α → Prop)
    (deeds : List Deed) : Program α → Prop
  | .done r => ends deeds r
  | .call c next => busy deeds [c] ∧
      ∀ time answer, (next answer).Keeps busy ends (deeds ++ [.asked time c answer])
  | .draw next => busy deeds [] ∧ ∀ n, (next n).Keeps busy ends deeds
  | .now next => busy deeds [] ∧ ∀ t, (next t).Keeps busy ends deeds
  | .fresh next => busy deeds [] ∧ ∀ u, (next u).Keeps busy ends deeds
  | .announce n next => busy deeds [] ∧ ∀ id time taken,
      next.Keeps busy ends (deeds ++ [.announced (n.toEvent id time) taken])

variable {busy : List Deed → List Call → Prop} {ends : List Deed → Except LedgerError α → Prop}

-- By induction on the first program. Its deeds so far are generalised, because each step adds to
-- them.
/-- One program after another: where the first one ends, the second one begins. -/
theorem keeps_bind {ends : List Deed → Except LedgerError β → Prop} {p : Program α}
    {f : α → Program β} {deeds : List Deed}
    (h : p.Keeps busy (fun deeds r => match r with
      | .ok a => (f a).Keeps busy ends deeds
      | .error e => ends deeds (.error e)) deeds) : (p >>= f).Keeps busy ends deeds := by
  change (p.bind f).Keeps busy ends deeds
  induction p generalizing deeds with
  | done r =>
      cases r with
      | ok a => exact h
      | error e => exact h
  | call c next ih => exact ⟨h.1, fun time answer => ih answer (h.2 time answer)⟩
  | draw next ih => exact ⟨h.1, fun n => ih n (h.2 n)⟩
  | now next ih => exact ⟨h.1, fun t => ih t (h.2 t)⟩
  | fresh next ih => exact ⟨h.1, fun u => ih u (h.2 u)⟩
  | announce n next ih => exact ⟨h.1, fun id time taken => ih (h.2 id time taken)⟩

/-- An answer that is only rewritten. -/
theorem keeps_map {ends : List Deed → Except LedgerError β → Prop} {p : Program α} {f : α → β}
    {deeds : List Deed} (h : p.Keeps busy (fun deeds r => ends deeds (r.map f)) deeds) :
    (p >>= fun a => pure (f a)).Keeps busy ends deeds := by
  refine keeps_bind ?_
  have hends : (fun deeds (r : Except LedgerError α) => ends deeds (r.map f))
      = fun deeds r => match r with
        | .ok a => (pure (f a) : Program β).Keeps busy ends deeds
        | .error e => ends deeds (.error e) := by
    funext deeds r
    cases r with
    | ok a => rfl
    | error e => rfl
  exact hends ▸ h

/-- A check that needs no store is passed, or the program ends with its error. -/
theorem keeps_check {ends : List Deed → Except LedgerError β → Prop} {r : Except LedgerError α}
    {f : α → Program β} {deeds : List Deed} (herror : ∀ e, r = .error e → ends deeds (.error e))
    (hok : ∀ a, r = .ok a → (f a).Keeps busy ends deeds) :
    (ofExcept r >>= f).Keeps busy ends deeds := by
  cases r with
  | error e => exact herror e rfl
  | ok a => exact hok a rfl

theorem keeps_ite {condition : Prop} [Decidable condition] {p q : Program α} {deeds : List Deed}
    (hp : condition → p.Keeps busy ends deeds) (hq : ¬ condition → q.Keeps busy ends deeds) :
    (if condition then p else q).Keeps busy ends deeds := by
  by_cases h : condition
  · rw [if_pos h]
    exact hp h
  · rw [if_neg h]
    exact hq h

theorem keeps_time_bind {f : Instant → Program α} {deeds : List Deed} (hbusy : busy deeds [])
    (h : ∀ t, (f t).Keeps busy ends deeds) : (time >>= f).Keeps busy ends deeds := ⟨hbusy, h⟩

theorem keeps_freshId_bind {subject : Subject} {f : Id subject → Program α} {deeds : List Deed}
    (hbusy : busy deeds []) (h : ∀ u, (f ⟨u⟩).Keeps busy ends deeds) :
    (freshId subject >>= f).Keeps busy ends deeds := ⟨hbusy, h⟩

/-- A program that does only what it may is busy or has ended. -/
theorem Keeps.busy_or_ends {p : Program α} {deeds : List Deed} (h : p.Keeps busy ends deeds) :
    (p.isDone = false ∧ busy deeds p.asks) ∨ ∃ r, p = .done r ∧ ends deeds r := by
  cases p with
  | done r => exact Or.inr ⟨r, rfl, h⟩
  | call c next | draw next | now next | fresh next | announce n next => exact Or.inl ⟨rfl, h.1⟩

theorem keeps_step {p : Program α} {deeds : List Deed} (h : p.Keeps busy ends deeds) (m : Moment)
    (w : World) :
    (p.step (m.world w) m.refusal).1.Keeps busy ends (deeds ++ p.deeds m w) := by
  cases p with
  | done r =>
      change ends (deeds ++ []) r
      rw [List.append_nil]
      exact h
  | call c next =>
      rw [step_call_fst]
      exact h.2 _ _
  | announce n next => exact h.2 _ _ _
  | draw next => exact (List.append_nil deeds).symm ▸ h.2 _
  | now next => exact (List.append_nil deeds).symm ▸ h.2 _
  | fresh next => exact (List.append_nil deeds).symm ▸ h.2 _

/-- A look that is answered shows the row that is in the store. -/
theorem get?_of_mem_deeds {m : Moment} {w : World} {p : Program α} {time : Instant}
    {id : AccountId} {a : Account} (h : .asked time (.getAccount id) (.ok a) ∈ p.deeds m w) :
    w.store.accounts.get? id = some a := by
  cases p with
  | call c next =>
      simp only [deeds, List.mem_singleton, Deed.asked.injEq] at h
      rcases h with ⟨_, rfl, hanswer⟩
      exact Moment.get?_of_answer (eq_of_heq hanswer).symm
  | announce n next => cases List.mem_singleton.mp h
  | done r | draw next | now next | fresh next => cases h

/-- A step changes nothing, or it is a call that was answered and has had its effect. -/
theorem step_cases {p : Program α} {deeds : List Deed} (h : p.Keeps busy ends deeds) (m : Moment)
    (w : World) :
    (changes (p.deeds m w) = [] ∧ (p.step (m.world w) m.refusal).2.store = w.store) ∨
    ∃ c reply, p.deeds m w = [.asked m.clock c (.ok reply)] ∧ c.isMutating = true ∧
      busy deeds [c] ∧ w.store.Effect m.clock c (p.step (m.world w) m.refusal).2.store := by
  have hchanged := p.changed_step m w
  cases p with
  | call c next =>
      change w.store.Changed (changes [.asked m.clock c (m.answer w.store c)]) _ at hchanged
      rcases hanswer : m.answer w.store c with e | reply
      · rw [hanswer, changes_refused] at hchanged
        refine Or.inl ⟨?_, hchanged.eq_of_nil⟩
        change changes [.asked m.clock c (m.answer w.store c)] = []
        rw [hanswer, changes_refused]
      · cases hc : c.isMutating with
        | false =>
            rw [changes_looked _ hc] at hchanged
            exact Or.inl ⟨changes_looked _ hc _, hchanged.eq_of_nil⟩
        | true =>
            rw [hanswer, changes_changed _ hc] at hchanged
            refine Or.inr ⟨c, reply, ?_, hc, h.1, hchanged.effect⟩
            change [Deed.asked m.clock c (m.answer w.store c)] = _
            rw [hanswer]
  | done r | draw next | now next | fresh next | announce n next =>
      exact Or.inl ⟨rfl, hchanged.eq_of_nil⟩

/-- A program that runs alone ends as it may, after deeds that made the store what it is then. -/
theorem exists_deeds_runAlone {p : Program α} {deeds : List Deed} (h : p.Keeps busy ends deeds)
    (w : World) : ∃ more, ends (deeds ++ more) (p.runAlone w).1 ∧
      w.store.Changed (changes more) (p.runAlone w).2.store := by
  induction p generalizing w deeds with
  | done r =>
      refine ⟨[], ?_, .nil _⟩
      rw [List.append_nil]
      exact h
  | call c next ih =>
      rw [runAlone_call]
      rcases ih _ (h.2 w.clock (w.ask c).1) (w.ask c).2 with ⟨more, hends, hchanged⟩
      refine ⟨.asked w.clock c (w.ask c).1 :: more, ?_, ?_⟩
      · rw [List.append_cons]
        exact hends
      · have hfirst := w.store.changed_after w.clock c
        rw [← World.ask_fst, ← World.store_ask] at hfirst
        exact changes_append [_] more ▸ hfirst.append hchanged
  | draw next ih => exact ih _ (h.2 _) w.draw.2
  | now next ih => exact ih _ (h.2 _) w.tick.2
  | fresh next ih => exact ih _ (h.2 w.fresh.1) w.fresh.2
  | announce n next ih =>
      rcases ih (h.2 w.fresh.1 w.fresh.2.tick.1 true) (w.announce n) with ⟨more, hends, hchanged⟩
      rw [List.append_assoc] at hends
      exact ⟨_, hends, hchanged⟩

end Program

end BankLedger
