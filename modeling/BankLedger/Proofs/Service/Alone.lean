import BankLedger.Proofs.Store.Effect
import BankLedger.Service.Ledger

/-!
# Programs that Run Alone

A program that runs by itself meets nobody, so the calls that it has made do not matter and its run
can be taken apart at every `bind`. Here this is done once: each of the steps that programs are made
of has a lemma that says when it succeeds and which world it leaves.

Reading the clock, making an identifier and announcing an event leave the store alone. So after a
run the store is the one that the last call of the run left. The queue is only added to: no program
looks at it, so a run comes out the same whatever waits in it.

## Main definitions

* `World.withOutbox`: A world with another queue.

## Theorems

* `World.ask_snd`: What a call touches.
* `runAlone_bind`: One program after another.
* `runAlone_bind_eq_ok_iff`: How it succeeds.
* `runAlone_withOutbox`: A program does not look at the queue.
* `runAlone_ask_eq_ok`, `runAlone_ask_eq_error`: A call of the store.
-/

namespace BankLedger

namespace World

@[simp] theorem store_announce (w : World) (n : Notice) : (w.announce n).store = w.store := rfl

/-- A call is answered as the store answers it. -/
theorem ask_fst (w : World) (c : Call) :
    (w.ask c).1 = (w.store.perform w.clock c).map Prod.fst := by
  unfold ask
  simp only [tick]
  cases w.store.perform w.clock c with
  | ok answer => rfl
  | error e => rfl

/-- A call reads the clock and leaves the store as it is after the call. Nothing else is touched. -/
theorem ask_snd (w : World) (c : Call) : (w.ask c).2
    = { w with store := w.store.after w.clock c, clock := w.clock.next } := by
  unfold ask Store.after
  simp only [tick]
  cases w.store.perform w.clock c with
  | ok answer => rfl
  | error e => rfl

@[simp] theorem store_ask (w : World) (c : Call) :
    (w.ask c).2.store = w.store.after w.clock c := by rw [ask_snd]

theorem outbox_ask (w : World) (c : Call) : (w.ask c).2.outbox = w.outbox := by
  rw [ask_snd]

theorem made_ask (w : World) (c : Call) : (w.ask c).2.made = w.made := by
  rw [ask_snd]

/-- The world with another queue. -/
def withOutbox (w : World) (o : Outbox) : World := { w with outbox := o }

/-- A call does not look at the queue. -/
theorem ask_withOutbox (w : World) (o : Outbox) (c : Call) :
    (w.withOutbox o).ask c = ((w.ask c).1, (w.ask c).2.withOutbox o) := by
  refine Prod.ext ?_ ?_
  · rw [ask_fst, ask_fst]
    rfl
  · rw [ask_snd, ask_snd]
    rfl

end World

namespace Program

variable {α β : Type}

@[simp] theorem pure_eq (a : α) : (pure a : Program α) = .done (.ok a) := rfl

/-- Programs may be put together from the left or from the right. -/
theorem bind_assoc {γ : Type} (p : Program α) (f : α → Program β) (g : β → Program γ) :
    p >>= f >>= g = p >>= fun a => f a >>= g := by
  change (p.bind f).bind g = p.bind fun a => (f a).bind g
  induction p with
  | done r =>
      cases r with
      | ok a => rfl
      | error e => rfl
  | call c next ih => exact congrArg (Program.call c) (funext ih)
  | draw next ih => exact congrArg Program.draw (funext ih)
  | now next ih => exact congrArg Program.now (funext ih)
  | fresh next ih => exact congrArg Program.fresh (funext ih)
  | announce n next ih => exact congrArg (Program.announce n) ih

theorem run_alone_call (c : Call) (next : Except LedgerError c.Reply → Program α) (w : World)
    (made : List Call) : (Program.call c next).run alone made w
      = (next (w.ask c).1).run alone (c :: made) (w.ask c).2 := by
  simp only [run, alone, List.foldl_nil]

-- By induction on the program. The list of calls is generalised, because each call adds to it.
/-- Without a surrounding that looks at them, the calls made before do not matter. -/
theorem run_alone_made (p : Program α) (w : World) (made : List Call) :
    p.run alone made w = p.runAlone w := by
  unfold runAlone
  induction p generalizing w made with
  | done r => rfl
  | call c next ih =>
      rw [run_alone_call, run_alone_call]
      exact (ih _ _ _).trans (ih _ _ _).symm
  | draw next ih => exact ih _ _ _
  | now next ih => exact ih _ _ _
  | fresh next ih => exact ih _ _ _
  | announce n next ih => exact ih _ _

@[simp] theorem runAlone_done (r : Except LedgerError α) (w : World) :
    (Program.done r).runAlone w = (r, w) := rfl

theorem runAlone_call (c : Call) (next : Except LedgerError c.Reply → Program α) (w : World) :
    (Program.call c next).runAlone w = (next (w.ask c).1).runAlone (w.ask c).2 := by
  unfold runAlone
  rw [run_alone_call, run_alone_made]
  rfl

/-- One program after another; an error ends both. -/
theorem runAlone_bind (p : Program α) (f : α → Program β) (w : World) :
    (p >>= f).runAlone w = match p.runAlone w with
      | (.ok a, w') => (f a).runAlone w'
      | (.error e, w') => (.error e, w') := by
  change (p.bind f).runAlone w = _
  induction p generalizing w with
  | done r =>
      cases r with
      | ok a => rfl
      | error e => rfl
  | call c next ih =>
      rw [runAlone_call]
      exact (runAlone_call c _ w).trans (ih _ _)
  | draw next ih => exact ih _ _
  | now next ih => exact ih _ _
  | fresh next ih => exact ih _ _
  | announce n next ih => exact ih _

-- By induction on the program. Only an announcement touches the queue, and it touches nothing else
-- that a program could look at.
/-- A program that runs alone does not look at the queue. -/
theorem runAlone_withOutbox (p : Program α) (w : World) (o : Outbox) :
    ∃ o', p.runAlone (w.withOutbox o) = ((p.runAlone w).1, (p.runAlone w).2.withOutbox o') := by
  induction p generalizing w o with
  | done r => exact ⟨o, rfl⟩
  | call c next ih =>
      rw [runAlone_call, runAlone_call, World.ask_withOutbox]
      exact ih _ _ _
  | draw next ih => exact ih w.draw.1 w.draw.2 o
  | now next ih => exact ih w.tick.1 w.tick.2 o
  | fresh next ih => exact ih w.fresh.1 w.fresh.2 o
  | announce n next ih => exact ih (w.announce n) ((w.withOutbox o).announce n).outbox

/-- The clock is read and shows a later time from then on. -/
theorem runAlone_time_bind (f : Instant → Program α) (w : World) :
    (time >>= f).runAlone w = (f w.clock).runAlone w.tick.2 := rfl

/-- An identifier is made and is not made again. -/
theorem runAlone_freshId_bind {subject : Subject} (f : Id subject → Program α) (w : World) :
    (freshId subject >>= f).runAlone w = (f ⟨w.fresh.1⟩).runAlone w.fresh.2 := rfl

/-- One program after another succeeds when the first does, and then the second with its answer. -/
theorem runAlone_bind_eq_ok_iff (p : Program α) (f : α → Program β) (w w' : World) (b : β) :
    (p >>= f).runAlone w = (.ok b, w') ↔
      ∃ a v, p.runAlone w = (.ok a, v) ∧ (f a).runAlone v = (.ok b, w') := by
  rw [runAlone_bind]
  rcases p.runAlone w with ⟨e | a, v⟩
  · simp only [Prod.mk.injEq, reduceCtorEq, false_and, exists_false]
  · simp only [Prod.mk.injEq, Except.ok.injEq, and_assoc, exists_eq_left', exists_and_left]

/-- A call succeeds when the store carries it out, and leaves the store that came of it. -/
theorem runAlone_ask_eq_ok {c : Call} {w w' : World} {r : c.Reply}
    (h : (ask c).runAlone w = (.ok r, w')) : w.store.perform w.clock c = .ok (r, w'.store) := by
  unfold ask at h
  rw [runAlone_call, runAlone_done, World.ask_fst, Prod.mk.injEq] at h
  rcases h with ⟨hanswer, rfl⟩
  rcases (Attempt.map_eq_ok_iff _ _ _).mp hanswer with ⟨⟨r', t⟩, hrun, rfl⟩
  rw [World.store_ask, Store.after_of_perform hrun, hrun]

/-- A call fails when the store refuses it, and leaves the store as it is. -/
theorem runAlone_ask_eq_error {c : Call} {w w' : World} {e : LedgerError}
    (h : (ask c).runAlone w = (.error e, w')) :
    w.store.perform w.clock c = .error e ∧ w'.store = w.store := by
  unfold ask at h
  rw [runAlone_call, runAlone_done, World.ask_fst, Prod.mk.injEq] at h
  rcases h with ⟨hanswer, rfl⟩
  rcases hrun : w.store.perform w.clock c with e' | answer
  · rw [hrun, Attempt.map_error, Except.error.injEq] at hanswer
    rw [World.store_ask, Store.after_of_refused hrun, hanswer]
    exact ⟨rfl, rfl⟩
  · rw [hrun, Attempt.map_ok] at hanswer
    cases hanswer

end Program

end BankLedger
