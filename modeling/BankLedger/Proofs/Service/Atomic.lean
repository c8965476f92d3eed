import BankLedger.Proofs.Service.Conduct
import BankLedger.Proofs.Service.Exact
import BankLedger.Proofs.Store.InPlace

/-!
# All or Nothing

Whoever is told that a request failed will ask again, so a request that failed must have done
nothing; and whoever is told that it succeeded will not. Here it is shown that the answer tells
which it was, on every schedule and whichever calls the store refuses: an error means that nothing
was changed and nothing announced, and any other answer that the one change was made, once, and at
most one event reached the queue.

The case to watch is a credit or a debit whose account cannot be read back. Its money has moved by
then, so the answer must not be an error.

That a call itself does all or nothing is not a matter of how the store is defined. It is shown of
the store that works in place.

## Main definitions

* `Accounted`: What a request has done, as its answer tells.

## Theorems

* `Chronicle.accounted_run`: The answer of every request tells what it has done.
* `Chronicle.allOrNothing`: That, and what it means for the store and the queue.
-/

namespace BankLedger

open Deed

/-- What a request has done, as its answer tells. -/
structure Accounted (settings : Settings) (r : Request) (rest : Program Answer)
    (deeds : List Deed) : Prop where
  refused : ∀ e, rest = .done (.error e) → changes deeds = [] ∧ queued deeds = []
  changed : ∀ answer, rest = .done (.ok answer) → r.isMutating = true →
    (∃ time c reply, OnlyChange deeds time c reply ∧ r.FulfilledBy settings c ∧
      c.Answered reply answer) ∧ (queued deeds).length ≤ 1
  /-- When the account cannot be read back, the money has moved all the same. -/
  readBack : ReadBackFailed deeds → rest = .done (.ok (.moved none)) ∧ queued deeds = [] ∧
    ∃ time id delta reply, OnlyChange deeds time (.applyDelta id delta) reply

namespace Request

variable {settings : Settings} {r : Request} {deeds : List Deed}

theorem queued_eq_nil (h : events deeds = []) : queued deeds = [] :=
  List.sublist_nil.mp (h ▸ queued_sublist deeds)

/-- A request that ends as it may has done what its answer tells. -/
theorem MayEnd.accounted {result : Except LedgerError Answer} (h : r.MayEnd settings deeds result) :
    Accounted settings r (.done result) deeds where
  refused e heq := by
    have htraceless := h.refused e (Program.done.inj heq)
    exact ⟨htraceless.1, queued_eq_nil htraceless.2⟩
  changed answer heq hr := by
    rcases h.changed answer (Program.done.inj heq) hr with ⟨hchange, hevents⟩
    exact ⟨hchange, (queued_sublist deeds).length_le.trans hevents⟩
  readBack hfailed := by
    rcases h.readBack hfailed with ⟨hresult, hevents⟩
    refine ⟨congrArg _ hresult, queued_eq_nil hevents, ?_⟩
    rcases hfailed with ⟨earlier, time, time', id, delta, reply, e, hdeeds⟩
    have hmem : .asked time (.applyDelta id delta) (.ok reply) ∈ deeds := by simp [hdeeds]
    have hchanged := mem_changes deeds time rfl rfl hmem
    -- The request was meant to change something, or else the delta would not be among its changes.
    cases hr : r.isMutating with
    | false =>
        rw [(h.looked _ hresult hr).1] at hchanged
        cases hchanged
    | true =>
        rcases (h.changed _ hresult hr).1 with ⟨time₁, c, reply₁, honly, _, _⟩
        rw [honly.changes_eq, List.mem_singleton] at hchanged
        exact ⟨time, id, delta, reply, hchanged ▸ honly.changes_eq, hmem⟩

end Request

namespace Chronicle

variable {ι : Type} [DecidableEq ι] (settings : Settings) (w : World) (requests : ι → Request)
  (moments : ι → Nat → Moment) (schedule : List ι)

/-- The answer of every request tells what it has done. -/
theorem accounted_run (i : ι) :
    Accounted settings (requests i) (((start settings w requests).run moments schedule).rest i)
      (((start settings w requests).run moments schedule).deedsOf i) := by
  rcases (conducted_run w moments schedule i).busy_or_ends with
    ⟨hbusy, hmay⟩ | ⟨r, hr, hends⟩
  · -- A request that is busy has no answer yet, and it is not reading back in vain.
    exact {
      refused e heq := by rw [heq] at hbusy; cases hbusy
      changed answer heq := by rw [heq] at hbusy; cases hbusy
      readBack hfailed := absurd hfailed hmay.readBack }
  · rw [hr]
    exact hends.accounted

/-- All or nothing. However requests are interleaved, and whichever calls the store refuses, the
    store and the queue are what the deeds of the requests have made of them, and each request has
    done what its answer tells: nothing when it is an error, and otherwise its one change, with one
    event at most. A store that works in place is left alone by the calls that it refuses. -/
theorem allOrNothing :
    ((start settings w requests).run moments schedule).Recorded w ∧
    (∀ i, Accounted settings (requests i) (((start settings w requests).run moments schedule).rest i)
      (((start settings w requests).run moments schedule).deedsOf i)) ∧
    ∀ (s t : Store) (now : Instant) (c : Call) (e : LedgerError),
      InPlace.perform now c s = (.error e, t) → t = s :=
  ⟨recorded_run moments settings w requests schedule,
    accounted_run settings w requests moments schedule, fun _ _ _ _ _ => InPlace.eq_of_refused⟩

/-- The store does not answer the third call. -/
def thirdUnanswered (_ : Unit) (step : Nat) : Moment :=
  ⟨.epoch, 0, 0, if step = 2 then some .timeout else none⟩

/-- A credit of a hundredth to an account with a hundredth on it, which cannot be read back. -/
def unread : Chronicle Unit :=
  (start .default (Request.ledgerWith .hundredth) fun _ => .credit default .hundredth).run
    thirdUnanswered [(), (), ()]

/-- The money has moved, once, and the answer is no error. -/
theorem unread_allOrNothing : ReadBackFailed (unread.deedsOf ()) ∧
    unread.rest () = .done (.ok (.moved none)) ∧ queued (unread.deedsOf ()) = [] ∧
    (unread.store.accounts.get? default).map (·.balance.toRat) = some (2 / 100) := by
  have hfailed : ReadBackFailed (unread.deedsOf ()) :=
    ⟨[.asked .epoch (.getAccount default) _], .epoch, .epoch, default, .hundredth, (), .timeout,
      rfl⟩
  rcases allOrNothing .default (Request.ledgerWith .hundredth) (fun _ => .credit default .hundredth)
    thirdUnanswered [(), (), ()] with ⟨_, haccounted, _⟩
  rcases (haccounted ()).readBack hfailed with ⟨hanswer, hqueued, _⟩
  exact ⟨hfailed, hanswer, hqueued, by decide +kernel⟩

end Chronicle

end BankLedger
