import BankLedger.Proofs.Account.Posting
import BankLedger.Proofs.Service.Checks
import BankLedger.Proofs.Service.Chronicle

/-!
# How Requests Conduct Themselves

Seven kinds of requests are meant to change something, and each of them is after one change: one
call of the store that is settled by the request, up to times, identifiers and account numbers that
are drawn on the way. `Request.FulfilledBy` lists these calls.

All requests conduct themselves alike. Before the change they only look, and whatever goes wrong is
passed on as an error with nothing done. Opening an account is the one request that may try its
change several times, but only after the store has refused it. After the change nothing goes wrong
any more, one event at most is announced, and the answer is no error, not even when the account
cannot be read back.

## Main definitions

* `Request.FulfilledBy`: The change that a request is after.
* `Call.Answered`: The answer that is given once it has been made.
* `Deed.Traceless`: Nothing was changed and nothing announced.
* `Deed.ReadBackFailed`: Money has moved, but the account could not be read afterwards.
* `Request.MayBusy`, `Request.MayEnd`: What all requests have in common.
* `Chronicle.Conducted`: All requests have conducted themselves so.

## Theorems

* `Request.keeps`: All requests conduct themselves alike.
* `Chronicle.conducted_run`: No schedule makes them do anything else.
* `Chronicle.Conducted.step_cases`: What a turn of a request can do to the store.
* `Chronicle.Conducted.store_induction`: What every change preserves holds of every run.
-/

namespace BankLedger

open Deed

/-- The answer that is given once the call has been carried out. -/
def Call.Answered : (c : Call) → c.Reply → Answer → Prop
  | .createAccount a, _, answer => answer = .account a
  | .amend _ _ _, a, answer => answer = .account a
  | .changeStatus _ _ _, a, answer => answer = .account a
  | .applyDelta _ _, _, answer => ∃ b, answer = .moved b
  | .createHold h, _, answer => answer = .hold h
  | .releaseHold _ _, h, answer => answer = .hold h
  | _, _, _ => False

/-- The account that has to be seen active before the call is made. -/
def Call.activeAccount? : Call → Option AccountId
  | .applyDelta id _ => some id
  | .createHold h => some h.account
  | _ => none

namespace Deed

/-- Nothing was changed and nothing announced. -/
def Traceless (deeds : List Deed) : Prop := changes deeds = [] ∧ events deeds = []

/-- The store refused the call. -/
def isRefused : Deed → Bool
  | .asked _ _ answer => !answer.isOk
  | .announced _ _ => false

/-- Money has moved, but the account could not be read afterwards. -/
def ReadBackFailed (deeds : List Deed) : Prop :=
  ∃ earlier time time' id delta reply e, deeds = earlier ++
    [.asked time (.applyDelta id delta) (.ok reply), .asked time' (.getAccount id) (.error e)]

variable {deeds : List Deed} {c : Call}

theorem traceless_nil : Traceless [] := ⟨rfl, rfl⟩

theorem Traceless.append {d : Deed} (h : Traceless deeds) (hd : Traceless [d]) :
    Traceless (deeds ++ [d]) := by
  unfold Traceless
  rw [changes_append, events_append, h.1, h.2]
  exact hd

theorem traceless_refused (time : Instant) (e : LedgerError) :
    Traceless [.asked time c (.error e)] := ⟨changes_refused time e, rfl⟩

theorem traceless_looked (hc : c.isMutating = false) (time : Instant)
    (answer : Except LedgerError c.Reply) : Traceless [.asked time c answer] :=
  ⟨changes_looked time hc answer, rfl⟩

/-- The call was carried out, and nothing else was changed. -/
structure OnlyChange (deeds : List Deed) (time : Instant) (c : Call) (reply : c.Reply) : Prop where
  changes_eq : changes deeds = [(time, c)]
  mem : .asked time c (.ok reply) ∈ deeds

theorem Traceless.onlyChange (h : Traceless deeds) (hc : c.isMutating = true) (time : Instant)
    (reply : c.Reply) : OnlyChange (deeds ++ [.asked time c (.ok reply)]) time c reply where
  changes_eq := by rw [changes_append, h.1, changes_changed time hc, List.nil_append]
  mem := by simp

theorem OnlyChange.append {time : Instant} {reply : c.Reply} {d : Deed}
    (h : OnlyChange deeds time c reply) (hd : changes [d] = []) :
    OnlyChange (deeds ++ [d]) time c reply where
  changes_eq := by rw [changes_append, h.changes_eq, hd, List.append_nil]
  mem := List.mem_append_left _ h.mem

theorem Traceless.events_append (h : Traceless deeds) (time : Instant)
    (answer : Except LedgerError c.Reply) : events (deeds ++ [.asked time c answer]) = [] := by
  rw [Deed.events_append, h.2, events_asked, List.nil_append]

/-- Reading back fails on a refused look only. -/
theorem not_readBackFailed_of_last (h : ∀ d ∈ deeds.getLast?, d.isRefused = false) :
    ¬ ReadBackFailed deeds := by
  rintro ⟨earlier, time, time', id, delta, reply, e, rfl⟩
  have hlast := h (.asked time' (.getAccount id) (.error e)) (by simp)
  cases hlast

theorem not_readBackFailed_append {d : Deed} (hd : d.isRefused = false) :
    ¬ ReadBackFailed (deeds ++ [d]) := by
  refine not_readBackFailed_of_last fun d' hd' => ?_
  rw [List.getLast?_concat, Option.mem_def, Option.some.injEq] at hd'
  exact hd' ▸ hd

/-- Without a change there is nothing to read back. -/
theorem Traceless.not_readBackFailed (h : Traceless deeds) : ¬ ReadBackFailed deeds := by
  rintro ⟨earlier, t, t', id, delta, reply, e, rfl⟩
  have hchanges := h.1
  rw [Deed.changes_append, List.append_eq_nil_iff] at hchanges
  cases hchanges.2

end Deed

namespace Request

/-- The request is meant to change something. -/
def isMutating : Request → Bool
  | .openAccount _ => true
  | .changeStatus _ _ => true
  | .update _ _ _ => true
  | .credit _ _ => true
  | .debit _ _ => true
  | .createHold _ => true
  | .releaseHold _ => true
  | _ => false

/-- The change that a request is after, as a call of the store. -/
inductive FulfilledBy (settings : Settings) : Request → Call → Prop where
  | opened {request : OpenRequest} {id : AccountId} {currency : String} {number : AccountNumber}
      {rate : Decimal} {now : Instant}
      (hcurrency : Ledger.currencyFor settings request.currency = .ok currency)
      (hrate : Ledger.rateFor settings request.kind request.rate = .ok rate) :
      FulfilledBy settings (.openAccount request) (.createAccount
        (.start id request.customer request.kind currency number rate now))
  | acted {action : Action} {id : AccountId} {time : Instant} :
      FulfilledBy settings (.changeStatus action id) (.changeStatus id action time)
  /-- To set the status to closed is to close the account. -/
  | closed {id : AccountId} {time : Instant} :
      FulfilledBy settings (.update id (some .closed) none) (.changeStatus id .close time)
  | amended {id : AccountId} {status : Option Status} {rate : Option Decimal}
      (hstatus : status ≠ some .closed) (hrate : ∀ x ∈ rate, x.isNegative = false) :
      FulfilledBy settings (.update id status rate) (.amend id status rate)
  | credited {id : AccountId} {x : Decimal} {amount : Amount}
      (hamount : Amount.ofDecimal x = .ok amount) :
      FulfilledBy settings (.credit id x) (.applyDelta id amount.value)
  | debited {id : AccountId} {x : Decimal} {amount : Amount}
      (hamount : Amount.ofDecimal x = .ok amount) :
      FulfilledBy settings (.debit id x) (.applyDelta id (-amount.value))
  | held {request : HoldRequest} {id : HoldId} {amount : Amount} {now : Instant}
      (hamount : Amount.ofDecimal request.amount = .ok amount)
      (hreason : Ledger.checkReason request.reason = .ok ())
      (hexpiry : Ledger.checkExpiry now request.expiresAt = .ok ()) :
      FulfilledBy settings (.createHold request) (.createHold
        (.start id request.account amount request.reason request.reference request.expiresAt now))
  | released {id : HoldId} {time : Instant} :
      FulfilledBy settings (.releaseHold id) (.releaseHold id time)

theorem FulfilledBy.isMutating {settings : Settings} {r : Request} {c : Call}
    (h : r.FulfilledBy settings c) : r.isMutating = true ∧ c.isMutating = true := by
  cases h with
  | opened | acted | closed | amended | credited | debited | held | released => exact ⟨rfl, rfl⟩

/-- The rows that requests bring into the store are new ones. -/
theorem FulfilledBy.bringsNew {settings : Settings} {r : Request} {c : Call}
    (h : r.FulfilledBy settings c) : c.BringsNew := by
  cases h with
  | opened _ _ => exact ⟨_, _, _, _, _, _, _, rfl⟩
  | held hamount _ _ =>
      rcases (Amount.ofDecimal_eq_ok_iff _ _).mp hamount with ⟨hpositive, hvalue⟩
      exact ⟨(Decimal.isPositive_iff _).mpr (hvalue ▸ hpositive), _, _, _, _, _, _, rfl⟩
  | acted | closed | amended | credited | debited | released => trivial

variable (settings : Settings) (r : Request)

/-- What may be said of a request that is busy: it has changed nothing yet when it is about to make
    a change, the change is the one that it is after, and the account was seen active where it has
    to be. A failed reading back does not keep it busy. -/
structure MayBusy (deeds : List Deed) (asks : List Call) : Prop where
  unchanged : ∀ c ∈ asks, c.isMutating = true → changes deeds = []
  fulfilled : ∀ c ∈ asks, c.isMutating = true → r.FulfilledBy settings c
  active : ∀ c ∈ asks, ∀ id ∈ c.activeAccount?, ∃ time a,
    .asked time (.getAccount id) (.ok a) ∈ deeds ∧ a.status = .active
  readBack : ¬ ReadBackFailed deeds

/-- How a request may end: with an error and nothing done; or with its change made, once, and one
    event at most. -/
structure MayEnd (deeds : List Deed) (result : Except LedgerError Answer) : Prop where
  refused : ∀ e, result = .error e → Traceless deeds
  changed : ∀ answer, result = .ok answer → r.isMutating = true →
    (∃ time c reply, OnlyChange deeds time c reply ∧ r.FulfilledBy settings c ∧
      c.Answered reply answer) ∧ (events deeds).length ≤ 1
  looked : ∀ answer, result = .ok answer → r.isMutating = false → Traceless deeds
  readBack : ReadBackFailed deeds → result = .ok (.moved none) ∧ events deeds = []

variable {settings r} {deeds : List Deed}

/-- At the end nothing has been changed but what the request is after. -/
theorem MayEnd.fulfilled {result : Except LedgerError Answer} (h : r.MayEnd settings deeds result) :
    ∀ c ∈ changes deeds, r.FulfilledBy settings c.2 := by
  have hnothing (htraceless : Traceless deeds) : ∀ c ∈ changes deeds, r.FulfilledBy settings c.2 :=
    fun c hc => absurd (htraceless.1 ▸ hc) List.not_mem_nil
  cases result with
  | error e => exact hnothing (h.refused e rfl)
  | ok answer =>
      cases hr : r.isMutating with
      | false => exact hnothing (h.looked answer rfl hr)
      | true =>
          rcases (h.changed answer rfl hr).1 with ⟨time, call, reply, honly, hfulfilled, _⟩
          intro c hc
          rw [honly.changes_eq, List.mem_singleton] at hc
          exact hc ▸ hfulfilled

/-- The end before the change. -/
theorem mayEnd_error (e : LedgerError) (h : Traceless deeds) :
    r.MayEnd settings deeds (.error e) where
  refused _ _ := h
  changed _ heq := by cases heq
  looked _ heq := by cases heq
  readBack hfailed := absurd hfailed h.not_readBackFailed

/-- The end of a request that only looks. -/
theorem mayEnd_looked (hr : r.isMutating = false) (h : Traceless deeds)
    (result : Except LedgerError Answer) : r.MayEnd settings deeds result where
  refused _ _ := h
  changed _ _ hmutating := by rw [hr] at hmutating; cases hmutating
  looked _ _ _ := h
  readBack hfailed := absurd hfailed h.not_readBackFailed

/-- The end after the change. -/
theorem mayEnd_changed {time : Instant} {c : Call} {reply : c.Reply} {answer : Answer}
    (hchange : OnlyChange deeds time c reply) (hfulfilled : r.FulfilledBy settings c)
    (hanswered : c.Answered reply answer) (hevents : (events deeds).length ≤ 1)
    (hreadBack : ReadBackFailed deeds → answer = .moved none ∧ events deeds = []) :
    r.MayEnd settings deeds (.ok answer) where
  refused _ heq := by cases heq
  changed _ heq _ := by
    cases heq
    exact ⟨⟨time, c, reply, hchange, hfulfilled, hanswered⟩, hevents⟩
  looked _ _ hlooking := by rw [hfulfilled.isMutating.1] at hlooking; cases hlooking
  readBack hfailed := ⟨congrArg _ (hreadBack hfailed).1, (hreadBack hfailed).2⟩

/-- A step that makes no change may be taken at any time. -/
theorem mayBusy_quiet {asks : List Call}
    (hasks : ∀ c ∈ asks, c.isMutating = false ∧ c.activeAccount? = none)
    (h : ¬ ReadBackFailed deeds) : r.MayBusy settings deeds asks where
  unchanged c hc hmutating := by rw [(hasks c hc).1] at hmutating; cases hmutating
  fulfilled c hc hmutating := by rw [(hasks c hc).1] at hmutating; cases hmutating
  active c hc id hid := by rw [(hasks c hc).2] at hid; cases hid
  readBack := h

/-- The change may be made when nothing has been done before. -/
theorem mayBusy_change {c : Call} (hfulfilled : r.FulfilledBy settings c) (h : Traceless deeds)
    (hactive : ∀ id ∈ c.activeAccount?, ∃ time a,
      .asked time (.getAccount id) (.ok a) ∈ deeds ∧ a.status = .active) :
    r.MayBusy settings deeds [c] where
  unchanged _ _ _ := h.1
  fulfilled c' hc' _ := by
    rw [List.mem_singleton] at hc'
    exact hc' ▸ hfulfilled
  active c' hc' := by
    rw [List.mem_singleton] at hc'
    exact hc' ▸ hactive
  readBack := h.not_readBackFailed

/-- A step that makes no call, before the change. -/
theorem mayBusy_silent (h : Traceless deeds) : r.MayBusy settings deeds [] :=
  mayBusy_quiet (by simp) h.not_readBackFailed

section Steps

open Program

variable {α : Type} {c : Call}

/-- A look at the store, before the change. When it is refused the request ends. -/
theorem keeps_look {f : c.Reply → Program α} {ends : List Deed → Except LedgerError α → Prop}
    (hc : c.isMutating = false) (hactive : c.activeAccount? = none) (h : Traceless deeds)
    (herror : ∀ deeds e, Traceless deeds → ends deeds (.error e))
    (hok : ∀ time reply, (f reply).Keeps (r.MayBusy settings) ends
      (deeds ++ [.asked time c (.ok reply)])) :
    (ask c >>= f).Keeps (r.MayBusy settings) ends deeds := by
  refine ⟨mayBusy_quiet (by simp [hc, hactive]) h.not_readBackFailed, fun time answer => ?_⟩
  cases answer with
  | error e => exact herror _ e (h.append (traceless_refused time e))
  | ok reply => exact hok time reply

/-- The last look at the store of a request that only looks. -/
theorem keeps_last_look {result : Except LedgerError c.Reply → Except LedgerError Answer}
    (hr : r.isMutating = false) (hc : c.isMutating = false) (hactive : c.activeAccount? = none)
    (h : Traceless deeds) : (ask c).Keeps (r.MayBusy settings)
      (fun deeds x => r.MayEnd settings deeds (result x)) deeds :=
  ⟨mayBusy_quiet (by simp [hc, hactive]) h.not_readBackFailed, fun time _ =>
    mayEnd_looked hr (h.append (traceless_looked hc time _)) _⟩

/-- The change itself. When it is refused the request ends. -/
theorem keeps_change {f : c.Reply → Program α} {ends : List Deed → Except LedgerError α → Prop}
    (hfulfilled : r.FulfilledBy settings c) (h : Traceless deeds)
    (hactive : ∀ id ∈ c.activeAccount?, ∃ time a,
      .asked time (.getAccount id) (.ok a) ∈ deeds ∧ a.status = .active)
    (herror : ∀ deeds e, Traceless deeds → ends deeds (.error e))
    (hok : ∀ time reply, (f reply).Keeps (r.MayBusy settings) ends
      (deeds ++ [.asked time c (.ok reply)])) :
    (ask c >>= f).Keeps (r.MayBusy settings) ends deeds := by
  refine ⟨mayBusy_change hfulfilled h hactive, fun time answer => ?_⟩
  cases answer with
  | error e => exact herror _ e (h.append (traceless_refused time e))
  | ok reply => exact hok time reply

/-- The event after the change, and the answer. -/
theorem keeps_announce {time : Instant} {reply : c.Reply} {n : Notice} {a : α}
    {answer : α → Answer} (h : Traceless deeds) (hfulfilled : r.FulfilledBy settings c)
    (hanswered : c.Answered reply (answer a)) :
    (Program.announce n (pure a)).Keeps (r.MayBusy settings)
      (fun deeds x => r.MayEnd settings deeds (x.map answer))
      (deeds ++ [.asked time c (.ok reply)]) := by
  have hchange := h.onlyChange hfulfilled.isMutating.2 time reply
  refine ⟨mayBusy_quiet (by simp) (not_readBackFailed_append rfl), fun id t taken => ?_⟩
  refine mayEnd_changed (hchange.append rfl) hfulfilled hanswered ?_ fun hfailed =>
    absurd hfailed (not_readBackFailed_append rfl)
  rw [Deed.events_append, h.events_append, events_announced]
  exact Nat.le_refl 1

/-- The change itself, when nothing is announced. -/
theorem keeps_last_change {answer : c.Reply → Answer} (hfulfilled : r.FulfilledBy settings c)
    (h : Traceless deeds) (hactive : ∀ id ∈ c.activeAccount?, ∃ time a,
      .asked time (.getAccount id) (.ok a) ∈ deeds ∧ a.status = .active)
    (hanswered : ∀ reply, c.Answered reply (answer reply)) :
    (ask c).Keeps (r.MayBusy settings) (fun deeds x => r.MayEnd settings deeds (x.map answer))
      deeds := by
  refine ⟨mayBusy_change hfulfilled h hactive, fun time x => ?_⟩
  cases x with
  | error e => exact mayEnd_error e (h.append (traceless_refused time e))
  | ok reply =>
      have hchange := h.onlyChange hfulfilled.isMutating.2 time reply
      refine mayEnd_changed hchange hfulfilled (hanswered reply) ?_ fun hfailed =>
        absurd hfailed (not_readBackFailed_append rfl)
      rw [h.events_append]
      exact Nat.zero_le 1

end Steps

section Programs

open Program

-- By induction on the numbers that are left. Every attempt begins without a trace, because the
-- store has refused those before it.
theorem keeps_openWith {request : OpenRequest} {currency : String} {rate : Decimal}
    (hcurrency : Ledger.currencyFor settings request.currency = .ok currency)
    (hrate : Ledger.rateFor settings request.kind request.rate = .ok rate) (attempts left : Nat)
    (h : Traceless deeds) :
    (Ledger.openWith request currency rate attempts left).Keeps
      ((Request.openAccount request).MayBusy settings)
      (fun deeds x => (Request.openAccount request).MayEnd settings deeds (x.map .account))
      deeds := by
  induction left generalizing deeds with
  | zero => exact mayEnd_error _ h
  | succ left ih =>
      refine ⟨mayBusy_silent h, fun number => ?_⟩
      cases number with
      | error e => exact mayEnd_error e h
      | ok number =>
          refine ⟨mayBusy_silent h, fun u => ⟨mayBusy_silent h, fun now => ?_⟩⟩
          have hfulfilled : FulfilledBy settings _ (.createAccount
              (.start ⟨u⟩ request.customer request.kind currency number rate now)) :=
            .opened hcurrency hrate
          refine ⟨mayBusy_change hfulfilled h nofun, fun time answer => ?_⟩
          cases answer with
          | ok reply => exact keeps_announce h hfulfilled rfl
          | error e =>
              cases e with
              | alreadyExists _ => exact ih (h.append (traceless_refused time _))
              | _ => exact mayEnd_error _ (h.append (traceless_refused time _))

theorem keeps_openAccount (request : OpenRequest) :
    (Ledger.openAccount settings request).Keeps ((Request.openAccount request).MayBusy settings)
      (fun deeds x => (Request.openAccount request).MayEnd settings deeds (x.map .account)) [] :=
  keeps_check (fun e _ => mayEnd_error e traceless_nil) fun _ hcurrency =>
    keeps_check (fun e _ => mayEnd_error e traceless_nil) fun _ hrate =>
      keeps_openWith hcurrency hrate _ _ traceless_nil

theorem keeps_changeStatus {action : Action} {id : AccountId}
    (hfulfilled : ∀ time, r.FulfilledBy settings (.changeStatus id action time)) :
    (Ledger.changeStatus action id).Keeps (r.MayBusy settings)
      (fun deeds x => r.MayEnd settings deeds (x.map .account)) [] :=
  keeps_time_bind (mayBusy_silent traceless_nil) fun now =>
    keeps_change (hfulfilled now) traceless_nil nofun (fun _ e => mayEnd_error e) fun _ _ =>
      keeps_announce traceless_nil (hfulfilled now) rfl

theorem keeps_update (id : AccountId) (status : Option Status) (rate : Option Decimal) :
    (Ledger.update id status rate).Keeps ((Request.update id status rate).MayBusy settings)
      (fun deeds x => (Request.update id status rate).MayEnd settings deeds (x.map .account)) []
    := by
  -- What is left to do once the rate has been found to be one.
  have hrest (hrate : ∀ x ∈ rate, x.isNegative = false) :
      (if status = some .closed then
        if rate.isSome then .fail (.invalidArgument .closingWithRate)
        else Ledger.changeStatus .close id
      else ask (.amend id status rate)).Keeps ((Request.update id status rate).MayBusy settings)
        (fun deeds (x : Except LedgerError Account) =>
          (Request.update id status rate).MayEnd settings deeds (x.map .account)) [] := by
    refine keeps_ite (fun hclosed => ?_) fun hstatus => ?_
    · subst hclosed
      cases rate with
      | some x => exact mayEnd_error _ traceless_nil
      | none => exact keeps_changeStatus fun _ => .closed
    · exact keeps_last_change (.amended hstatus hrate) traceless_nil nofun fun _ => rfl
  cases rate with
  | none => exact hrest (by simp)
  | some x =>
      refine keeps_check (fun e _ => mayEnd_error e traceless_nil) fun y hy => hrest ?_
      rintro _ ⟨⟩
      exact (Decimal.not_isNegative_iff x).mpr ((checkRate_eq_ok_iff x y).mp hy).1

-- The account is seen active, then the money moves, and then whatever comes of reading back the
-- answer is no error.
theorem keeps_move {id : AccountId} {delta : Decimal}
    (hfulfilled : r.FulfilledBy settings (.applyDelta id delta)) :
    (Ledger.move id delta).Keeps (r.MayBusy settings)
      (fun deeds x => r.MayEnd settings deeds (x.map .moved)) [] := by
  refine keeps_look rfl rfl traceless_nil (fun _ e => mayEnd_error e) fun time a => ?_
  have hlooked : Traceless ([] ++ [.asked time (.getAccount id) (.ok a)]) :=
    traceless_looked rfl time _
  refine keeps_check (fun e _ => mayEnd_error e hlooked) fun _ hactive => ?_
  refine keeps_change hfulfilled hlooked ?_ (fun _ e => mayEnd_error e) fun time' reply => ?_
  · rintro _ ⟨⟩
    exact ⟨time, a, by simp, (Account.ensureActive_eq_ok_iff a).mp hactive⟩
  · have hchange := hlooked.onlyChange (c := .applyDelta id delta) rfl time' reply
    refine ⟨mayBusy_quiet (by simp [Call.isMutating, Call.activeAccount?])
      (not_readBackFailed_append rfl), fun time'' answer => ?_⟩
    cases answer with
    | ok b =>
        refine ⟨mayBusy_quiet (by simp) (not_readBackFailed_append rfl), fun _ _ taken => ?_⟩
        exact mayEnd_changed ((hchange.append rfl).append rfl) hfulfilled ⟨_, rfl⟩
          (Nat.le_refl 1) fun hfailed => absurd hfailed (not_readBackFailed_append rfl)
    | error e =>
        exact mayEnd_changed (hchange.append rfl) hfulfilled ⟨_, rfl⟩ (Nat.zero_le 1)
          fun _ => ⟨rfl, rfl⟩

theorem keeps_createHold (request : HoldRequest) :
    (Ledger.createHold request).Keeps ((Request.createHold request).MayBusy settings)
      (fun deeds x => (Request.createHold request).MayEnd settings deeds (x.map .hold)) [] := by
  refine keeps_check (fun e _ => mayEnd_error e traceless_nil) fun amount hamount => ?_
  refine keeps_check (fun e _ => mayEnd_error e traceless_nil) fun _ hreason => ?_
  refine keeps_time_bind (mayBusy_silent traceless_nil) fun now => ?_
  refine keeps_check (fun e _ => mayEnd_error e traceless_nil) fun _ hexpiry => ?_
  refine keeps_look (c := .getAccount request.account) rfl rfl traceless_nil
    (fun _ e => mayEnd_error e) fun time a => ?_
  have hlooked : Traceless ([] ++ [.asked time (.getAccount request.account) (.ok a)]) :=
    traceless_looked rfl time _
  refine keeps_check (fun e _ => mayEnd_error e hlooked) fun _ hactive => ?_
  refine keeps_freshId_bind (mayBusy_silent hlooked) fun u => ?_
  have hfulfilled : FulfilledBy settings _ (.createHold (.start ⟨u⟩ request.account amount
      request.reason request.reference request.expiresAt now)) :=
    .held hamount hreason hexpiry
  refine keeps_change hfulfilled hlooked ?_ (fun _ e => mayEnd_error e) fun _ _ =>
    keeps_announce hlooked hfulfilled rfl
  rintro _ ⟨⟩
  exact ⟨time, a, List.mem_singleton_self _, (Account.ensureActive_eq_ok_iff a).mp hactive⟩

theorem keeps_releaseHold (id : HoldId) :
    (Ledger.releaseHold id).Keeps ((Request.releaseHold id).MayBusy settings)
      (fun deeds x => (Request.releaseHold id).MayEnd settings deeds (x.map .hold)) [] :=
  keeps_time_bind (mayBusy_silent traceless_nil) fun _ =>
    keeps_change .released traceless_nil nofun (fun _ e => mayEnd_error e) fun _ _ =>
      keeps_announce traceless_nil .released rfl

/-- All requests conduct themselves alike, whatever they meet. -/
theorem keeps (settings : Settings) (r : Request) :
    (r.program settings).Keeps (r.MayBusy settings) (r.MayEnd settings) [] := by
  cases r with
  | openAccount request => exact keeps_map (keeps_openAccount request)
  | account id => exact keeps_map (keeps_last_look rfl rfl rfl traceless_nil)
  | accountByNumber s =>
      refine keeps_map (keeps_check (fun e _ => mayEnd_error e traceless_nil) fun n _ => ?_)
      exact keeps_last_look rfl rfl rfl traceless_nil
  | accountsOf customer => exact keeps_map (keeps_last_look rfl rfl rfl traceless_nil)
  | balances id => exact keeps_map (keeps_map (keeps_last_look rfl rfl rfl traceless_nil))
  | owns id customer => exact keeps_map (keeps_map (keeps_last_look rfl rfl rfl traceless_nil))
  | changeStatus action id => exact keeps_map (keeps_changeStatus fun _ => .acted)
  | update id status rate => exact keeps_map (keeps_update id status rate)
  | credit id x =>
      refine keeps_map (keeps_check (fun e _ => mayEnd_error e traceless_nil) fun _ hamount => ?_)
      exact keeps_move (.credited hamount)
  | debit id x =>
      refine keeps_map (keeps_check (fun e _ => mayEnd_error e traceless_nil) fun _ hamount => ?_)
      exact keeps_move (.debited hamount)
  | createHold request => exact keeps_map (keeps_createHold request)
  | releaseHold id => exact keeps_map (keeps_releaseHold id)
  | hold id => exact keeps_map (keeps_last_look rfl rfl rfl traceless_nil)
  | activeHolds id =>
      refine keeps_map (keeps_look (c := .getAccount id) rfl rfl traceless_nil
        (fun _ e => mayEnd_error e) fun time a => ?_)
      exact keeps_last_look rfl rfl rfl (traceless_looked rfl time _)

end Programs

end Request

namespace Chronicle

variable {ι : Type} [DecidableEq ι] {settings : Settings} {requests : ι → Request}
  {x : Chronicle ι}

/-- All requests have conducted themselves as they may. -/
def Conducted (settings : Settings) (requests : ι → Request) (x : Chronicle ι) : Prop :=
  ∀ i, (x.rest i).Keeps ((requests i).MayBusy settings) ((requests i).MayEnd settings)
    (x.deedsOf i)

theorem conducted_start (w : World) : (start settings w requests).Conducted settings requests :=
  fun i => (requests i).keeps settings

theorem Conducted.step (h : x.Conducted settings requests) (moments : ι → Nat → Moment) (i : ι) :
    (x.step moments i).Conducted settings requests := keeps_step moments h i

theorem conducted_run (w : World) (moments : ι → Nat → Moment) (schedule : List ι) :
    ((start settings w requests).run moments schedule).Conducted settings requests :=
  keeps_run moments settings w (fun i => (requests i).keeps settings) schedule

/-- A turn leaves the store as it is, or it makes the change that the request is after, the first
    one and with the account seen active where it has to be. -/
theorem Conducted.step_cases (h : x.Conducted settings requests) (moments : ι → Nat → Moment)
    (i : ι) :
    (changes (x.deedsAt moments i) = [] ∧ (x.step moments i).store = x.store) ∨
    ∃ time c reply, x.deedsAt moments i = [.asked time c (.ok reply)] ∧
      x.store.Effect time c (x.step moments i).store ∧ (requests i).FulfilledBy settings c ∧
      changes (x.deedsOf i) = [] ∧ ∀ id ∈ c.activeAccount?, ∃ time a,
        .asked time (.getAccount id) (.ok a) ∈ x.deedsOf i ∧ a.status = .active := by
  rcases Program.step_cases (h i) (moments i (x.traffic.flights i).steps) x.traffic.world with
    hquiet | ⟨c, reply, hdeeds, hc, hbusy, heffect⟩
  · exact Or.inl hquiet
  · have hself : c ∈ [c] := List.mem_singleton_self c
    exact Or.inr ⟨_, c, reply, hdeeds, heffect, hbusy.fulfilled c hself hc,
      hbusy.unchanged c hself hc, hbusy.active c hself⟩

/-- What every change preserves that a request is after holds of the store however requests go
    on. -/
theorem Conducted.store_induction {P : Store → Prop} (h : x.Conducted settings requests)
    (hstep : ∀ i s t time c, (requests i).FulfilledBy settings c → Store.Effect s time c t → P s →
      P t) (moments : ι → Nat → Moment) (hx : P x.store) (later : List ι) :
    P (x.run moments later).store := by
  induction later generalizing x with
  | nil => exact hx
  | cons i later ih =>
      refine ih (h.step moments i) ?_
      rcases h.step_cases moments i with ⟨_, hsame⟩ | ⟨_, _, _, _, heffect, hfulfilled, _⟩
      · exact hsame ▸ hx
      · exact hstep i _ _ _ _ hfulfilled heffect hx

end Chronicle

end BankLedger
