import BankLedger.Proofs.Service.Conduct

/-!
# What Requests Tell

A request that has changed something announces it, and the event says what was done. So when a
request has come to its end its deeds are of one of few shapes: nothing that counts; a change that
is announced; money that moved, a look at the account, and the announcement of what was seen; money
that moved and could not be looked at; or the one change that nobody is told of, when status and
rate are simply set.

The shapes do not depend on anything but the program of the request, so they are the same whatever
else goes on. What the replies in them are worth is a matter of the store.

## Main definitions

* `Call.notice?`: What is announced when a call has been carried out.
* `Request.Tale`: The deeds of a request that has come to its end, and its answer.

## Theorems

* `Request.keeps_tale`: Every request tells its tale, whatever it meets.
-/

namespace BankLedger

open Deed

/-- What is announced when a call has been carried out. -/
def Call.notice? : (c : Call) → c.Reply → Option Notice
  | .createAccount a, _ => some (.accountCreated a)
  | .changeStatus _ action _, a => some (.statusChanged (.ofAction action) a)
  | .createHold h, _ => some (.holdCreated h)
  | .releaseHold _ _, h => some (.holdReleased h)
  | _, _ => none

namespace Program

variable {α : Type} {c : Call} {deeds : List Deed}
  {ends : List Deed → Except LedgerError α → Prop}

/-- A call ends the program when it is refused. -/
theorem keeps_ask {f : c.Reply → Program α}
    (herror : ∀ time e, ends (deeds ++ [.asked time c (.error e)]) (.error e))
    (hok : ∀ time reply,
      (f reply).Keeps (fun _ _ => True) ends (deeds ++ [.asked time c (.ok reply)])) :
    (ask c >>= f).Keeps (fun _ _ => True) ends deeds := by
  refine ⟨trivial, fun time answer => ?_⟩
  cases answer with
  | error e => exact herror time e
  | ok reply => exact hok time reply

end Program

namespace Request

variable {settings : Settings} {r : Request}

/-- The deeds of a request that has come to its end, and how it was answered. -/
inductive Tale (settings : Settings) (r : Request) : List Deed → Except LedgerError Answer → Prop
    where
  /-- It was refused, and nothing was done. -/
  | refused {deeds : List Deed} (h : Traceless deeds) (e : LedgerError) :
      Tale settings r deeds (.error e)
  /-- It has only looked. -/
  | looked {deeds : List Deed} (hr : r.isMutating = false) (h : Traceless deeds)
      (answer : Answer) : Tale settings r deeds (.ok answer)
  /-- Its change was made, and announced. -/
  | announced {earlier : List Deed} {time : Instant} {c : Call} {reply : c.Reply} {n : Notice}
      {answer : Answer} (h : Traceless earlier) (hfulfilled : r.FulfilledBy settings c)
      (hanswered : c.Answered reply answer) (hn : c.notice? reply = some n) (made : Uuid)
      (now : Instant) (taken : Bool) : Tale settings r
        (earlier ++ [.asked time c (.ok reply), .announced (n.toEvent made now) taken])
        (.ok answer)
  /-- Money has moved, and what was seen afterwards was announced. -/
  | readBack {earlier : List Deed} {time time' : Instant} {id : AccountId} {delta : Decimal}
      {reply : Unit} {a : Account} (h : Traceless earlier)
      (hfulfilled : r.FulfilledBy settings (.applyDelta id delta)) (made : Uuid) (now : Instant)
      (taken : Bool) : Tale settings r
        (earlier ++ [.asked time (.applyDelta id delta) (.ok reply),
          .asked time' (.getAccount id) (.ok a),
          .announced ((Notice.balanceUpdated a).toEvent made now) taken])
        (.ok (.moved (some a.balances)))
  /-- Money has moved, and could not be looked at afterwards. -/
  | unread {deeds : List Deed} (h : ReadBackFailed deeds) :
      Tale settings r deeds (.ok (.moved none))
  /-- Status and rate were set, and nobody was told. -/
  | amended {earlier : List Deed} {time : Instant} {id : AccountId} {status : Option Status}
      {rate : Option Decimal} {a : Account} (h : Traceless earlier)
      (hr : r = .update id status rate) (hstatus : status ≠ some .closed) : Tale settings r
        (earlier ++ [.asked time (.amend id status rate) (.ok a)]) (.ok (.account a))

section Programs

open Program

variable {deeds : List Deed} {c : Call} {α : Type}

/-- The program does what it likes, and ends with the tale of the request. -/
def Telling (settings : Settings) (r : Request) (answer : α → Answer) (deeds : List Deed)
    (p : Program α) : Prop :=
  p.Keeps (fun _ _ => True) (fun deeds x => r.Tale settings deeds (x.map answer)) deeds

theorem telling_refused (h : Traceless deeds) (answer : α → Answer) (e : LedgerError) :
    Telling settings r answer deeds (.done (.error e)) := Tale.refused h e

/-- A look at the store. When it is refused the request ends. -/
theorem telling_look {f : c.Reply → Program α} {answer : α → Answer} (h : Traceless deeds)
    (hc : c.isMutating = false) (hok : ∀ deeds reply, Traceless deeds →
      Telling settings r answer deeds (f reply)) :
    Telling settings r answer deeds (ask c >>= f) :=
  keeps_ask (fun time e => .refused (h.append (traceless_refused time e)) e)
    fun time reply => hok _ reply (h.append (traceless_looked hc time _))

/-- The last look of a request that only looks. -/
theorem telling_last_look {result : Except LedgerError c.Reply → Except LedgerError Answer}
    (h : Traceless deeds) (hr : r.isMutating = false) (hc : c.isMutating = false)
    (herror : ∀ e, result (.error e) = .error e)
    (hok : ∀ reply, ∃ answer, result (.ok reply) = .ok answer) :
    (ask c).Keeps (fun _ _ => True) (fun deeds x => r.Tale settings deeds (result x)) deeds := by
  refine ⟨trivial, fun time x => ?_⟩
  cases x with
  | error e =>
      change r.Tale settings _ (result (.error e))
      rw [herror]
      exact .refused (h.append (traceless_refused time e)) e
  | ok reply =>
      rcases hok reply with ⟨answer, hanswer⟩
      change r.Tale settings _ (result (.ok reply))
      rw [hanswer]
      exact .looked hr (h.append (traceless_looked hc time _)) answer

/-- The change, and its announcement. -/
theorem telling_change {n : c.Reply → Notice} {a : c.Reply → α} {answer : α → Answer}
    (h : Traceless deeds) (hfulfilled : r.FulfilledBy settings c)
    (hanswered : ∀ reply, c.Answered reply (answer (a reply)))
    (hn : ∀ reply, c.notice? reply = some (n reply)) :
    Telling settings r answer deeds
      (ask c >>= fun reply => Program.emit (n reply) >>= fun _ => pure (a reply)) := by
  refine keeps_ask (fun time e => .refused (h.append (traceless_refused time e)) e)
    fun time reply => ⟨trivial, fun made now taken => ?_⟩
  rw [List.append_assoc]
  exact .announced h hfulfilled (hanswered reply) (hn reply) made now taken

-- By induction on the numbers that are left, as in the program. A number that is taken leaves no
-- trace, so the next attempt begins like the first.
theorem telling_openWith {request : OpenRequest} {currency : String} {rate : Decimal}
    (hcurrency : Ledger.currencyFor settings request.currency = .ok currency)
    (hrate : Ledger.rateFor settings request.kind request.rate = .ok rate) (attempts left : Nat)
    (h : Traceless deeds) : Telling settings (.openAccount request) .account deeds
      (Ledger.openWith request currency rate attempts left) := by
  induction left generalizing deeds with
  | zero => exact telling_refused h _ _
  | succ left ih =>
      refine ⟨trivial, fun number => ?_⟩
      cases number with
      | error e => exact telling_refused h _ _
      | ok number =>
          refine ⟨trivial, fun u => ⟨trivial, fun now => ⟨trivial, fun time answer => ?_⟩⟩⟩
          cases answer with
          | ok reply =>
              refine ⟨trivial, fun made now taken => ?_⟩
              rw [List.append_assoc]
              exact .announced h (.opened hcurrency hrate) rfl rfl made now taken
          | error e =>
              cases e with
              | alreadyExists _ => exact ih (h.append (traceless_refused time _))
              | _ => exact telling_refused (h.append (traceless_refused time _)) _ _

theorem telling_changeStatus {action : Action} {id : AccountId}
    (hfulfilled : ∀ time, r.FulfilledBy settings (.changeStatus id action time)) :
    Telling settings r .account [] (Ledger.changeStatus action id) :=
  ⟨trivial, fun now => telling_change traceless_nil (hfulfilled now) (fun _ => rfl) fun _ => rfl⟩

theorem telling_update (id : AccountId) (status : Option Status) (rate : Option Decimal) :
    Telling settings (.update id status rate) .account [] (Ledger.update id status rate) := by
  -- What is left to do once the rate has been found to be one.
  have hrest : Telling settings (.update id status rate) .account []
      (if status = some .closed then
        if rate.isSome then .fail (.invalidArgument .closingWithRate)
        else Ledger.changeStatus .close id
      else ask (.amend id status rate)) := by
    refine keeps_ite (fun hclosed => ?_) fun hstatus => ⟨trivial, fun time answer => ?_⟩
    · subst hclosed
      cases rate with
      | some x => exact telling_refused traceless_nil _ _
      | none => exact telling_changeStatus fun _ => .closed
    · cases answer with
      | error e => exact .refused (traceless_refused time e) e
      | ok a => exact .amended traceless_nil rfl hstatus
  cases rate with
  | none => exact hrest
  | some x => exact keeps_check (fun e _ => telling_refused traceless_nil _ e) fun _ _ => hrest

-- The account is seen active, then the money moves, and then the account is looked at again.
theorem telling_move {id : AccountId} {delta : Decimal}
    (hfulfilled : r.FulfilledBy settings (.applyDelta id delta)) :
    Telling settings r .moved [] (Ledger.move id delta) := by
  refine telling_look traceless_nil rfl fun deeds a h => ?_
  refine keeps_check (fun e _ => telling_refused h _ e) fun _ _ => ?_
  refine keeps_ask (fun time e => .refused (h.append (traceless_refused time e)) e)
    fun time reply => ⟨trivial, fun time' answer => ?_⟩
  cases answer with
  | error e =>
      refine .unread ⟨deeds, time, time', id, delta, reply, e, ?_⟩
      rw [List.append_assoc]
      rfl
  | ok b =>
      refine ⟨trivial, fun made now taken => ?_⟩
      rw [List.append_assoc, List.append_assoc]
      exact .readBack h hfulfilled made now taken

theorem telling_createHold (request : HoldRequest) :
    Telling settings (.createHold request) .hold [] (Ledger.createHold request) := by
  refine keeps_check (fun e _ => telling_refused traceless_nil _ e) fun amount hamount => ?_
  refine keeps_check (fun e _ => telling_refused traceless_nil _ e) fun _ hreason => ?_
  refine keeps_time_bind trivial fun now => ?_
  refine keeps_check (fun e _ => telling_refused traceless_nil _ e) fun _ hexpiry => ?_
  refine telling_look (c := .getAccount request.account) traceless_nil rfl fun deeds a h => ?_
  refine keeps_check (fun e _ => telling_refused h _ e) fun _ _ => ?_
  refine keeps_freshId_bind trivial fun u => ?_
  exact telling_change h (.held hamount hreason hexpiry) (fun _ => rfl) fun _ => rfl

theorem telling_releaseHold (id : HoldId) :
    Telling settings (.releaseHold id) .hold [] (Ledger.releaseHold id) :=
  ⟨trivial, fun _ => telling_change traceless_nil .released (fun _ => rfl) fun _ => rfl⟩

/-- Every request tells its tale, whatever it meets. -/
theorem keeps_tale (settings : Settings) (r : Request) :
    (r.program settings).Keeps (fun _ _ => True) (r.Tale settings) [] := by
  cases r with
  | openAccount request =>
      refine keeps_map (keeps_check (fun e _ => telling_refused traceless_nil _ e)
        fun _ hcurrency => ?_)
      refine keeps_check (fun e _ => telling_refused traceless_nil _ e) fun _ hrate => ?_
      exact telling_openWith hcurrency hrate _ _ traceless_nil
  | account id =>
      exact keeps_map (telling_last_look traceless_nil rfl rfl (fun _ => rfl) fun _ => ⟨_, rfl⟩)
  | accountByNumber s =>
      refine keeps_map (keeps_check (fun e _ => telling_refused traceless_nil _ e) fun n _ => ?_)
      exact telling_last_look traceless_nil rfl rfl (fun _ => rfl) fun _ => ⟨_, rfl⟩
  | accountsOf customer =>
      exact keeps_map (telling_last_look traceless_nil rfl rfl (fun _ => rfl) fun _ => ⟨_, rfl⟩)
  | balances id =>
      exact keeps_map (keeps_map (telling_last_look traceless_nil rfl rfl
        (fun _ => rfl) fun _ => ⟨_, rfl⟩))
  | owns id customer =>
      exact keeps_map (keeps_map (telling_last_look traceless_nil rfl rfl
        (fun _ => rfl) fun _ => ⟨_, rfl⟩))
  | changeStatus action id => exact keeps_map (telling_changeStatus fun _ => .acted)
  | update id status rate => exact keeps_map (telling_update id status rate)
  | credit id x =>
      refine keeps_map (keeps_check (fun e _ => telling_refused traceless_nil _ e)
        fun _ hamount => ?_)
      exact telling_move (.credited hamount)
  | debit id x =>
      refine keeps_map (keeps_check (fun e _ => telling_refused traceless_nil _ e)
        fun _ hamount => ?_)
      exact telling_move (.debited hamount)
  | createHold request => exact keeps_map (telling_createHold request)
  | releaseHold id => exact keeps_map (telling_releaseHold id)
  | hold id =>
      exact keeps_map (telling_last_look traceless_nil rfl rfl (fun _ => rfl) fun _ => ⟨_, rfl⟩)
  | activeHolds id =>
      refine keeps_map (telling_look (c := .getAccount id) traceless_nil rfl fun _ _ h => ?_)
      exact telling_last_look h rfl rfl (fun _ => rfl) fun _ => ⟨_, rfl⟩

end Programs

end Request

end BankLedger
