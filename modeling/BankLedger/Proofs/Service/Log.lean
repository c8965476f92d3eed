import BankLedger.Proofs.Service.Lived
import BankLedger.Proofs.Service.Tale
import BankLedger.Proofs.Store.View
import BankLedger.Service.Numbers

/-!
# The Events as a Log

When requests are served one after the other, and no event is lost, the queue is a log of what has
been done: each request that has changed something has put one event on it, in the order of the
requests, and whoever follows the events knows what the store holds. Only two things would spoil
this. A posting that cannot read the account back says nothing, and a status that is simply set is
told to nobody.

A request is the unit here, and not its deeds. Between the change and its event the follower is
behind the store, but when the request has come to its end the follower has caught up.

## Main definitions

* `Request.isTelling`: The request announces what it has done.
* `Request.setsStatus`: The request sets a status without an event.
* `Request.Tells`: What a request announces when it is answered like this.
* `Request.Heard`: What is heard of a request.
* `Projection.Follows`: What is known is what the store holds.
* `Chronicle.IsLog`: One event for each request that succeeds, in their order.

## Theorems

* `Projection.Follows.announced`, `moved`, `amended`: After a call the follower catches up.
* `Request.Tale.follows`: After a request the follower has caught up.
* `Chronicle.follows_all`: After one request after the other the follower has caught up.
* `isLog_and_agrees`: The queue is a log of what has been done.
-/

namespace BankLedger

open Deed

namespace Request

/-- The request announces what it has done when it succeeds. -/
def isTelling : Request → Bool
  | .update _ status _ => status = some .closed
  | r => r.isMutating

/-- The request sets the status of the account, and nobody is told. -/
def setsStatus (id : AccountId) : Request → Bool
  | .update k (some status) _ => k = id && status != .closed
  | _ => false

/-- What a request announces when it is answered like this. -/
inductive Tells : Request → Answer → Notice → Prop where
  | opened {request : OpenRequest} {a : Account} :
      Tells (.openAccount request) (.account a) (.accountCreated a)
  | acted {action : Action} {id : AccountId} {a : Account} (ha : a.id = id) :
      Tells (.changeStatus action id) (.account a) (.statusChanged (.ofAction action) a)
  | closed {id : AccountId} {a : Account} (ha : a.id = id) :
      Tells (.update id (some .closed) none) (.account a) (.statusChanged (.ofAction .close) a)
  | credited {id : AccountId} {x : Decimal} {a : Account} (ha : a.id = id) :
      Tells (.credit id x) (.moved (some a.balances)) (.balanceUpdated a)
  | debited {id : AccountId} {x : Decimal} {a : Account} (ha : a.id = id) :
      Tells (.debit id x) (.moved (some a.balances)) (.balanceUpdated a)
  | held {request : HoldRequest} {h : Hold} (hh : h.account = request.account) :
      Tells (.createHold request) (.hold h) (.holdCreated h)
  | released {id : HoldId} {h : Hold} (hh : h.id = id) :
      Tells (.releaseHold id) (.hold h) (.holdReleased h)

/-- What is heard of a request that was answered like this. -/
inductive Heard (r : Request) : Except LedgerError Answer → List Event → Prop where
  /-- It has told what it has done. -/
  | told {answer : Answer} {n : Notice} (hr : r.isTelling = true) (hn : r.Tells answer n)
      (made : Uuid) (now : Instant) : Heard r (.ok answer) [n.toEvent made now]
  /-- It was refused. -/
  | refused (e : LedgerError) : Heard r (.error e) []
  /-- It had nothing to tell. -/
  | silent (hr : r.isTelling = false) (answer : Answer) : Heard r (.ok answer) []

theorem isTelling_of_looking {r : Request} (hr : r.isMutating = false) : r.isTelling = false := by
  cases r with
  | update => cases hr
  | _ => exact hr

variable {settings : Settings} {r : Request} {c : Call}

/-- What a request brings into the store can be told in texts. -/
theorem FulfilledBy.isLegible (h : r.FulfilledBy settings c) : c.IsLegible where
  bringsNew := h.bringsNew
  plain id delta hc := by
    cases h with
    | credited hamount =>
        cases hc
        rcases (Amount.ofDecimal_eq_ok_iff _ _).mp hamount with ⟨hpositive, rfl⟩
        exact Decimal.isPlain_of_isPositive ((Decimal.isPositive_iff _).mpr hpositive)
    | debited hamount =>
        cases hc
        rcases (Amount.ofDecimal_eq_ok_iff _ _).mp hamount with ⟨hpositive, rfl⟩
        exact (Decimal.isPlain_of_isPositive ((Decimal.isPositive_iff _).mpr hpositive)).neg
    | opened | acted | closed | amended | held | released => cases hc

/-- What is announced when the change has been made tells what the request was for. -/
theorem FulfilledBy.tells {s t : Store} {time : Instant} {reply : c.Reply} {answer : Answer}
    {n : Notice} (h : r.FulfilledBy settings c) (hcall : s.perform time c = .ok (reply, t))
    (hanswered : c.Answered reply answer) (hn : c.notice? reply = some n) :
    r.isTelling = true ∧ r.Tells answer n := by
  cases h with
  | opened =>
      cases hanswered
      cases hn
      exact ⟨rfl, .opened⟩
  | acted =>
      cases hanswered
      cases hn
      exact ⟨rfl, .acted (Store.view_changeStatus hcall).1⟩
  | closed =>
      cases hanswered
      cases hn
      exact ⟨rfl, .closed (Store.view_changeStatus hcall).1⟩
  | held =>
      cases hanswered
      cases hn
      exact ⟨rfl, .held rfl⟩
  | released =>
      cases hanswered
      cases hn
      exact ⟨rfl, .released (Store.view_releaseHold hcall).1⟩
  | amended | credited | debited => cases hn

/-- What is announced when money has moved tells what the request was for. -/
theorem FulfilledBy.tells_move {id : AccountId} {delta : Decimal} {a : Account}
    (h : r.FulfilledBy settings (.applyDelta id delta)) (ha : a.id = id) :
    r.isTelling = true ∧ r.Tells (.moved (some a.balances)) (.balanceUpdated a) := by
  cases h with
  | credited => exact ⟨rfl, .credited ha⟩
  | debited => exact ⟨rfl, .debited ha⟩

end Request

/-- What is known is what the store holds, and the store can be told in texts. -/
structure Projection.Follows (told : AccountId → Prop) (p : Projection) (s : Store) : Prop where
  legible : s.Legible
  agrees : p.Agrees told s.view

open Projection

section Follows

variable {told : AccountId → Prop} {p : Projection} {s t : Store} {deeds later : List Deed}

/-- The event after a call tells what the call has changed. -/
theorem Projection.Follows.announced {c : Call} {time : Instant} {reply : c.Reply} {n : Notice}
    (hp : p.Follows told s) (hc : c.IsLegible) (hcall : s.perform time c = .ok (reply, t))
    (hn : c.notice? reply = some n) (made : Uuid) (now : Instant) :
    (p.apply (n.toEvent made now)).Follows told t := by
  refine ⟨hp.legible.effect hc (Store.effect_of_perform hcall), ?_⟩
  cases c with
  | createAccount a =>
      cases hn
      rw [apply_accountCreated, Store.view_createAccount hp.legible hc.bringsNew hcall]
      exact hp.agrees.update _ _
  | changeStatus id action time =>
      cases hn
      change Account at reply
      rcases Store.view_changeStatus hcall with ⟨hid, hview⟩
      rw [apply_statusChanged, hview, hid]
      exact hp.agrees.change fun _ _ h => h.withStatus _
  | createHold h =>
      cases hn
      rw [apply_holdCreated _ _ _ (Decimal.isPlain_of_isPositive hc.bringsNew.1),
        Store.view_createHold hc.bringsNew hcall]
      exact hp.agrees.change fun _ _ h => h.withHold _ _
  | releaseHold k time =>
      cases hn
      change Hold at reply
      rcases Store.view_releaseHold hcall with ⟨hid, hview⟩
      rw [apply_holdReleased, hview, hid]
      exact hp.agrees.change fun _ _ h => h.withHold _ _
  | _ => cases hn

/-- The balance that is read back and announced tells where the money has gone. -/
theorem Projection.Follows.moved {id : AccountId} {delta : Decimal} {time : Instant} {reply : Unit}
    {a : Account} (hp : p.Follows told s) (hc : (Call.applyDelta id delta).IsLegible)
    (hcall : s.perform time (.applyDelta id delta) = .ok (reply, t))
    (ha : t.accounts.get? id = some a) (made : Uuid) (now : Instant) :
    (p.apply ((Notice.balanceUpdated a).toEvent made now)).Follows told t := by
  have hlegible := hp.legible.effect hc (Store.effect_of_perform hcall)
  refine ⟨hlegible, ?_⟩
  rcases Store.view_applyDelta hcall with ⟨b, hb, hview⟩
  cases ha.symm.trans hb
  rw [apply_balanceUpdated _ _ _ (hlegible.plain id a ha), hview, Table.key_of_get? ha]
  exact hp.agrees.change fun _ _ h => h.withBalance _

/-- Who is not told of a status need not be told that it was set. -/
theorem Projection.Follows.amended {id : AccountId} {status : Option Status} {rate : Option Decimal}
    {time : Instant} {a : Account} (hp : p.Follows told s)
    (hcall : s.perform time (.amend id status rate) = .ok (a, t))
    (htold : status ≠ none → ¬ told id) : p.Follows told t := by
  have hc : (Call.amend id status rate).IsLegible := ⟨trivial, nofun⟩
  refine ⟨hp.legible.effect hc (Store.effect_of_perform hcall), ?_⟩
  rw [Store.view_amend hcall, ← change_id p id]
  exact hp.agrees.change fun _ _ h => h.withStatus_right status htold

/-- The deeds that leave no trace may be left out. -/
theorem Store.Lived.of_traceless (h : s.Lived (deeds ++ later) t) (hquiet : Traceless deeds) :
    s.Lived later t := by
  rcases h.split with ⟨u, hfirst, hlater⟩
  have hchanged := hfirst.changed
  rw [hquiet.1] at hchanged
  exact hchanged.eq_of_nil ▸ hlater

theorem Deed.Traceless.queued_append (h : Traceless deeds) (later : List Deed) :
    queued (deeds ++ later) = queued later := by
  have hnone : queued deeds = [] := List.eq_nil_of_sublist_nil (h.2 ▸ queued_sublist deeds)
  rw [Deed.queued_append, hnone, List.nil_append]

namespace Request

variable {settings : Settings} {r : Request}

/-- What leaves no trace is not heard, and nothing is to be learned from it. -/
theorem quiet_follows {result : Except LedgerError Answer} (hquiet : Traceless deeds)
    (hresult : r.Heard result []) (hlived : s.Lived deeds t) (hp : p.Follows told s) :
    r.Heard result (queued deeds) ∧ ((queued deeds).foldl Projection.apply p).Follows told t := by
  rw [← List.append_nil deeds] at hlived ⊢
  rw [hquiet.queued_append]
  cases hlived.of_traceless hquiet
  exact ⟨hresult, hp⟩

-- By cases on the tale: the deeds before the change leave no trace, so the store that the change
-- meets is the one that was followed.
/-- After a request the follower has caught up. -/
theorem Tale.follows {result : Except LedgerError Answer} (htale : r.Tale settings deeds result)
    (hroom : ∀ d ∈ deeds, d.isLost = false) (hread : ¬ ReadBackFailed deeds)
    (htold : ∀ id, r.setsStatus id = true → ¬ told id) (hlived : s.Lived deeds t)
    (hp : p.Follows told s) :
    r.Heard result (queued deeds) ∧ ((queued deeds).foldl Projection.apply p).Follows told t := by
  cases htale with
  | refused h e => exact quiet_follows h (.refused e) hlived hp
  | looked hr h answer =>
      exact quiet_follows h (.silent (isTelling_of_looking hr) answer) hlived hp
  | @announced earlier time c reply n answer h hfulfilled hanswered hn made now taken =>
      cases taken with
      | false => cases hroom (.announced (n.toEvent made now) false) (by simp)
      | true =>
          rw [h.queued_append]
          rcases hlived.of_traceless h with _ | ⟨hcall, _ | _ | _ | ⟨⟨_⟩⟩⟩
          rcases hfulfilled.tells hcall hanswered hn with ⟨htelling, htells⟩
          exact ⟨.told htelling htells made now,
            hp.announced hfulfilled.isLegible hcall hn made now⟩
  | @readBack earlier time time' id delta reply a h hfulfilled made now taken =>
      cases taken with
      | false =>
          cases hroom (.announced ((Notice.balanceUpdated a).toEvent made now) false) (by simp)
      | true =>
          rw [h.queued_append]
          rcases hlived.of_traceless h with _ | ⟨hcall, _ | ⟨hlook, _ | _ | _ | ⟨⟨_⟩⟩⟩⟩
          rcases Store.get?_of_perform hlook with ⟨ha, rfl⟩
          rcases hfulfilled.tells_move (Table.key_of_get? ha) with ⟨htelling, htells⟩
          exact ⟨.told htelling htells made now,
            hp.moved hfulfilled.isLegible hcall ha made now⟩
  | unread h => exact absurd h hread
  | @amended earlier time id status rate a h hr hstatus =>
      subst hr
      rw [h.queued_append]
      rcases hlived.of_traceless h with _ | ⟨hcall, ⟨_⟩⟩
      have htelling : (Request.update id status rate).isTelling = false := decide_eq_false hstatus
      refine ⟨.silent htelling _, hp.amended hcall fun hset => htold id ?_⟩
      cases status with
      | none => exact absurd rfl hset
      | some status => simpa [setsStatus] using hstatus

end Request

end Follows

namespace Chronicle

variable {ι : Type} [DecidableEq ι] {requests : ι → Request} {x : Chronicle ι}

/-- The request has something to tell, and was not refused. -/
def isHeard (requests : ι → Request) (x : Chronicle ι) (i : ι) : Bool :=
  match x.answered i with
  | some (.ok _) => (requests i).isTelling
  | _ => false

/-- The request was answered, it tells this when it is answered so, and this is the one event that
    it put on the queue. -/
structure ToldBy (requests : ι → Request) (x : Chronicle ι) (i : ι) (e : Event) : Prop where
  queued_eq : queued (x.deedsOf i) = [e]
  tells : ∃ answer n made now, x.answered i = some (.ok answer) ∧ (requests i).Tells answer n ∧
    e = n.toEvent made now

/-- There is one event on the queue for each request that has succeeded and has something to tell,
    in the order in which they were served, and there is no other event. -/
structure IsLog (requests : ι → Request) (order : List ι) (x : Chronicle ι) : Prop where
  told : List.Forall₂ (x.ToldBy requests) (order.filter (x.isHeard requests)) (queued x.deeds)
  silent : ∀ i ∈ order, x.isHeard requests i = false → queued (x.deedsOf i) = []

section Heard

variable {i : ι} {result : Except LedgerError Answer}

/-- What was heard of a request is one event that tells it, or nothing. -/
theorem told_or_silent (hanswered : x.answered i = some result)
    (hheard : (requests i).Heard result (queued (x.deedsOf i))) :
    (x.isHeard requests i = true ∧ ∃ e, x.ToldBy requests i e) ∨
      (x.isHeard requests i = false ∧ queued (x.deedsOf i) = []) := by
  unfold isHeard
  rw [hanswered]
  generalize hqueued : queued (x.deedsOf i) = events at hheard
  cases hheard with
  | told hr hn made now =>
      exact Or.inl ⟨hr, _, hqueued, _, _, made, now, hanswered, hn, rfl⟩
  | refused e => exact Or.inr ⟨rfl, rfl⟩
  | silent hr answer => exact Or.inr ⟨hr, rfl⟩

variable {order : List ι} (hheard : ∀ i ∈ order, ∃ result, x.answered i = some result ∧
  (requests i).Heard result (queued (x.deedsOf i)))

include hheard

-- By induction on the order: the first request has put its event before those of all others, or it
-- has put none there and does not count.
theorem forall₂_toldBy : List.Forall₂ (x.ToldBy requests) (order.filter (x.isHeard requests))
    (queued (order.flatMap x.deedsOf)) := by
  induction order with
  | nil => exact .nil
  | cons i order ih =>
      have hrest := ih fun j hj => hheard j (List.mem_cons_of_mem i hj)
      rcases hheard i List.mem_cons_self with ⟨result, hanswered, hi⟩
      rw [List.flatMap_cons, queued_append]
      rcases told_or_silent hanswered hi with ⟨hcounts, e, he⟩ | ⟨hcounts, hnone⟩
      · rw [List.filter_cons_of_pos hcounts, he.queued_eq]
        exact .cons he hrest
      · rw [List.filter_cons_of_neg (Bool.not_eq_true _ ▸ hcounts), hnone]
        exact hrest

theorem isLog_of_heard (hdeeds : x.deeds = order.flatMap x.deedsOf) : x.IsLog requests order where
  told := hdeeds ▸ forall₂_toldBy hheard
  silent i hi hcounts := by
    rcases hheard i hi with ⟨result, hanswered, hheard⟩
    rcases told_or_silent hanswered hheard with ⟨hcounts', _⟩ | ⟨_, hnone⟩
    · cases hcounts.symm.trans hcounts'
    · exact hnone

end Heard

/-- The request was answered, no event of it was lost, and the account could be read back where it
    had to be. -/
structure Served (settings : Settings) (requests : ι → Request) (x : Chronicle ι) (i : ι) : Prop
    where
  tale : ∃ result, x.answered i = some result ∧ (requests i).Tale settings (x.deedsOf i) result
  room : ∀ d ∈ x.deedsOf i, d.isLost = false
  readBack : ¬ ReadBackFailed (x.deedsOf i)

variable {settings : Settings} {told : AccountId → Prop}

-- By induction on the order: after the first request the follower has caught up, and follows the
-- others from there.
/-- After one request after the other the follower has caught up. -/
theorem follows_all {order : List ι} (hserved : ∀ i ∈ order, x.Served settings requests i)
    (htold : ∀ i ∈ order, ∀ id, (requests i).setsStatus id = true → ¬ told id) {s t : Store}
    (hlived : s.Lived (order.flatMap x.deedsOf) t) {p : Projection} (hp : p.Follows told s) :
    (∀ i ∈ order, ∃ result, x.answered i = some result ∧
      (requests i).Heard result (queued (x.deedsOf i))) ∧
    ((queued (order.flatMap x.deedsOf)).foldl Projection.apply p).Follows told t := by
  induction order generalizing s p with
  | nil =>
      cases hlived
      exact ⟨nofun, hp⟩
  | cons i order ih =>
      have hi := hserved i List.mem_cons_self
      rcases hi.tale with ⟨result, hanswered, htale⟩
      rw [List.flatMap_cons] at hlived ⊢
      rcases hlived.split with ⟨u, hfirst, hrest⟩
      rcases htale.follows hi.room hi.readBack (htold i List.mem_cons_self) hfirst hp with
        ⟨hheard, hp'⟩
      rcases ih (fun j hj => hserved j (List.mem_cons_of_mem i hj))
        (fun j hj => htold j (List.mem_cons_of_mem i hj)) hrest hp' with ⟨hothers, hlast⟩
      rw [queued_append, List.foldl_append]
      exact ⟨List.forall_mem_cons.mpr ⟨⟨result, hanswered, hheard⟩, hothers⟩, hlast⟩

variable (moments : ι → Nat → Moment)

/-- A request has been served when it has come to its end. -/
theorem served_run (w : World) (schedule : List ι)
    (hx : x = (start settings w requests).run moments schedule) {i : ι}
    (hdone : (x.rest i).isDone = true) (hroom : ∀ d ∈ x.deeds, d.isLost = false)
    (hread : ¬ ReadBackFailed (x.deedsOf i)) : x.Served settings requests i where
  tale := by
    have hkeeps := keeps_run moments settings w (fun i => (requests i).keeps_tale settings)
      schedule i
    rcases Program.exists_of_isDone hdone with ⟨result, hresult⟩
    rw [← hx, hresult] at hkeeps
    exact ⟨result, by rw [answered, hresult]; rfl, hkeeps⟩
  room d hd := hroom d (List.mem_map.mpr ⟨_, (mem_deedsOf_iff x i d).mp hd, rfl⟩)
  readBack := hread

/-- Served one after the other, requests act one after the other. -/
theorem deeds_of_oneByOne (settings : Settings) (w : World) {order schedule : List ι}
    (horder : order.Nodup) (hschedule : Traffic.OneByOne order schedule)
    (hx : x = (start settings w requests).run moments schedule) :
    x.deeds = order.flatMap x.deedsOf := by
  have hjournal : x.journal = order.flatMap fun i => (x.deedsOf i).map (i, ·) :=
    hx ▸ journal_of_oneByOne moments horder hschedule (start settings w requests) fun _ _ => rfl
  rw [deeds, hjournal, List.map_flatMap]
  simp

/-- When requests are served one after the other, all of them come to an end, no event is lost and
    no posting fails to read the account back, then what they have put on the queue is a log of what
    has been done. And whoever follows these events from the first one knows all accounts with their
    balances and the holds on them, and their statuses unless one was set without an event. -/
theorem isLog_and_agrees (settings : Settings) (w : World) (hw : w.store = .empty)
    (requests : ι → Request) {order schedule : List ι} (horder : order.Nodup)
    (hschedule : Traffic.OneByOne order schedule)
    (hx : x = (start settings w requests).run moments schedule)
    (hfinished : ∀ i ∈ order, (x.rest i).isDone = true)
    (hroom : ∀ d ∈ x.deeds, d.isLost = false)
    (hread : ∀ i ∈ order, ¬ ReadBackFailed (x.deedsOf i)) :
    x.traffic.world.outbox.waiting = w.outbox.waiting ++ queued x.deeds ∧
      x.IsLog requests order ∧ Projection.Agrees
        (fun id => ∀ i ∈ order, (requests i).setsStatus id = false)
        (Projection.ofEvents (queued x.deeds)) x.store.view := by
  have hserved : ∀ i ∈ order, x.Served settings requests i := fun i hi =>
    served_run moments w schedule hx (hfinished i hi) hroom (hread i hi)
  have hdeeds := deeds_of_oneByOne moments settings w horder hschedule hx
  have hlived : Store.Lived .empty (order.flatMap x.deedsOf) x.store := by
    rw [← hdeeds, ← hw, hx]
    exact lived_run moments settings w requests schedule
  have hempty : Projection.Follows (fun id => ∀ i ∈ order, (requests i).setsStatus id = false)
      (fun _ => none) .empty := ⟨Store.legible_empty, fun _ => .none⟩
  have htold : ∀ i ∈ order, ∀ id, (requests i).setsStatus id = true →
      ¬ ∀ i ∈ order, (requests i).setsStatus id = false := by
    intro i hi id hsets htold
    exact Bool.false_ne_true ((htold i hi).symm.trans hsets)
  rcases follows_all hserved htold hlived hempty with ⟨hheard, hfollows⟩
  refine ⟨?_, isLog_of_heard hheard hdeeds, ?_⟩
  · rw [hx]
    exact (recorded_run moments settings w requests schedule).waiting_eq
  · rw [hdeeds]
    exact hfollows.agrees

/-- What is made when nothing special happens: the account that is opened, and the hold. -/
def dealtUuid : Uuid := (⟨.epoch, 0, 0, none⟩ : Moment).uuid

/-- An account is opened, three units are put on it and one of them is set aside. Somebody looks at
    the balances, and then the account is frozen, so one more unit is refused. -/
def dealings : Nat → Request
  | 0 => .openAccount ⟨default, .checking, none, none⟩
  | 1 => .credit ⟨dealtUuid⟩ (.ofUnits 3 0)
  | 2 => .createHold ⟨⟨dealtUuid⟩, .ofUnits 1 0, "rent", none, none⟩
  | 3 => .balances ⟨dealtUuid⟩
  | 4 => .changeStatus .freeze ⟨dealtUuid⟩
  | _ => .credit ⟨dealtUuid⟩ (.ofUnits 1 0)

/-- They are served one after the other. -/
def dealt : Chronicle Nat :=
  (start .default (.start 8 .counted .epoch) dealings).run (fun _ _ => ⟨.epoch, 0, 0, none⟩)
    (List.replicate 5 0 ++ (List.replicate 4 1 ++ (List.replicate 5 2 ++ (List.replicate 1 3 ++
      (List.replicate 3 4 ++ (List.replicate 1 5 ++ []))))))

/-- Four events are on the queue, and whoever follows them knows the account. -/
theorem dealt_followed : dealt.traffic.world.outbox.waiting.length = 4 ∧
    ∃ v, Projection.ofEvents dealt.traffic.world.outbox.waiting ⟨dealtUuid⟩ = some v ∧
      v.status = .frozen ∧ v.balance = .ofUnits 3 0 ∧
      v.holds ⟨dealtUuid⟩ = some (.ofUnits 1 0) := by
  have horder : [0, 1, 2, 3, 4, 5].Nodup := by decide
  have hread : ∀ i ∈ [0, 1, 2, 3, 4, 5], ∀ d ∈ (dealt.deedsOf i).getLast?, d.isRefused = false := by
    decide +kernel
  rcases isLog_and_agrees _ .default (.start 8 .counted .epoch) (x := dealt) rfl dealings
    horder (.cons 5 (.cons 4 (.cons 5 (.cons 1 (.cons 3 (.cons 1 .nil)))))) rfl
    (by decide +kernel) (by decide +kernel) fun i hi => not_readBackFailed_of_last (hread i hi)
    with ⟨hwaiting, hlog, hagrees⟩
  -- Nothing was on the queue before.
  have hqueued : dealt.traffic.world.outbox.waiting = queued dealt.deeds := hwaiting
  have hheard : ([0, 1, 2, 3, 4, 5].filter (dealt.isHeard dealings)).length = 4 := by
    decide +kernel
  have hstored : ∀ a ∈ dealt.store.accounts.get? ⟨dealtUuid⟩,
      a.status = .frozen ∧ a.balance = .ofUnits 3 0 := by decide +kernel
  have hheld : dealt.store.heldOn ⟨dealtUuid⟩ ⟨dealtUuid⟩ = some (.ofUnits 1 0) := by
    decide +kernel
  rw [hqueued]
  refine ⟨hlog.told.length_eq.symm.trans hheard, ?_⟩
  have hview := hagrees ⟨dealtUuid⟩
  unfold Store.view at hview
  rcases ha : dealt.store.accounts.get? ⟨dealtUuid⟩ with _ | a
  · exact absurd ha (by decide +kernel)
  · rw [ha, Option.map_some] at hview
    generalize Projection.ofEvents _ _ = v at hview ⊢
    cases hview with
    | some hsame => exact ⟨_, rfl, (hsame.status (by decide)).trans (hstored a ha).1,
        hsame.balance.trans (hstored a ha).2, (congrFun hsame.holds _).trans hheld⟩

end Chronicle

end BankLedger
