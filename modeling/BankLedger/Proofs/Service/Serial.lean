import BankLedger.Proofs.Service.Plan
import BankLedger.Service.Numbers
import Mathlib.Data.List.Perm.Basic

/-!
# Postings are Serializable

Credits, debits, holds and releases may be served together on any schedule, and what comes of it is
what comes of serving them one after the other, in the order in which their calls changed the store.
A request that makes no such call may come anywhere in this order. What may differ is the balances
that a credit or a debit reads back after the money has moved, since others may have moved money in
between.

The proof compares no schedules. On any schedule each request follows its plan, so the store is what
the planned calls make of it in the order of the calls, and an answer hangs on the store at the one
call of its request. Two schedules on which the calls come in the same order, one after the other
being one of them, therefore lead to the same store and the same answers.

## Main definitions

* `Traffic.replay`: The planned calls carried out in an order.
* `Traffic.OnPlan`: A request has been served as its plan says.
* `Traffic.Follows`: All of them have, and the store is what the planned calls have made of it.

## Theorems

* `Traffic.follows_step`, `Traffic.follows_run`: No turn departs from the plans.
* `Traffic.committed_eq`: Whose calls change the store is a matter of the plans.
* `Traffic.same_of_committed_eq`: The order of the calls decides everything else.
* `Traffic.serializable`: Postings are serializable.
-/

namespace BankLedger

/-- The store after the call that a plan makes. -/
def Plan.after (moments : Nat → Moment) (s : Store) : Plan → Store
  | .stops _ => s
  | .commits n c _ => (moments n).after s c

namespace Traffic

section Follows

variable {ι : Type} (plans : ι → Plan) (moments : ι → Nat → Moment)
  (statuses : AccountId → Option Status) (s : Store)

/-- The planned calls carried out in an order. -/
def replay (order : List ι) : Store := order.foldl (fun s i => (plans i).after (moments i) s) s

/-- A request has been served as its plan says, when the calls that changed the store so far were
    made in the order of the list. -/
inductive OnPlan (committed : List ι) (i : ι) (f : Flight) : Prop where
  /-- It has not changed the store yet, and what is left leads to its plan. -/
  | before (hnot : i ∉ committed) (hevents : f.events = [])
      (hleads : f.rest.Leads statuses (moments i) f.steps (plans i))
  /-- It has made its call, and what is left can only end as it could have ended right after the
      call. -/
  | after {n : Nat} {c : Call} {next : Except LedgerError c.Reply → Program Answer}
      {earlier later : List ι} (hplan : plans i = .commits n c next)
      (hsplit : committed = earlier ++ i :: later) (hlooks : f.rest.OnlyLooks)
      (hends : ∀ events r, f.rest.Ends statuses (moments i) f.steps events r →
        (next ((moments i n).answer (replay plans moments s earlier) c)).Ends statuses (moments i)
          (n + 1) (f.events ++ events) r)

/-- All requests have been served as their plans say. -/
structure Follows (t : Traffic ι) : Prop where
  /-- The store is what the planned calls have made of it. -/
  store_eq : t.world.store = replay plans moments s t.committed
  /-- No status has changed. -/
  statuses_eq : t.world.store.statuses = statuses
  /-- No request has changed the store twice. -/
  nodup : t.committed.Nodup
  /-- Each request is where its plan says. -/
  onPlan : ∀ i, OnPlan plans moments statuses s t.committed i (t.flights i)

variable {plans moments statuses s}

theorem replay_append (order : List ι) (i : ι) : replay plans moments s (order ++ [i])
    = (plans i).after (moments i) (replay plans moments s order) :=
  List.foldl_append

-- Another call after the others is later than all that has been said about them.
theorem OnPlan.append {committed : List ι} {i j : ι} {f : Flight}
    (h : OnPlan plans moments statuses s committed i f) (hne : i ≠ j) :
    OnPlan plans moments statuses s (committed ++ [j]) i f := by
  cases h with
  | before hnot hevents hleads =>
      refine .before (fun hmem => ?_) hevents hleads
      rcases List.mem_append.mp hmem with hearlier | hlast
      · exact hnot hearlier
      · exact hne (List.mem_singleton.mp hlast)
  | @after n c next earlier later hplan hsplit hlooks hends =>
      have hsplit' : committed ++ [j] = earlier ++ i :: (later ++ [j]) := by
        rw [hsplit, List.append_assoc, List.cons_append]
      exact .after hplan hsplit' hlooks hends

-- A step that does not change the store: one case for each kind of step on the way to the plan, and
-- one for each kind that may follow the call.
theorem OnPlan.step {committed : List ι} {i : ι} {f : Flight} {w : World}
    (h : OnPlan plans moments statuses s committed i f) (hs : w.store.statuses = statuses)
    (hquiet : ∀ c ∈ f.rest.asks, c.isMutating = false) :
    OnPlan plans moments statuses s committed i (f.step (moments i f.steps) w).1 := by
  rcases f with ⟨rest, steps, events⟩
  cases h with
  | before hnot hevents hleads =>
      change events = [] at hevents
      subst hevents
      change rest.Leads statuses (moments i) steps (plans i) at hleads
      generalize hplan : plans i = plan at hleads
      cases hleads with
      | done r =>
          rw [Flight.step_done]
          exact .before hnot rfl (hplan ▸ .done r)
      | commits c next hc =>
          have hlooks := hquiet c (List.mem_singleton.mpr rfl)
          rw [hc] at hlooks
          cases hlooks
      | looks hc hnext =>
          rw [Flight.step_call]
          exact .before hnot rfl (hplan ▸ hnext w.store hs)
      | now hnext =>
          rw [Flight.step_now]
          exact .before hnot rfl (hplan ▸ hnext)
      | fresh hnext =>
          rw [Flight.step_fresh]
          exact .before hnot rfl (hplan ▸ hnext)
  | after hplan hsplit hlooks hends =>
      change rest.OnlyLooks at hlooks
      cases hlooks with
      | done r =>
          rw [Flight.step_done]
          refine .after hplan hsplit (.done r) fun events' r' h => hends events' r' ?_
          rcases Program.ends_done h with ⟨rfl, rfl⟩
          exact .done _
      | looks hc hrest =>
          rw [Flight.step_call]
          exact .after hplan hsplit (hrest _) fun events' r' h => hends events' r' (.looks hs h)
      | announce hrest =>
          rw [Flight.step_announce]
          refine .after hplan hsplit hrest fun events' r' h => ?_
          have hend := hends _ r' (.announce h)
          rw [List.append_assoc]
          exact hend

-- A turn that does not change the store concerns nobody but the request whose turn it is.
theorem follows_step_of_quiet [DecidableEq ι] {t : Traffic ι}
    (h : Follows plans moments statuses s t) {i : ι}
    (hquiet : ∀ c ∈ (t.flights i).rest.asks, c.isMutating = false) :
    Follows plans moments statuses s (t.step moments i) := by
  have hcommitted : (t.step moments i).committed = t.committed := by
    have hnone : (t.flights i).rest.asks.filter Call.isMutating = [] :=
      List.filter_eq_nil_iff.mpr fun c hc => by simp [hquiet c hc]
    rw [committed_step, hnone, List.map_nil, List.append_nil]
  have hstore : (t.step moments i).world.store = t.world.store :=
    Program.store_step_of_quiet _ t.world hquiet
  refine ⟨?_, ?_, ?_, fun j => ?_⟩
  · rw [hstore, hcommitted]
    exact h.store_eq
  · rw [hstore]
    exact h.statuses_eq
  · rw [hcommitted]
    exact h.nodup
  · rw [hcommitted]
    by_cases hj : j = i
    · subst hj
      rw [flights_step_self]
      exact (h.onPlan j).step h.statuses_eq hquiet
    · rw [flights_step_of_ne moments t hj]
      exact h.onPlan j

-- The turn at which a request makes its call: it has not made it before, because nothing after the
-- call changes the store, so this is the call of its plan.
theorem follows_step_of_call [DecidableEq ι] {t : Traffic ι}
    (hsound : ∀ i, (plans i).Sound statuses (moments i))
    (h : Follows plans moments statuses s t) {i : ι} {c : Call}
    {next : Except LedgerError c.Reply → Program Answer}
    (hrest : (t.flights i).rest = .call c next) (hc : c.isMutating = true) :
    Follows plans moments statuses s (t.step moments i) := by
  rcases hflight : t.flights i with ⟨rest, steps, events⟩
  rw [hflight] at hrest
  change rest = .call c next at hrest
  subst hrest
  have honPlan := h.onPlan i
  rw [hflight] at honPlan
  have hcommitted : (t.step moments i).committed = t.committed ++ [i] := by
    have hone : (t.flights i).rest.asks.filter Call.isMutating = [c] := by
      rw [hflight]
      exact List.filter_cons_of_pos hc
    rw [committed_step, hone, List.map_singleton]
  have hself : (t.step moments i).flights i
      = ⟨next ((moments i steps).answer t.world.store c), steps + 1, events⟩ := by
    rw [flights_step_self, hflight]
    exact Flight.step_call _ _ _ _ c next
  cases honPlan with
  | after _ _ hlooks _ =>
      cases hlooks with
      | looks hlook _ =>
          rw [hc] at hlook
          cases hlook
  | before hnot hevents hleads =>
      have hplan : plans i = .commits steps c next := by
        generalize plans i = plan at hleads
        cases hleads with
        | commits _ _ _ => rfl
        | looks hlook _ =>
            rw [hc] at hlook
            cases hlook
      have hsoundi := hsound i
      rw [hplan] at hsoundi
      rcases hsoundi with ⟨hposting, hlooks, _⟩
      have hstore : (t.step moments i).world.store
          = (moments i steps).after t.world.store c := by
        rw [store_step, hflight]
        rfl
      refine ⟨?_, ?_, ?_, fun j => ?_⟩
      · rw [hstore, hcommitted, replay_append, hplan, ← h.store_eq]
        rfl
      · rw [hstore, Moment.statuses_after _ _ hposting]
        exact h.statuses_eq
      · rw [hcommitted]
        exact List.nodup_append.mpr ⟨h.nodup, List.nodup_singleton i, fun a ha b hb =>
          fun hab => hnot (List.mem_singleton.mp hb ▸ hab ▸ ha)⟩
      · rw [hcommitted]
        by_cases hj : j = i
        · subst hj
          rw [hself]
          change events = [] at hevents
          subst hevents
          refine .after hplan rfl (hlooks _) fun events' r hends => ?_
          rw [← h.store_eq]
          exact hends
        · rw [flights_step_of_ne moments t hj]
          exact (h.onPlan j).append hj

/-- No turn departs from the plans. -/
theorem follows_step [DecidableEq ι] {t : Traffic ι}
    (hsound : ∀ i, (plans i).Sound statuses (moments i))
    (h : Follows plans moments statuses s t) (i : ι) :
    Follows plans moments statuses s (t.step moments i) := by
  by_cases hquiet : ∀ c ∈ (t.flights i).rest.asks, c.isMutating = false
  · exact follows_step_of_quiet h hquiet
  · simp only [not_forall] at hquiet
    rcases hquiet with ⟨c, hc, hmutating⟩
    rcases Program.eq_call_of_mem_asks hc with ⟨next, hrest⟩
    exact follows_step_of_call hsound h hrest (Bool.of_not_eq_false hmutating)

/-- No schedule departs from the plans. -/
theorem follows_run [DecidableEq ι] {t : Traffic ι}
    (hsound : ∀ i, (plans i).Sound statuses (moments i))
    (h : Follows plans moments statuses s t) (schedule : List ι) :
    Follows plans moments statuses s (t.run moments schedule) := by
  induction schedule generalizing t with
  | nil => exact h
  | cons i schedule ih => exact ih (follows_step hsound h i)

/-- A request that has been served stopped as its plan says, or it made its call and ended as it
    could after that. -/
theorem ended {t : Traffic ι} (h : Follows plans moments statuses s t) (hfinished : t.Finished)
    (i : ι) : ∃ r, (t.flights i).rest = .done r ∧
      ((plans i = .stops r ∧ i ∉ t.committed ∧ (t.flights i).events = []) ∨
        ∃ n c next earlier later, plans i = .commits n c next ∧
          t.committed = earlier ++ i :: later ∧
          (next ((moments i n).answer (replay plans moments s earlier) c)).Ends statuses (moments i)
            (n + 1) (t.flights i).events r) := by
  rcases Program.exists_of_isDone (hfinished i) with ⟨r, hr⟩
  refine ⟨r, hr, ?_⟩
  -- Nothing is left of the program, so it led to a stop, or it has made its call.
  have honPlan := h.onPlan i
  cases honPlan with
  | before hnot hevents hleads =>
      rw [hr] at hleads
      generalize plans i = plan at hleads
      cases hleads with
      | done r => exact Or.inl ⟨rfl, hnot, hevents⟩
  | @after n c next earlier later hplan hsplit _ hends =>
      rw [hr] at hends
      have hend := hends [] r (.done r)
      rw [List.append_nil] at hend
      exact Or.inr ⟨n, c, next, earlier, later, hplan, hsplit, hend⟩

/-- Whose calls change the store is a matter of the plans, and when they come in one order they are
    the same calls in the same order. -/
theorem committed_eq {t u : Traffic ι} (ht : Follows plans moments statuses s t)
    (hu : Follows plans moments statuses s u) (htf : t.Finished) (huf : u.Finished)
    {order : List ι} (horder : order.Nodup) (htsub : t.committed.Sublist order)
    (husub : u.committed.Sublist order) : t.committed = u.committed := by
  -- A request occurs among the calls exactly when its plan is to make one.
  have hmem : ∀ {v : Traffic ι}, Follows plans moments statuses s v → v.Finished → ∀ i,
      i ∈ v.committed ↔ ∀ r, plans i ≠ .stops r := by
    intro v hv hvf i
    rcases ended hv hvf i with
      ⟨r, _, ⟨hplan, hnot, _⟩ | ⟨n, c, next, earlier, later, hplan, hsplit, _⟩⟩
    · exact iff_of_false hnot fun hne => hne r hplan
    · refine iff_of_true ?_ fun r' hstop => ?_
      · rw [hsplit]
        exact List.mem_append_right _ List.mem_cons_self
      · rw [hplan] at hstop
        cases hstop
  refine (horder.perm_iff_eq_of_sublist htsub husub).mp ?_
  rw [List.perm_ext_iff_of_nodup ht.nodup hu.nodup]
  intro i
  rw [hmem ht htf, hmem hu huf]

/-- The order of the calls decides everything else: the store, and the answers except for what was
    read back. -/
theorem same_of_committed_eq {t u : Traffic ι} (hsound : ∀ i, (plans i).Sound statuses (moments i))
    (ht : Follows plans moments statuses s t) (hu : Follows plans moments statuses s u)
    (htf : t.Finished) (huf : u.Finished) (hsame : t.committed = u.committed) :
    t.world.store = u.world.store ∧ ∀ i, ∃ r r', (t.flights i).rest = .done r ∧
      (u.flights i).rest = .done r' ∧
      SameButReadBack (t.flights i).events r (u.flights i).events r' := by
  constructor
  · rw [ht.store_eq, hu.store_eq, hsame]
  · intro i
    have hnodup := hu.nodup
    rcases ended ht htf i with ⟨r, hr, hcase⟩
    rcases ended hu huf i with ⟨r', hr', hcase'⟩
    refine ⟨r, r', hr, hr', ?_⟩
    rcases hcase with ⟨hplan, _, hevents⟩ | ⟨n, c, next, earlier, later, hplan, hsplit, hend⟩
    · rcases hcase' with ⟨hplan', _, hevents'⟩ | ⟨n', c', next', _, _, hplan', _, _⟩
      · rw [hplan] at hplan'
        cases hplan'
        rw [hevents, hevents']
        exact .same _ _
      · rw [hplan] at hplan'
        cases hplan'
    · rcases hcase' with ⟨hplan', _, _⟩ | ⟨n', c', next', earlier', later', hplan', hsplit', hend'⟩
      · rw [hplan] at hplan'
        cases hplan'
      · rw [hplan] at hplan'
        cases hplan'
        -- The request occurs once, so the same calls came before it.
        rw [hsplit'] at hnodup
        rcases List.nodup_append.mp hnodup with ⟨_, hlater, hapart⟩
        have hbefore : i ∉ earlier' := fun hmem => hapart i hmem i List.mem_cons_self rfl
        have hbehind : i ∉ later' := (List.nodup_cons.mp hlater).1
        have hsplits : earlier ++ i :: later = earlier' ++ i :: later' := by
          rw [← hsplit, hsame, hsplit']
        rw [((List.append_cons_inj_of_notMem hbefore hbehind).mp hsplits.symm).1] at hend'
        have hsoundi := hsound i
        rw [hplan] at hsoundi
        exact hsoundi.2.2 _ _ _ _ _ hend hend'

end Follows

/-- Postings are serializable. However they are interleaved, and in whatever order they are then
    listed, as long as those whose calls changed the store come in the order of these calls: served
    one after the other in the order of the list, with the same times and identifiers, they come to
    an end, leave the same store, and give the same answers and events, except for the balances that
    a credit or a debit reads back. -/
theorem serializable {ι : Type} [DecidableEq ι] (settings : Settings) (w : World)
    (requests : ι → Request) (hposting : ∀ i, (requests i).isPosting = true)
    (moments : ι → Nat → Moment) (schedule order : List ι) {t : Traffic ι}
    (ht : t = (start settings w requests).run moments schedule) (hfinished : t.Finished)
    (hnodup : order.Nodup) (hall : ∀ i, i ∈ order) (horder : t.committed.Sublist order) :
    (∃ serial, OneByOne order serial ∧
      ((start settings w requests).run moments serial).Finished) ∧
    ∀ serial u, OneByOne order serial → u = (start settings w requests).run moments serial →
      u.Finished → u.world.store = t.world.store ∧ ∀ i, ∃ r r',
        (u.flights i).rest = .done r ∧ (t.flights i).rest = .done r' ∧
        SameButReadBack (u.flights i).events r (t.flights i).events r' := by
  -- The plans are settled before any schedule is chosen, and every schedule follows them.
  have hplans : ∀ i, ∃ plan : Plan, plan.Sound w.store.statuses (moments i) ∧
      ((requests i).program settings).Leads w.store.statuses (moments i) 0 plan :=
    fun i => Request.exists_plan settings (hposting i)
  choose plans hsound hleads using hplans
  have hstart : Follows plans moments w.store.statuses w.store (start settings w requests) := by
    refine ⟨rfl, rfl, List.nodup_nil, fun i => .before ?_ rfl (hleads i)⟩
    exact List.not_mem_nil
  have hfollows := follows_run hsound hstart
  constructor
  · rcases exists_oneByOne moments (start settings w requests) order with ⟨serial, hserial, hdone⟩
    exact ⟨serial, hserial, fun i => hdone i (hall i)⟩
  · rintro serial u hserial rfl hufinished
    subst ht
    -- On both schedules the calls come in the order of the list, so they are the same calls.
    have hturns := committed_run_sublist moments (start settings w requests) serial
    have husub := sublist_of_oneByOne (hfollows serial).nodup hserial hturns
    have hsame := committed_eq (hfollows serial) (hfollows schedule) hufinished hfinished hnodup
      husub horder
    exact same_of_committed_eq hsound (hfollows serial) (hfollows schedule) hufinished hfinished
      hsame

/-- A credit and a debit of one hundredth on a new account, the credit marked with `true`. -/
def crossing (schedule : List Bool) : Traffic Bool :=
  let w : World := { World.start 8 .counted .epoch with
    store := Store.empty.after .epoch (.createAccount .untouched) }
  (start .default w fun credit =>
    if credit then .credit default .hundredth else .debit default .hundredth).run
      (fun _ _ => ⟨.epoch, 0, 0, none⟩) schedule

/-- Both look at the account first, and the credit is read back last, when the money is gone
    again. -/
theorem crossing_serializable : ∃ serial, OneByOne [true, false] serial ∧
    (crossing serial).Finished ∧ (crossing serial).world.store
      = (crossing [false, true, true, false, false, false, true, true]).world.store := by
  have hserializable := serializable .default _ _ (fun credit => by cases credit <;> rfl) _
    [false, true, true, false, false, false, true, true] [true, false]
    (t := crossing [false, true, true, false, false, false, true, true]) rfl
    (fun credit => by cases credit <;> decide +kernel) (by decide) (by decide) (by decide +kernel)
  rcases hserializable with ⟨⟨serial, hserial, hdone⟩, hsame⟩
  exact ⟨serial, hserial, hdone, (hsame serial _ hserial rfl hdone).1⟩

end Traffic

end BankLedger
