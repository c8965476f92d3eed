import BankLedger.Proofs.Service.Closing
import BankLedger.Proofs.Service.Plan
import BankLedger.Proofs.Service.Release

/-!
# Requests Served in Turn

Requests that wait for each other cannot come between the look at an account and the change that
follows it. So whoever found the account active makes the change while it still is, and on an
account that is not active nothing happens to the money: the balance stays, no hold is added, and
what is available changes only when a hold is released. A release does not look at the status at
all.

The invariant behind this links a look to the present: a request that has not made its change yet,
and has found an account active, could find it so again. While another request is under way the link
would break, so it is carried along those schedules only on which nobody else is.

## Main definitions

* `Store.Still`: Nothing has happened to the balance of an account, and no hold on it was added.
* `Chronicle.UnderWay`: A request that has begun and has not come to its end.
* `Chronicle.InTurn`: The requests are served one after the other.
* `Chronicle.Inactive`: A turn before or after which an account is not active.
* `Chronicle.Attentive`: What a request has seen is still so.

## Theorems

* `Effect.still`: What a call can do to an account that it did not have to find active.
* `Attentive.step`: The invariant.
* `Attentive.still_run`: An account that is not active stands still.
* `noneStranded_run`: No money gets onto a closed account.
* `inTurn_inactive`: All of it, for every run in turn.
-/

namespace BankLedger

namespace Store

variable {s t u : Store} {now : Instant} {c : Call} {id : AccountId}

/-- Nothing has happened to the balance of an account, and no hold on it was added. -/
structure Still (id : AccountId) (s t : Store) : Prop where
  balance : ∀ a, s.accounts.get? id = some a →
    ∃ b, t.accounts.get? id = some b ∧ b.balance = a.balance
  holds : ∀ k g, t.holds.get? k = some g → g.account = id →
    ∃ h, s.holds.get? k = some h ∧ h.Kept g

theorem Still.refl (id : AccountId) (s : Store) : Still id s s where
  balance a ha := ⟨a, ha, rfl⟩
  holds _ g hg _ := ⟨g, hg, .refl g⟩

theorem Still.trans (h : Still id s t) (h' : Still id t u) : Still id s u where
  balance a ha := by
    rcases h.balance a ha with ⟨b, hb, hsame⟩
    rcases h'.balance b hb with ⟨b', hb', hsame'⟩
    exact ⟨b', hb', hsame'.trans hsame⟩
  holds k f hf hon := by
    rcases h'.holds k f hf hon with ⟨g, hg, hkept'⟩
    rcases h.holds k g hg (hkept'.account_eq.symm.trans hon) with ⟨h, hh, hkept⟩
    exact ⟨h, hh, hkept.trans hkept'⟩

/-- Money moves, in or out or aside, only where the account has to be found active; otherwise some
    may be given back. -/
theorem Change.still {a b : Account} (h : Change now c a b) (habout : s.about c = some id)
    (hactive : c.activeAccount? ≠ some id) : b.balance = a.balance ∧
      (b.available = a.available ∨ ∃ k time, c = .releaseHold k time) := by
  have hwrites := h.writes
  cases h with
  | amended | acted =>
      exact ⟨(congrArg Account.balance hwrites).symm,
        Or.inl (congrArg Account.available hwrites).symm⟩
  | moved | held => exact absurd habout hactive
  | released => exact ⟨(congrArg Account.balance hwrites).symm, Or.inr ⟨_, _, rfl⟩⟩

/-- What a call can do to an account that it did not have to find active. -/
theorem Effect.still (h : Effect s now c t) (hactive : c.activeAccount? ≠ some id) :
    Still id s t where
  balance a ha := by
    rcases h.account_step ha with ⟨b, hb, rfl | ⟨hchange, habout⟩⟩
    · exact ⟨b, hb, rfl⟩
    · exact ⟨b, hb, (hchange.still habout hactive).1⟩
  holds k g hg hon := by
    rcases h.hold_cases hg with ⟨rfl, _⟩ | hh | ⟨h, time, hh, hopen, _, rfl⟩
    · exact absurd (congrArg some hon) hactive
    · exact ⟨g, hh, .refl g⟩
    · exact ⟨h, hh, Hold.kept_of_isActive hopen time⟩

/-- A call that has to find an account active leaves it so. -/
theorem Effect.statuses_of_activeAccount? (h : Effect s now c t)
    (hid : c.activeAccount? = some id) (hactive : s.statuses id = some .active) :
    t.statuses id = some .active := by
  rcases Option.map_eq_some_iff.mp hactive with ⟨a, ha, hstatus⟩
  rcases h.account_step ha with ⟨b, hb, hcase⟩
  unfold statuses
  rw [hb, Option.map_some, Option.some.injEq]
  rcases hcase with rfl | ⟨hchange, _⟩
  · exact hstatus
  · cases hchange.life with
    | stayed hsame _ _ => exact hsame.trans hstatus
    | frozen | unfrozen | closed | set => cases hid

end Store

open Store Deed

namespace Chronicle

variable {ι : Type} [DecidableEq ι] {settings : Settings} {requests : ι → Request}
  {x : Chronicle ι} {id : AccountId} (moments : ι → Nat → Moment)

/-- The request has begun and has not come to its end. -/
def UnderWay (x : Chronicle ι) (i : ι) : Prop :=
  0 < (x.traffic.flights i).steps ∧ (x.rest i).isDone = false

/-- No other request is under way. -/
def Unaccompanied (x : Chronicle ι) (i : ι) : Prop := ∀ j, j ≠ i → ¬ x.UnderWay j

/-- The requests are served one after the other: each has come to its end before the next one
    begins. -/
def InTurn (x : Chronicle ι) (schedule : List ι) : Prop :=
  Along moments Unaccompanied x schedule

/-- A turn before or after which the account is not active. -/
def Inactive (id : AccountId) (x : Chronicle ι) (i : ι) : Prop :=
  x.store.statuses id ≠ some .active ∨ (x.step moments i).store.statuses id ≠ some .active

omit [DecidableEq ι] in
theorem statuses_eq {a : Account} (ha : x.store.accounts.get? id = some a) :
    x.store.statuses id = some a.status := by
  unfold Store.statuses
  rw [ha, Option.map_some]

/-- What a request has seen is still so, as long as it has not made its change. -/
structure Attentive (settings : Settings) (requests : ι → Request) (x : Chronicle ι) : Prop where
  conducted : x.Conducted settings requests
  idle : ∀ i, (x.traffic.flights i).steps = 0 → x.deedsOf i = []
  seen : ∀ i time id a, (x.rest i).isDone = false → changes (x.deedsOf i) = [] →
    .asked time (.getAccount id) (.ok a) ∈ x.deedsOf i → a.status = .active →
      x.store.statuses id = some .active

theorem attentive_start (w : World) : (start settings w requests).Attentive settings requests where
  conducted := conducted_start w
  idle _ _ := rfl
  seen _ _ _ _ _ _ hmem := by cases hmem

theorem isDone_step {i : ι} (j : ι) (h : (x.rest i).isDone = true) :
    ((x.step moments j).rest i).isDone = true := Traffic.isDone_run moments h [j]

theorem Attentive.idle_step (h : x.Attentive settings requests) (i j : ι)
    (hj : ((x.step moments i).traffic.flights j).steps = 0) :
    (x.step moments i).deedsOf j = [] := by
  rw [steps_step] at hj
  by_cases hij : j = i
  · rw [if_pos hij] at hj
    exact absurd hj (Nat.succ_ne_zero _)
  · rw [if_neg hij] at hj
    rw [deedsOf_step_of_ne moments x hij]
    exact h.idle j hj

-- The other requests have not begun or have ended. For the one whose turn it is, a look that it
-- took before is still good, because it changes nothing now, and a look that it takes now is good.
theorem Attentive.seen_step (h : x.Attentive settings requests) {i j : ι}
    (halone : x.Unaccompanied i) {time : Instant} {a : Account}
    (hbusy : ((x.step moments i).rest j).isDone = false)
    (hchanges : changes ((x.step moments i).deedsOf j) = [])
    (hmem : .asked time (.getAccount id) (.ok a) ∈ (x.step moments i).deedsOf j)
    (hactive : a.status = .active) : (x.step moments i).store.statuses id = some .active := by
  have hbefore : (x.rest j).isDone = false := by
    by_contra hdone
    rw [isDone_step moments i (Bool.not_eq_false _ ▸ hdone)] at hbusy
    cases hbusy
  by_cases hj : j = i
  · subst hj
    rw [deedsOf_step_self] at hchanges hmem
    rw [changes_append, List.append_eq_nil_iff] at hchanges
    rcases h.conducted.step_cases moments j with
      ⟨_, hsame⟩ | ⟨time, c, reply, hdeeds, _, hfulfilled, _, _⟩
    · rw [hsame]
      rcases List.mem_append.mp hmem with hearlier | hnow
      · exact h.seen j _ id a hbefore hchanges.1 hearlier hactive
      · rw [statuses_eq (Program.get?_of_mem_deeds hnow), hactive]
    · have hnow := hchanges.2
      rw [hdeeds, changes_changed _ hfulfilled.isMutating.2] at hnow
      cases hnow
  · rw [deedsOf_step_of_ne moments x hj] at hmem
    have hidle : (x.traffic.flights j).steps = 0 := by
      by_contra hbegun
      exact halone j hj ⟨Nat.pos_of_ne_zero hbegun, hbefore⟩
    rw [h.idle j hidle] at hmem
    cases hmem

theorem Attentive.step (h : x.Attentive settings requests) (i : ι) (halone : x.Unaccompanied i) :
    (x.step moments i).Attentive settings requests where
  conducted := h.conducted.step moments i
  idle j := h.idle_step moments i j
  seen _ _ _ _ := h.seen_step moments halone

theorem attentive_run (w : World) {schedule : List ι}
    (hturn : (start settings w requests).InTurn moments schedule) :
    ((start settings w requests).run moments schedule).Attentive settings requests :=
  run_along_induction moments (fun _ i halone h => h.step moments i halone) (attentive_start w)
    hturn

/-- A turn leaves the store as it is, or its call does not have to find this account active. -/
theorem Attentive.step_cases (h : x.Attentive settings requests) {i : ι}
    (hinactive : x.Inactive moments id i) : (x.step moments i).store = x.store ∨
      ∃ time c, x.store.Effect time c (x.step moments i).store ∧
        (requests i).FulfilledBy settings c ∧ c.activeAccount? ≠ some id := by
  rcases h.conducted.step_cases moments i with
    ⟨_, hsame⟩ | ⟨time, c, reply, hdeeds, heffect, hfulfilled, hchanges, hactive⟩
  · exact Or.inl hsame
  · refine Or.inr ⟨time, c, heffect, hfulfilled, fun hid => ?_⟩
    rcases hactive id hid with ⟨time', a, hmem, hseen⟩
    have hbusy : (x.rest i).isDone = false := by
      by_contra hdone
      rw [deedsAt_of_isDone moments (Bool.not_eq_false _ ▸ hdone)] at hdeeds
      cases hdeeds
    have hbefore := h.seen i time' id a hbusy hchanges hmem hseen
    rcases hinactive with hnot | hnot
    · exact hnot hbefore
    · exact hnot (heffect.statuses_of_activeAccount? hid hbefore)

/-- On a turn of an inactive account its balance stays and no hold on it is added. -/
theorem Attentive.still_step (h : x.Attentive settings requests) {i : ι}
    (hinactive : x.Inactive moments id i) : Still id x.store (x.step moments i).store := by
  rcases h.step_cases moments hinactive with hsame | ⟨_, _, heffect, _, hactive⟩
  · rw [hsame]
    exact .refl id x.store
  · exact heffect.still hactive

/-- And what is available changes only when a hold on it is released. -/
theorem Attentive.available_step (h : x.Attentive settings requests) {i : ι}
    (hinactive : x.Inactive moments id i) {a b : Account}
    (ha : x.store.accounts.get? id = some a)
    (hb : (x.step moments i).store.accounts.get? id = some b) (hne : b.available ≠ a.available) :
    ∃ k, requests i = .releaseHold k ∧ ∃ g, (x.step moments i).store.holds.get? k = some g ∧
      g.account = id := by
  rcases h.step_cases moments hinactive with hsame | ⟨time, c, heffect, hfulfilled, hactive⟩
  · rw [hsame, ha] at hb
    cases hb
    exact absurd rfl hne
  · rcases heffect.account_step ha with ⟨b', hb', hcase⟩
    rw [hb] at hb'
    cases hb'
    rcases hcase with rfl | ⟨hchange, habout⟩
    · exact absurd rfl hne
    · rcases (hchange.still habout hactive).2 with hsame | ⟨k, at', rfl⟩
      · exact absurd hsame hne
      · rcases Option.map_eq_some_iff.mp habout with ⟨g, hg, hon⟩
        rcases heffect.hold_step hg with ⟨g', hg', hkept⟩
        refine ⟨k, ?_, g', hg', hkept.account_eq.trans hon⟩
        generalize requests i = r at hfulfilled
        cases hfulfilled with
        | released => rfl

-- By induction on the schedule. The account is handed on as it is after each turn, with its
-- balance.
/-- An inactive account stands still on a whole schedule. -/
theorem Attentive.still_run (h : x.Attentive settings requests) {schedule : List ι}
    (hturn : x.InTurn moments schedule) (hinactive : Along moments (Inactive moments id) x schedule)
    {a : Account} (ha : x.store.accounts.get? id = some a) :
    Still id x.store (x.run moments schedule).store ∧
      ∀ b, (x.run moments schedule).store.accounts.get? id = some b → b.available ≠ a.available →
        ∃ i ∈ schedule, ∃ k, requests i = .releaseHold k ∧
          ∃ g, (x.run moments schedule).store.holds.get? k = some g ∧ g.account = id := by
  induction schedule generalizing x a with
  | nil =>
      refine ⟨.refl id x.store, fun b hb hne => ?_⟩
      cases ha.symm.trans hb
      exact absurd rfl hne
  | cons i schedule ih =>
      have hstill := h.still_step moments hinactive.1
      rcases hstill.balance a ha with ⟨a', ha', _⟩
      rcases ih (h.step moments i hturn.1) hturn.2 hinactive.2 ha' with ⟨hrest, havailable⟩
      refine ⟨hstill.trans hrest, fun b hb hne => ?_⟩
      by_cases hsame : a'.available = a.available
      · rcases havailable b hb (hsame ▸ hne) with ⟨j, hj, hrelease⟩
        exact ⟨j, List.mem_cons_of_mem i hj, hrelease⟩
      · rcases h.available_step moments hinactive.1 ha ha' hsame with ⟨k, hk, g, hg, hon⟩
        rcases hold_run moments hg schedule with ⟨g', hg', hkept⟩
        exact ⟨i, List.mem_cons_self, k, hk, g', hg', hkept.account_eq.trans hon⟩

/-- No money gets onto a closed account when requests are served in turn. -/
theorem Attentive.noneStranded_step (h : x.Attentive settings requests) (i : ι)
    (hx : x.store.NoneStranded) : (x.step moments i).store.NoneStranded := by
  intro id b hb hclosed
  rcases ha : x.store.accounts.get? id with _ | a
  · rcases h.conducted.step_cases moments i with ⟨_, hsame⟩ | ⟨_, _, _, _, heffect, hfulfilled, _⟩
    · rw [hsame, ha] at hb
      cases hb
    · rw [heffect.active_of_new hfulfilled.bringsNew ha hb] at hclosed
      cases hclosed
  · by_cases hbefore : a.status = .closed
    · have hinactive : x.Inactive moments id i := by
        refine Or.inl ?_
        rw [statuses_eq ha, hbefore]
        nofun
      rcases (h.still_step moments hinactive).balance a ha with ⟨b', hb', hsame⟩
      cases hb.symm.trans hb'
      rw [hsame]
      exact hx id a ha hbefore
    · rcases h.conducted.account_step moments i ha with ⟨b', hb', hcase⟩
      cases hb.symm.trans hb'
      rcases hcase with rfl | ⟨_, _, _, _, hchange⟩
      · exact absurd hclosed hbefore
      · exact (hchange.life.closes hbefore hclosed).2

theorem noneStranded_run {w : World} (hw : w.store.NoneStranded) {schedule : List ι}
    (hturn : (start settings w requests).InTurn moments schedule) :
    ((start settings w requests).run moments schedule).store.NoneStranded := by
  refine (run_along_induction (P := fun x => x.Attentive settings requests ∧ x.store.NoneStranded)
    moments ?_ ⟨attentive_start w, hw⟩ hturn).2
  exact fun x i halone h => ⟨h.1.step moments i halone, h.1.noneStranded_step moments i h.2⟩

/-- Only active accounts move money, when the requests are served one after the other. While an
    account is not active, from the turn on which it ceases to be until the one on which it becomes
    so again, its balance stays, no hold on it is added, and what is available changes only by a
    release of a hold on it, which does not look at the status. It ceases to be active by a request
    that is there to move the status. And a closed account has no money on it from then on. -/
theorem inTurn_inactive (settings : Settings) (w : World) (requests : ι → Request)
    (moments : ι → Nat → Moment) (earlier during : List ι)
    (hturn : (start settings w requests).InTurn moments (earlier ++ during)) {x y : Chronicle ι}
    (hx : x = (start settings w requests).run moments earlier) (hy : y = x.run moments during)
    {id : AccountId} {a : Account} (ha : x.store.accounts.get? id = some a) :
    (Along moments (Inactive moments id) x during →
      (∃ b, y.store.accounts.get? id = some b ∧ b.balance = a.balance ∧
        (b.available ≠ a.available → ∃ i ∈ during, ∃ k, requests i = .releaseHold k ∧
          ∃ g, y.store.holds.get? k = some g ∧ g.account = id)) ∧
      ∀ k g, y.store.holds.get? k = some g → g.account = id →
        ∃ h, x.store.holds.get? k = some h ∧ h.Kept g) ∧
    (∀ i b, (x.step moments i).store.accounts.get? id = some b → a.status = .active →
      b.status ≠ .active → StatusMove (requests i) a b) ∧
    (∀ (v : World) status k,
      ((Request.releaseHold k).program settings).runAlone (v.withStatus id status)
        = ((((Request.releaseHold k).program settings).runAlone v).1,
            (((Request.releaseHold k).program settings).runAlone v).2.withStatus id status)) ∧
    (w.store.NoneStranded → a.status = .closed →
      ∃ b, y.store.accounts.get? id = some b ∧ b.status = .closed ∧ b.balance.toRat = 0) := by
  subst hx hy
  have hturns := (along_append moments).mp hturn
  have h : ((start settings w requests).run moments earlier).Attentive settings requests :=
    attentive_run moments w hturns.1
  refine ⟨fun hinactive => ?_, fun i b hb hactive hleft => ?_, fun v status k => ?_,
    fun hw hclosed => ?_⟩
  · rcases h.still_run moments hturns.2 hinactive ha with ⟨hstill, havailable⟩
    rcases hstill.balance a ha with ⟨b, hb, hsame⟩
    exact ⟨⟨b, hb, hsame, havailable b hb⟩, hstill.holds⟩
  · rcases h.conducted.account_step moments i ha with ⟨b', hb', hcase⟩
    cases hb.symm.trans hb'
    rcases hcase with rfl | ⟨_, c, hfulfilled, habout, hchange⟩
    · exact absurd hactive hleft
    · refine hchange.life.statusMove hfulfilled (Table.key_of_get? ha ▸ habout) ?_
      rw [hactive]
      exact hleft
  · exact v.runAlone_releaseHold_withStatus settings id status k
  · rcases h.conducted.closed_run moments during ha hclosed with ⟨b, hb, hended⟩
    have hnone : ((start settings w requests).run moments
        (earlier ++ during)).store.NoneStranded := noneStranded_run moments hw hturn
    rw [run_append] at hnone
    exact ⟨b, hb, hended.closed, hnone id b hb hended.closed⟩

/-- An account is frozen, then money is to be put on it, and then a hold on it is released. -/
def frozenRequest : Fin 3 → Request
  | 0 => .changeStatus .freeze default
  | 1 => .credit default .hundredth
  | 2 => .releaseHold default

/-- The first of them has read the clock, and the account is still active. -/
def aboutToFreeze : Chronicle (Fin 3) :=
  (start .default rentLedger frozenRequest).run (fun _ _ => ⟨.epoch, 0, 0, none⟩) [0]

/-- The account is frozen, and the others are served after that. -/
def whileFrozen : Chronicle (Fin 3) :=
  aboutToFreeze.run (fun _ _ => ⟨.epoch, 0, 0, none⟩) [0, 0, 1, 2, 2, 2]

instance (x : Chronicle ι) (i : ι) : Decidable (x.UnderWay i) :=
  inferInstanceAs (Decidable (_ ∧ _))

instance [Fintype ι] (x : Chronicle ι) (i : ι) : Decidable (x.Unaccompanied i) :=
  inferInstanceAs (Decidable (∀ j, j ≠ i → ¬ x.UnderWay j))

instance (x : Chronicle ι) (id : AccountId) (i : ι) : Decidable (x.Inactive moments id i) :=
  inferInstanceAs (Decidable (_ ∨ _))

/-- Nothing is put on the account, and the forty that were set aside are available again. -/
theorem whileFrozen_still : ∃ a b, aboutToFreeze.store.accounts.get? default = some a ∧
    whileFrozen.store.accounts.get? default = some b ∧ b.status = .frozen ∧
    a.available.toRat = 60 ∧ b.available.toRat = 100 ∧ b.balance = a.balance := by
  have hturn : (start .default rentLedger frozenRequest).InTurn
      (fun _ _ => ⟨.epoch, 0, 0, none⟩) ([0] ++ [0, 0, 1, 2, 2, 2]) := by
    unfold InTurn
    decide +kernel
  have hinactive : Along (fun _ _ => ⟨.epoch, 0, 0, none⟩)
      (Inactive (fun _ _ => ⟨.epoch, 0, 0, none⟩) default) aboutToFreeze [0, 0, 1, 2, 2, 2] := by
    decide +kernel
  have hbefore : ∀ a ∈ aboutToFreeze.store.accounts.get? default, a.available.toRat = 60 := by
    decide +kernel
  have hafter : ∀ b ∈ whileFrozen.store.accounts.get? default,
      b.available.toRat = 100 ∧ b.status = .frozen := by decide +kernel
  rcases ha : aboutToFreeze.store.accounts.get? default with _ | a
  · exact absurd ha (by decide +kernel)
  · rcases (inTurn_inactive .default rentLedger frozenRequest _ [0] [0, 0, 1, 2, 2, 2] hturn
      (y := whileFrozen) rfl rfl ha).1 hinactive with ⟨⟨b, hb, hsame, _⟩, _⟩
    exact ⟨a, b, rfl, hb, (hafter b hb).2, hbefore a ha, (hafter b hb).1, hsame⟩

end Chronicle

end BankLedger
