import BankLedger.Proofs.Service.Chronicle
import BankLedger.Proofs.Store.Release
import BankLedger.Service.Numbers

/-!
# Releases

A request to release a hold reads the clock and makes one call. What comes of it was settled on the
turn on which it made that call, by the store as it was then, and from there on the store does the
rest: the hold is marked, and every other release of it, however far it had come, is refused on the
turn on which it asks.

## Main definitions

* `Request.releaseAt`, `Request.released`: What is left of a release once the clock has been read,
  and once the store has answered.
* `World.withStatus`: The world with another status of an account.
* `Chronicle.ReleaseStage`: How far a release has come.
* `Chronicle.ReleasedAt`: What happened on the turn on which a release asked the store.

## Theorems

* `program_releaseHold`: What a release does.
* `World.runAlone_releaseHold_withStatus`: It does not look at the status of the account.
* `exists_releasedAt`: A release that was answered has asked the store on one of its turns.
* `hold_run`: A hold is kept, whatever requests do.
* `eq_of_released`: At most one request releases a hold.
* `release_once`: A hold is released once at most, whoever releases it.
-/

namespace BankLedger

open Store

namespace Request

/-- What is left of a release once the store has answered. -/
def released (k : HoldId) (time : Instant) :
    Except LedgerError (Call.releaseHold k time).Reply → Program Answer
  | .ok h => .announce (.holdReleased h) (.done (.ok (.hold h)))
  | .error e => .done (.error e)

/-- What is left of a release once the clock has been read. -/
def releaseAt (k : HoldId) (time : Instant) : Program Answer :=
  .call (.releaseHold k time) (released k time)

/-- A release reads the clock, and asks the store with the time that it has read. -/
theorem program_releaseHold (settings : Settings) (k : HoldId) :
    (Request.releaseHold k).program settings
      = .now fun time => releaseAt k time := by
  refine congrArg Program.now (funext fun time => ?_)
  refine congrArg (Program.call (.releaseHold k time)) (funext fun answer => ?_)
  cases answer with
  | ok h => rfl
  | error e => rfl

end Request

open Request

namespace World

/-- The world with another status of an account. -/
def withStatus (w : World) (id : AccountId) (status : Status) : World :=
  { w with store := w.store.withStatus id status }

theorem ask_releaseHold_withStatus (w : World) (id : AccountId) (status : Status) (k : HoldId)
    (time : Instant) : (w.withStatus id status).ask (.releaseHold k time)
      = ((w.ask (.releaseHold k time)).1,
          (w.ask (.releaseHold k time)).2.withStatus id status) := by
  have hrelease := w.store.releaseHold_withStatus id status k time
  unfold ask
  simp only [tick, withStatus, perform]
  rw [hrelease]
  cases w.store.releaseHold k time with
  | ok answer => rfl
  | error e => rfl

/-- A release does not look at the status of the account: whatever it is, the answer is the same,
    and so is the world afterwards, but for that status. -/
theorem runAlone_releaseHold_withStatus (settings : Settings) (w : World) (id : AccountId)
    (status : Status) (k : HoldId) :
    ((Request.releaseHold k).program settings).runAlone (w.withStatus id status)
      = ((((Request.releaseHold k).program settings).runAlone w).1,
          (((Request.releaseHold k).program settings).runAlone w).2.withStatus id status) := by
  rw [program_releaseHold]
  -- Reading the clock leaves the store as it is.
  change (releaseAt k w.clock).runAlone (w.tick.2.withStatus id status)
    = (((releaseAt k w.clock).runAlone w.tick.2).1,
        ((releaseAt k w.clock).runAlone w.tick.2).2.withStatus id status)
  unfold releaseAt
  rw [Program.runAlone_call, Program.runAlone_call, ask_releaseHold_withStatus]
  cases (w.tick.2.ask (.releaseHold k w.clock)).1 with
  | ok h => rfl
  | error e => rfl

end World

namespace Chronicle

variable {ι : Type} [DecidableEq ι] {settings : Settings} {w : World} {requests : ι → Request}
  {moments : ι → Nat → Moment} {i : ι} {k : HoldId} {x z : Chronicle ι}

/-- How far a release has come. -/
inductive ReleaseStage (moments : ι → Nat → Moment) (i : ι) (k : HoldId) (x : Chronicle ι) :
    Prop where
  | begins (hsteps : (x.traffic.flights i).steps = 0)
      (hrest : x.rest i = .now fun time => releaseAt k time)
  | asks (hsteps : (x.traffic.flights i).steps = 1)
      (hrest : x.rest i = releaseAt k (moments i 0).clock)
  | asked (hsteps : 2 ≤ (x.traffic.flights i).steps)

theorem ReleaseStage.step (h : x.ReleaseStage moments i k) (j : ι) :
    (x.step moments j).ReleaseStage moments i k := by
  by_cases hj : i = j
  · subst hj
    have hturn := x.steps_step moments i i
    rw [if_pos rfl] at hturn
    cases h with
    | begins hsteps hrest =>
        rw [hsteps] at hturn
        refine .asks hturn ?_
        rw [rest_step_self, hrest, hsteps]
        rfl
    | asks hsteps _ => exact .asked (by omega)
    | asked hsteps => exact .asked (by omega)
  · have hsame := (x.steps_step moments j i).trans (by rw [if_neg hj, Nat.add_zero])
    cases h with
    | begins hsteps hrest =>
        exact .begins (hsame.trans hsteps) ((x.rest_step_of_ne moments hj).trans hrest)
    | asks hsteps hrest =>
        exact .asks (hsame.trans hsteps) ((x.rest_step_of_ne moments hj).trans hrest)
    | asked hsteps => exact .asked (hsame ▸ hsteps)

theorem releaseStage_run (hi : requests i = .releaseHold k) (schedule : List ι) :
    ((start settings w requests).run moments schedule).ReleaseStage moments i k := by
  refine run_induction (P := ReleaseStage moments i k) moments (fun x j h => h.step j)
    (.begins rfl ?_) schedule
  rw [← program_releaseHold settings, ← hi]
  rfl

/-- What happened on the turn on which a release asked the store: the store did not answer, or what
    comes of a release came of it. -/
inductive ReleasedAt (moments : ι → Nat → Moment) (i : ι) (k : HoldId) (z : Chronicle ι) :
    Except LedgerError Hold → Prop where
  | unanswered {e : LedgerError} (hrefusal : (moments i 1).refusal = some e)
      (hsame : (z.step moments i).store = z.store) : ReleasedAt moments i k z (.error e)
  | answered {answer : Except LedgerError Hold}
      (h : z.store.Releasing k (moments i 0).clock answer (z.step moments i).store) :
      ReleasedAt moments i k z answer

theorem releasedAt_of_asks (hz : z.store.NoOrphans) (hsteps : (z.traffic.flights i).steps = 1)
    (hrest : z.rest i = releaseAt k (moments i 0).clock) :
    ∃ answer, (z.step moments i).rest i = released k (moments i 0).clock answer ∧
      z.ReleasedAt moments i k answer := by
  rcases step_of_call moments hrest with ⟨hanswer, hstore⟩
  refine ⟨_, hanswer, ?_⟩
  rw [hsteps] at hstore ⊢
  unfold Moment.answer
  cases hrefusal : (moments i 1).refusal with
  | some e =>
      refine .unanswered hrefusal (hstore.trans ?_)
      unfold Moment.after
      rw [hrefusal]
  | none =>
      have hreleasing := releasing hz k (moments i 1).clock (moments i 0).clock
      refine .answered ?_
      rw [hstore]
      unfold Moment.after
      rw [hrefusal]
      exact hreleasing

theorem noOrphans_run (hw : w.store.NoOrphans) (schedule : List ι) :
    ((start settings w requests).run moments schedule).store.NoOrphans := by
  rcases changed_run moments (start settings w requests) schedule with ⟨calls, hchanged⟩
  rw [hchanged.eq_afterAll]
  exact hw.afterAll calls

/-- What is left once the store has answered settles the answer of the request. -/
theorem rest_run_of_released (moments : ι → Nat → Moment) {time : Instant}
    {answer : Except LedgerError Hold} (h : x.rest i = released k time answer) (schedule : List ι) :
    (x.run moments schedule).rest i = released k time answer ∨
      (x.run moments schedule).rest i = .done (answer.map .hold) := by
  refine run_induction (P := fun x => x.rest i = released k time answer ∨
    x.rest i = .done (answer.map .hold)) moments (fun x j hx => ?_) (Or.inl h) schedule
  by_cases hj : i = j
  · subst hj
    refine Or.inr ?_
    rw [rest_step_self]
    rcases hx with hx | hx <;> rw [hx]
    · cases answer with
      | ok h => rfl
      | error e => rfl
    · rfl
  · rw [rest_step_of_ne moments x hj]
    exact hx

/-- A release that was answered has asked the store on one of its turns, and what happened then is
    what it was answered. -/
theorem exists_releasedAt (hw : w.store.NoOrphans) (hi : requests i = .releaseHold k)
    (schedule : List ι) {r : Except LedgerError Answer}
    (hr : ((start settings w requests).run moments schedule).answered i = some r) :
    ∃ before later answer, schedule = before ++ i :: later ∧ r = answer.map .hold ∧
      ((start settings w requests).run moments before).ReleasedAt moments i k answer := by
  have hdone := Program.eq_done_of_result? hr
  have hstage (schedule : List ι) : ((start settings w requests).run moments
      schedule).ReleaseStage moments i k := releaseStage_run hi schedule
  have hasked :
      1 < (((start settings w requests).run moments schedule).traffic.flights i).steps := by
    cases hstage schedule with
    | begins _ hrest => rw [hdone] at hrest; cases hrest
    | asks _ hrest => rw [hdone] at hrest; cases hrest
    | asked hsteps => exact hsteps
  rcases exists_turn moments (x := start settings w requests) (Nat.zero_le 1) schedule hasked with
    ⟨before, later, rfl, hsteps⟩
  have hasks : ((start settings w requests).run moments before).rest i
      = releaseAt k (moments i 0).clock := by
    cases hstage before with
    | begins hsteps' _ => omega
    | asks _ hrest => exact hrest
    | asked hsteps' => omega
  rcases releasedAt_of_asks (noOrphans_run hw before) hsteps hasks with ⟨answer, hrest, hturn⟩
  refine ⟨before, later, answer, rfl, ?_, hturn⟩
  have hend := rest_run_of_released moments hrest later
  rw [run_append] at hdone
  change _ = _ at hdone
  rcases hend with hend | hend
  · have heq := hdone.symm.trans hend
    cases answer with
    | ok h => cases heq
    | error e =>
        cases heq
        rfl
  · exact Program.done.inj (hdone.symm.trans hend)

/-- A hold is kept, whatever requests do. -/
theorem hold_run (moments : ι → Nat → Moment) {h : Hold} (hh : x.store.holds.get? k = some h)
    (schedule : List ι) : ∃ g, (x.run moments schedule).store.holds.get? k = some g ∧ h.Kept g := by
  rcases changed_run moments x schedule with ⟨calls, hchanged⟩
  rw [hchanged.eq_afterAll]
  exact hold_afterAll hh calls

theorem spent_run (moments : ι → Nat → Moment) {h : Hold} (hh : x.store.holds.get? k = some h)
    (hspent : h.isActive = false) (schedule : List ι) :
    ∃ g, (x.run moments schedule).store.holds.get? k = some g ∧ g.isActive = false := by
  rcases hold_run moments hh schedule with ⟨g, hg, hkept⟩
  exact ⟨g, hg, hkept.isActive_eq_false hspent⟩

/-- A release that succeeds has marked the hold on its turn. -/
theorem ReleasedAt.spent {r : Hold} (h : z.ReleasedAt moments i k (.ok r)) :
    ∃ g, (z.step moments i).store.holds.get? k = some g ∧ g.isActive = false := by
  cases h with
  | answered h =>
      rcases h.of_ok with ⟨hr, htime⟩
      refine ⟨r, hr, ?_⟩
      unfold Hold.isActive
      rw [htime]
      rfl

/-- And it is the last one that does. -/
theorem ReleasedAt.last {r r' : Hold} {j : ι} (h : z.ReleasedAt moments i k (.ok r))
    (between : List ι) :
    ¬ ((z.step moments i).run moments between).ReleasedAt moments j k (.ok r') := by
  intro hagain
  rcases h.spent with ⟨g, hg, hspent⟩
  rcases spent_run moments hg hspent between with ⟨f, hf, hspent'⟩
  cases hagain with
  | answered hagain =>
      rcases hagain.active_of_ok with ⟨h', hh', hactive⟩
      rw [hf] at hh'
      cases hh'
      rw [hspent'] at hactive
      cases hactive

omit [DecidableEq ι] in
/-- Of two turns of different requests one comes first. -/
theorem turns_ordered {before later before' later' : List ι} {i j : ι}
    (h : before ++ i :: later = before' ++ j :: later') (hne : i ≠ j) :
    (∃ between, before' = before ++ i :: between) ∨
      ∃ between, before = before' ++ j :: between := by
  rcases List.append_eq_append_iff.mp h with ⟨between, hbefore, hlater⟩ | ⟨between, hbefore, hlater⟩
  · cases between with
    | nil => exact absurd (List.cons.inj hlater).1 hne
    | cons i' between => exact Or.inl ⟨between, (List.cons.inj hlater).1 ▸ hbefore⟩
  · cases between with
    | nil => exact absurd (List.cons.inj hlater).1.symm hne
    | cons j' between => exact Or.inr ⟨between, (List.cons.inj hlater).1 ▸ hbefore⟩

/-- Once a release has succeeded, the hold is marked. -/
theorem spent_of_answered (hw : w.store.NoOrphans) (hi : requests i = .releaseHold k)
    (schedule : List ι) {answer : Answer}
    (hanswer : ((start settings w requests).run moments schedule).answered i = some (.ok answer)) :
    ∃ g, ((start settings w requests).run moments schedule).store.holds.get? k = some g ∧
      g.isActive = false := by
  rcases exists_releasedAt hw hi schedule hanswer with ⟨before, later, r, rfl, hr, hturn⟩
  rcases (Attempt.map_eq_ok_iff _ _ _).mp hr.symm with ⟨h, rfl, _⟩
  rcases hturn.spent with ⟨g, hg, hspent⟩
  rw [run_append]
  exact spent_run moments hg hspent later

-- Two requests have each a turn of their own, and the hold was marked after the first of the two.
/-- At most one request releases a hold. -/
theorem eq_of_released (hw : w.store.NoOrphans) (schedule : List ι) {j : ι}
    {answer answer' : Answer} (hi : requests i = .releaseHold k) (hj : requests j = .releaseHold k)
    (hanswer : ((start settings w requests).run moments schedule).answered i = some (.ok answer))
    (hanswer' : ((start settings w requests).run moments schedule).answered j
      = some (.ok answer')) : j = i := by
  rcases exists_releasedAt hw hi schedule hanswer with ⟨before, later, r, hsplit, hr, hturn⟩
  rcases exists_releasedAt hw hj schedule hanswer' with ⟨before', later', r', hsplit', hr', hturn'⟩
  rcases (Attempt.map_eq_ok_iff _ _ _).mp hr.symm with ⟨h, rfl, _⟩
  rcases (Attempt.map_eq_ok_iff _ _ _).mp hr'.symm with ⟨h', rfl, _⟩
  by_contra hne
  rcases turns_ordered (hsplit.symm.trans hsplit') (Ne.symm hne) with
    ⟨between, rfl⟩ | ⟨between, rfl⟩
  · rw [run_append] at hturn'
    exact hturn.last between hturn'
  · rw [run_append] at hturn
    exact hturn'.last between hturn

/-- A hold is released once at most, and kept. In every run of calls of the store, and in every
    state that requests reach on any schedule: a release is answered and has its effect as
    `ReleasedOnce` says, whatever came before and whatever comes after; a request for one got its
    answer on a turn of its own; once one has succeeded all others are refused; and no two of them
    succeed. -/
theorem release_once (settings : Settings) (w : World) (hw : w.store.NoOrphans)
    (requests : ι → Request) (moments : ι → Nat → Moment) :
    (∀ calls k, (w.store.afterAll calls).ReleasedOnce k) ∧
    ∀ schedule x, x = (start settings w requests).run moments schedule →
      (∀ k, x.store.ReleasedOnce k) ∧
      (∀ later, ∃ calls, (x.run moments later).store = x.store.afterAll calls) ∧
      ∀ i k r, requests i = .releaseHold k → x.answered i = some r →
        (∃ before later answer, schedule = before ++ i :: later ∧ r = answer.map .hold ∧
          ((start settings w requests).run moments before).ReleasedAt moments i k answer) ∧
        ∀ answer, r = .ok answer →
          (∀ later now time, (x.run moments later).store.perform now (.releaseHold k time)
            = .error (.alreadyReleased k)) ∧
          ∀ j answer', requests j = .releaseHold k → x.answered j = some (.ok answer') → j = i := by
  refine ⟨fun calls k => (hw.afterAll calls).releasedOnce k, ?_⟩
  rintro schedule x rfl
  refine ⟨fun k => (noOrphans_run hw schedule).releasedOnce k, fun later => ?_,
    fun i k r hi hr => ⟨exists_releasedAt hw hi schedule hr, fun answer hok => ⟨?_, ?_⟩⟩⟩
  · rcases changed_run moments ((start settings w requests).run moments schedule) later with
      ⟨calls, hchanged⟩
    exact ⟨calls, hchanged.eq_afterAll⟩
  · intro later now time
    subst hok
    rcases spent_of_answered hw hi schedule hr with ⟨g, hg, hspent⟩
    rcases spent_run moments hg hspent later with ⟨f, hf, hspent'⟩
    have horphans : ((start settings w requests).run moments (schedule ++ later)).store.NoOrphans :=
      noOrphans_run hw (schedule ++ later)
    rw [run_append] at horphans
    rcases horphans k f hf with ⟨a, ha⟩
    exact releaseHold_of_spent hf ha hspent' time
  · subst hok
    exact fun j answer' hj hanswer' => eq_of_released hw schedule hi hj hr hanswer'

/-- The hold that is released below, of forty. -/
def rentHold : Hold := .start default default ⟨.ofUnits 40 0⟩ "rent" none none .epoch

/-- A ledger with one account, with a hundred on it of which forty are set aside. -/
def rentLedger : World := { World.start 8 .counted .epoch with
  store := Store.empty.afterAll ([.createAccount .untouched, .applyDelta default (.ofUnits 100 0),
    .createHold rentHold].map fun c => (.epoch, c)) }

/-- Two requests release the same hold, and both have read the clock before one of them asks. -/
def racingReleases : Chronicle Bool :=
  (start .default rentLedger fun _ => .releaseHold default).run (fun _ _ => ⟨.epoch, 0, 0, none⟩)
    [true, false, true, false, true]

/-- One of them succeeds, the other one does not, and neither does any after them. -/
theorem racingReleases_once :
    racingReleases.answered true
      = some (.ok (.hold { rentHold with releasedAt := some .epoch })) ∧
    racingReleases.answered false = some (.error (.alreadyReleased default)) ∧
    ∀ later now time,
      (racingReleases.run (fun _ _ => ⟨.epoch, 0, 0, none⟩) later).store.perform now
        (.releaseHold default time) = .error (.alreadyReleased default) := by
  have hanswer : racingReleases.answered true
      = some (.ok (.hold { rentHold with releasedAt := some .epoch })) := by decide +kernel
  have hw : rentLedger.store.NoOrphans := noOrphans_empty.afterAll _
  have hmain := (release_once .default rentLedger hw (fun _ => .releaseHold default)
    (fun _ _ => ⟨.epoch, 0, 0, none⟩)).2 _ racingReleases rfl
  refine ⟨hanswer, by decide +kernel, ?_⟩
  exact ((hmain.2.2 true default _ rfl hanswer).2 _ rfl).1

end Chronicle

end BankLedger
