import BankLedger.Proofs.Decimal.Value
import BankLedger.Proofs.Store.Run

/-!
# Holds and Their Release

A hold comes into the store once, stays there for ever, and is written once more at most: when it is
released. The release looks at the mark that it is about to set, so whoever comes second is refused.
What else happens to the account in the meantime does not matter, and neither does a release that
fails because the money does not fit, since it leaves the mark as it was.

In the store that lives in memory a release looks the hold up twice: once to learn on which account
it is, and again when that account has been taken hold of. Other calls may come between the two.
They cannot move the hold to another account, so the second look alone decides.

## Main definitions

* `Hold.Kept`: What may become of a hold.
* `Store.NoOrphans`: Every hold is on an account that is there.
* `Store.Releasing`: What a release answers, and the store that it leaves.
* `Store.releaseFound`: The release of a hold that has been looked up before.
* `Store.withStatus`: The store with another status of an account.
* `Store.ReleasedOnce`: What is true of a hold at any time and from then on.

## Theorems

* `Effect.hold_cases`: Where a hold comes from that is found after a call.
* `Effect.hold_step`: What a call does to a hold.
* `releasing`: Nothing else comes of a release.
* `releaseHold_withStatus`: A release does not look at the status of the account.
* `NoOrphans.releasedOnce`: A hold is released once at most, and kept.
-/

namespace BankLedger

namespace Hold

/-- What may become of a hold: it stays as it is, except that it may be released, and once it is
    released, that stays as well. -/
structure Kept (h g : Hold) : Prop where
  same : { h with releasedAt := g.releasedAt } = g
  released : ∀ time ∈ h.releasedAt, g.releasedAt = some time

theorem Kept.refl (h : Hold) : h.Kept h := ⟨rfl, fun _ hreleased => hreleased⟩

theorem Kept.trans {h g f : Hold} (hkept : h.Kept g) (hkept' : g.Kept f) : h.Kept f where
  same := by rw [← hkept'.same, ← hkept.same]
  released time htime := hkept'.released time (hkept.released time htime)

theorem Kept.account_eq {h g : Hold} (hkept : h.Kept g) : g.account = h.account := by
  rw [← hkept.same]

theorem Kept.reference_eq {h g : Hold} (hkept : h.Kept g) : g.reference = h.reference := by
  rw [← hkept.same]

theorem kept_of_isActive {h : Hold} (hactive : h.isActive = true) (time : Instant) :
    h.Kept { h with releasedAt := some time } where
  same := rfl
  released t ht := by
    rw [isActive, Option.isNone_iff_eq_none] at hactive
    rw [hactive] at ht
    cases ht

/-- A hold that has been released stays so. -/
theorem Kept.isActive_eq_false {h g : Hold} (hkept : h.Kept g) (hspent : h.isActive = false) :
    g.isActive = false := by
  rw [isActive, Option.isNone_eq_false_iff, Option.isSome_iff_exists] at hspent ⊢
  rcases hspent with ⟨time, htime⟩
  exact ⟨time, hkept.released time htime⟩

end Hold

namespace Account

/-- The account with another status. -/
def withStatus (a : Account) (status : Status) : Account := { a with status := status }

theorem id_withStatus (a : Account) (status : Status) : (a.withStatus status).id = a.id := rfl

/-- Giving money back does not look at the status. -/
theorem restore_withStatus (a : Account) (status : Status) (amount : Amount) (now : Instant) :
    (a.withStatus status).restore amount now
      = (a.restore amount now).map (·.withStatus status) := by
  change (a.withStatus status).inRange (a.available.add? amount.value) >>= _ = _
  unfold restore
  cases a.available.add? amount.value with
  | none => rfl
  | some available => rfl

end Account

namespace Store

variable {s t : Store} {now : Instant} {c : Call} {k : HoldId}

/-- What is found after a hold was marked as released. -/
theorem get?_replace_released {h : Hold} (hh : s.holds.get? k = some h) (time : Instant)
    (j : HoldId) : (s.holds.replace { h with releasedAt := some time }).get? j
      = if k = j then some { h with releasedAt := some time } else s.holds.get? j :=
  have hid : Hold.id { h with releasedAt := some time } = k := Table.key_of_get? (r := h) hh
  Table.get?_replace_of_get? hh hid j

/-- A hold that is found after a call was added by it, was there before, or has been released by
    it. -/
theorem Effect.hold_cases (heffect : Effect s now c t) {g : Hold}
    (hg : t.holds.get? k = some g) :
    (c = .createHold g ∧ s.holds.get? k = none) ∨ s.holds.get? k = some g ∨
      ∃ h time, s.holds.get? k = some h ∧ h.isActive = true ∧ c = .releaseHold k time ∧
        g = { h with releasedAt := some time } := by
  cases heffect with
  | looked _ | opened _ _ | amended _ _ | acted _ _ | moved _ _ => exact Or.inr (Or.inl hg)
  | held _ hholds _ =>
      rw [Table.get?_insert? hholds] at hg
      split at hg
      · next hk =>
          cases hg
          exact Or.inl ⟨rfl, hk ▸ Table.get?_eq_none_of_insert? hholds⟩
      · exact Or.inr (Or.inl hg)
  | @released k' time h a b hh _ hactive _ =>
      rw [get?_replace_released hh] at hg
      split at hg
      · next hk =>
          cases hg
          subst hk
          exact Or.inr (Or.inr ⟨h, time, hh, hactive, rfl, rfl⟩)
      · exact Or.inr (Or.inl hg)

/-- No hold is lost by a call, and none is changed but for its release. -/
theorem Effect.hold_step (heffect : Effect s now c t) {h : Hold} (hh : s.holds.get? k = some h) :
    ∃ g, t.holds.get? k = some g ∧ h.Kept g := by
  cases heffect with
  | looked _ | opened _ _ | amended _ _ | acted _ _ | moved _ _ => exact ⟨h, hh, .refl h⟩
  | @held h' _ _ _ _ hholds _ =>
      refine ⟨h, ?_, .refl h⟩
      rw [Table.get?_insert? hholds, if_neg]
      · exact hh
      · rintro rfl
        rw [Table.get?_eq_none_of_insert? hholds] at hh
        cases hh
  | @released k' time h' a b hh' _ hactive _ =>
      rw [get?_replace_released hh']
      by_cases hk : k' = k
      · subst hk
        rw [hh] at hh'
        cases hh'
        exact ⟨_, if_pos rfl, Hold.kept_of_isActive hactive time⟩
      · exact ⟨h, (if_neg hk).trans hh, .refl h⟩

/-- Every hold is on an account that is there. -/
def NoOrphans (s : Store) : Prop :=
  ∀ k h, s.holds.get? k = some h → ∃ a, s.accounts.get? h.account = some a

theorem noOrphans_empty : NoOrphans empty := by
  intro k h hh
  cases hh

theorem NoOrphans.effect (hs : s.NoOrphans) (heffect : Effect s now c t) : t.NoOrphans := by
  intro k g hg
  -- The account was there before the call, and no account is lost.
  have hbefore : ∃ a, s.accounts.get? g.account = some a := by
    rcases heffect.hold_cases hg with ⟨rfl, _⟩ | hh | ⟨h, _, hh, _, _, rfl⟩
    · cases heffect with
      | looked hc => cases hc
      | held ha _ _ => exact ⟨_, ha⟩
    · exact hs k g hh
    · exact hs k h hh
  rcases hbefore with ⟨a, ha⟩
  rcases heffect.account_step ha with ⟨b, hb, _⟩
  exact ⟨b, hb⟩

theorem NoOrphans.afterAll (hs : s.NoOrphans) (calls : List (Instant × Call)) :
    (s.afterAll calls).NoOrphans :=
  afterAll_induction (fun _ => True) (fun _ _ _ _ _ hs heffect => hs.effect heffect) s hs calls
    fun _ _ => trivial

/-- A hold is kept by every run. -/
theorem hold_afterAll {h : Hold} (hh : s.holds.get? k = some h) (calls : List (Instant × Call)) :
    ∃ g, (s.afterAll calls).holds.get? k = some g ∧ h.Kept g := by
  refine afterAll_induction (P := fun t => ∃ g, t.holds.get? k = some g ∧ h.Kept g)
    (fun _ => True) ?_ s ⟨h, hh, .refl h⟩ calls fun _ _ => trivial
  rintro t u now c - ⟨g, hg, hkept⟩ heffect
  rcases heffect.hold_step hg with ⟨f, hf, hkept'⟩
  exact ⟨f, hf, hkept.trans hkept'⟩

/-- What a release answers, and the store that it leaves. -/
inductive Releasing (s : Store) (k : HoldId) (time : Instant) :
    Except LedgerError Hold → Store → Prop where
  /-- There is no such hold. -/
  | notFound (hh : s.holds.get? k = none) : Releasing s k time (.error (.holdNotFound k)) s
  | alreadyReleased {h : Hold} (hh : s.holds.get? k = some h) (hspent : h.isActive = false) :
      Releasing s k time (.error (.alreadyReleased k)) s
  /-- The money does not fit, so the hold stays active. -/
  | overflowed {h : Hold} {a : Account} (hh : s.holds.get? k = some h) (hactive : h.isActive = true)
      (ha : s.accounts.get? h.account = some a)
      (hsum : a.available.add? h.amount.value = none) : Releasing s k time (.error a.overflow) s
  /-- The hold is marked and the money is available again, both in one step. -/
  | released {h : Hold} {a : Account} {available : Decimal} (hh : s.holds.get? k = some h)
      (hactive : h.isActive = true) (ha : s.accounts.get? h.account = some a)
      (hsum : a.available.add? h.amount.value = some available) :
      Releasing s k time (.ok { h with releasedAt := some time })
        { s.setAccount { a with available := available, updatedAt := time } with
          holds := s.holds.replace { h with releasedAt := some time } }

theorem releaseHold_of_spent {h : Hold} {a : Account} (hh : s.holds.get? k = some h)
    (ha : s.accounts.get? h.account = some a) (hspent : h.isActive = false) (time : Instant) :
    s.perform now (.releaseHold k time) = .error (.alreadyReleased k) := by
  change s.releaseHold k time = _
  unfold releaseHold
  rw [(hold_eq_ok_iff s k h).mpr hh, Attempt.ok_bind, (account_eq_ok_iff s _ a).mpr ha,
    Attempt.ok_bind]
  unfold Hold.markReleased
  rw [hspent]
  rfl

-- The cases are the looks in their order: at the hold, at its mark, and at the sum.
/-- Nothing else comes of a release. -/
theorem releasing (hs : s.NoOrphans) (k : HoldId) (now time : Instant) :
    s.Releasing k time ((s.perform now (.releaseHold k time)).map Prod.fst)
      (s.after now (.releaseHold k time)) := by
  rcases hh : s.holds.get? k with _ | h
  · have hrun : s.perform now (.releaseHold k time) = .error (.holdNotFound k) := by
      change s.releaseHold k time = _
      unfold releaseHold hold
      rw [hh]
      rfl
    rw [after_of_refused hrun, hrun]
    exact .notFound hh
  · rcases hs k h hh with ⟨a, ha⟩
    rcases hactive : h.isActive with _ | _
    · have hrun : s.perform now (.releaseHold k time) = .error (.alreadyReleased k) :=
        releaseHold_of_spent hh ha hactive time
      rw [after_of_refused hrun, hrun]
      exact .alreadyReleased hh hactive
    · have hrun := perform_releaseHold hh ha hactive time now
      rcases hsum : a.available.add? h.amount.value with _ | available
      · have hrestore : a.restore h.amount time = .error a.overflow := by
          unfold Account.restore
          rw [hsum]
          rfl
        rw [hrestore] at hrun
        rw [after_of_refused hrun, hrun]
        exact .overflowed hh hactive ha hsum
      · rw [(Account.restore_eq_ok_iff _ _ _ _).mpr ⟨available, hsum, rfl⟩] at hrun
        rw [after_of_perform hrun, hrun]
        exact .released hh hactive ha hsum

/-- A release that succeeds has marked the hold. -/
theorem Releasing.of_ok {time : Instant} {r : Hold} (h : s.Releasing k time (.ok r) t) :
    t.holds.get? k = some r ∧ r.releasedAt = some time := by
  cases h with
  | released hh hactive ha hsum =>
      exact ⟨(get?_replace_released hh time k).trans (if_pos rfl), rfl⟩

/-- And it has found the hold active. -/
theorem Releasing.active_of_ok {time : Instant} {r : Hold} (h : s.Releasing k time (.ok r) t) :
    ∃ h, s.holds.get? k = some h ∧ h.isActive = true := by
  cases h with
  | released hh hactive _ _ => exact ⟨_, hh, hactive⟩

/-- The release of a hold that has been looked up before and was found on an account. -/
def releaseFound (s : Store) (id : HoldId) (account : AccountId) (now : Instant) :
    Except LedgerError (Hold × Store) := do
  let a ← s.account account
  let h ← s.hold id
  match h.markReleased now with
  | none => throw (.alreadyReleased id)
  | some released =>
      let a ← a.restore h.amount now
      return (released, { s.setAccount a with holds := s.holds.replace released })

theorem releaseFound_eq {h : Hold} (hh : s.holds.get? k = some h) (time : Instant) :
    s.releaseFound k h.account time = s.releaseHold k time := by
  have hhold := (hold_eq_ok_iff s k h).mpr hh
  unfold releaseFound releaseHold
  rw [hhold, Attempt.ok_bind]
  rfl

section Status

variable {id : AccountId}

theorem setAccount_setAccount (s : Store) {a b : Account} (h : b.id = a.id) :
    (s.setAccount a).setAccount b = s.setAccount b :=
  congrArg (fun accounts => { s with accounts := accounts }) (Table.replace_replace _ h)

theorem setAccount_comm (s : Store) {a b : Account} (h : a.id ≠ b.id) :
    (s.setAccount a).setAccount b = (s.setAccount b).setAccount a :=
  congrArg (fun accounts => { s with accounts := accounts }) (Table.replace_comm _ h)

/-- The store with another status of an account. -/
def withStatus (s : Store) (id : AccountId) (status : Status) : Store :=
  match s.accounts.get? id with
  | some a => s.setAccount (a.withStatus status)
  | none => s

theorem withStatus_of_none (h : s.accounts.get? id = none) (status : Status) :
    s.withStatus id status = s := by
  unfold withStatus
  rw [h]

theorem withStatus_of_some {a : Account} (h : s.accounts.get? id = some a) (status : Status) :
    s.withStatus id status = s.setAccount (a.withStatus status) := by
  unfold withStatus
  rw [h]

theorem holds_withStatus (s : Store) (id : AccountId) (status : Status) :
    (s.withStatus id status).holds = s.holds := by
  unfold withStatus
  split
  · rfl
  · rfl

theorem withStatus_with_holds (s : Store) (holds : Table Hold.id) (id : AccountId)
    (status : Status) : { s with holds := holds }.withStatus id status
      = { s.withStatus id status with holds := holds } := by
  unfold withStatus
  rcases s.accounts.get? id with _ | a
  · rfl
  · rfl

/-- The rows are found as before, but for the status of one. -/
theorem get?_withStatus (s : Store) (id : AccountId) (status : Status) (k : AccountId) :
    (s.withStatus id status).accounts.get? k
      = (s.accounts.get? k).map fun a => if k = id then a.withStatus status else a := by
  rcases ha : s.accounts.get? id with _ | a
  · rw [withStatus_of_none ha]
    by_cases hk : k = id
    · rw [hk, ha, Option.map_none]
    · simp only [if_neg hk, Option.map_id']
  · rw [withStatus_of_some ha, get?_setAccount ha (a.id_withStatus status)]
    by_cases hk : k = id
    · simp only [hk, ha, if_true, Option.map_some]
    · simp only [if_neg hk, if_neg (Ne.symm hk), Option.map_id']

-- Either the row that is written is the one whose status is set, or the two writes are apart.
/-- To write an account and to set a status commute. -/
theorem setAccount_withStatus {k : AccountId} {a b : Account} (ha : s.accounts.get? k = some a)
    (hid : b.id = a.id) (id : AccountId) (status : Status) : (s.setAccount b).withStatus id status
      = (s.withStatus id status).setAccount (if k = id then b.withStatus status else b) := by
  have hwritten := get?_setAccount ha hid
  by_cases hk : k = id
  · subst hk
    rw [if_pos rfl, withStatus_of_some ha, withStatus_of_some ((hwritten k).trans (if_pos rfl)),
      setAccount_setAccount s (b.id_withStatus status), setAccount_setAccount s]
    rw [Account.id_withStatus, Account.id_withStatus, hid]
  · have hother := (hwritten id).trans (if_neg hk)
    rw [if_neg hk]
    rcases hold : s.accounts.get? id with _ | a'
    · rw [withStatus_of_none hold, withStatus_of_none (hother.trans hold)]
    · have hne : b.id ≠ (a'.withStatus status).id := by
        rw [hid, Account.id_withStatus, Table.key_of_get? ha, Table.key_of_get? hold]
        exact hk
      rw [withStatus_of_some hold, withStatus_of_some (hother.trans hold), setAccount_comm s hne]

-- The cases are the looks of a release in their order; only what is found last depends on the row,
-- and there the status is handed on.
/-- A release does not look at the status of the account. -/
theorem releaseHold_withStatus (s : Store) (id : AccountId) (status : Status) (k : HoldId)
    (time : Instant) : (s.withStatus id status).releaseHold k time
      = (s.releaseHold k time).map fun r => (r.1, r.2.withStatus id status) := by
  unfold releaseHold hold account
  rw [holds_withStatus]
  rcases s.holds.get? k with _ | h
  · rfl
  · simp only [Attempt.ok_bind, get?_withStatus]
    rcases ha : s.accounts.get? h.account with _ | a
    · rfl
    · simp only [Option.map_some, Attempt.ok_bind]
      rcases h.markReleased time with _ | g
      · rfl
      · have hrestore : (if h.account = id then a.withStatus status else a).restore h.amount time
            = (a.restore h.amount time).map
                fun b => if h.account = id then b.withStatus status else b := by
          split
          · exact a.restore_withStatus status h.amount time
          · exact (congrFun Except.map_id _).symm
        simp only [hrestore]
        rcases hb : a.restore h.amount time with e | b
        · rfl
        · have hchange : Change time (.releaseHold k time) a b := .released hb
          have hcommute := setAccount_withStatus ha hchange.id_eq id status
          refine congrArg (fun t => Except.ok (g, t)) (Eq.symm ?_)
          exact (withStatus_with_holds (s.setAccount b) _ id status).trans
            (congrArg (fun t => { t with holds := s.holds.replace g }) hcommute)

end Status

/-- What is true of a hold and its release, whatever calls are carried out from now on. -/
structure ReleasedOnce (s : Store) (k : HoldId) : Prop where
  /-- What a release would answer, and what it would do. -/
  releasing : ∀ now time, s.Releasing k time ((s.perform now (.releaseHold k time)).map Prod.fst)
    (s.after now (.releaseHold k time))
  /-- A release that succeeds is the last one. -/
  once : ∀ now time r t, s.perform now (.releaseHold k time) = .ok (r, t) →
    ∀ calls now' time', (t.afterAll calls).perform now' (.releaseHold k time')
      = .error (.alreadyReleased k)
  /-- The hold is kept, and so is the time of its release. -/
  kept : ∀ h, s.holds.get? k = some h → ∀ calls,
    ∃ g, (s.afterAll calls).holds.get? k = some g ∧ h.Kept g
  /-- A release may look the hold up now and go on later. -/
  lookedUp : ∀ h, s.holds.get? k = some h → ∀ calls time,
    (s.afterAll calls).releaseFound k h.account time = (s.afterAll calls).releaseHold k time

/-- A hold is released once at most, and kept. -/
theorem NoOrphans.releasedOnce (hs : s.NoOrphans) (k : HoldId) : s.ReleasedOnce k where
  releasing := Store.releasing hs k
  once now time r t hrun calls now' time' := by
    have hreleasing := Store.releasing hs k now time
    rw [after_of_perform hrun, hrun] at hreleasing
    rcases hreleasing.of_ok with ⟨hr, htime⟩
    rcases hold_afterAll hr calls with ⟨g, hg, hkept⟩
    have hspent : r.isActive = false := by unfold Hold.isActive; rw [htime]; rfl
    rcases (hs.effect (effect_of_perform hrun)).afterAll calls k g hg with ⟨a, ha⟩
    exact releaseHold_of_spent hg ha (hkept.isActive_eq_false hspent) time'
  kept h hh calls := hold_afterAll hh calls
  lookedUp h hh calls time := by
    rcases hold_afterAll hh calls with ⟨g, hg, hkept⟩
    rw [← hkept.account_eq]
    exact releaseFound_eq hg time

/-- The largest decimal is on an account, and a half more than one is set aside, which takes two
    because a digit is lost. So it does not fit when it is given back. -/
def overfull : Store :=
  empty.afterAll ([.createAccount .untouched, .applyDelta default .max,
    .createHold (.start default default ⟨.ofUnits 15 1⟩ "rent" none none .epoch)].map
      fun c => (.epoch, c))

-- It fits once money was taken out.
example : (overfull.perform .epoch (.releaseHold default .epoch)).isOk = false ∧
    ((overfull.after .epoch (.applyDelta default (.ofUnits (-1) 0))).perform .epoch
      (.releaseHold default .epoch)).isOk = true := by decide +kernel

end Store

end BankLedger
