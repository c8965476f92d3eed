import BankLedger.Proofs.Service.Conduct
import BankLedger.Proofs.Service.Exact
import BankLedger.Proofs.Store.Reserve
import Mathlib.Algebra.BigOperators.Group.Finset.Piecewise

/-!
# Conservation of Money

The balance of an account is what it was at the beginning, and what the credits have added since,
less what the debits have taken off. What a caller was told is enough to know which of them count: a
request that was answered without an error has moved its money, once, and any other one has not. It
makes no difference whether the balances could be read back for the answer.

This is put together from two sums over the journal. The calls that changed the store tell the
balance, because each of them moves what it says and nothing else writes a balance. The same calls,
sorted by the request that made them, tell the answers, because each request makes one change at
most, and has made it exactly if it succeeds. A request in between the two, with its money moved and
its answer still to come, would be missing from the second sum; so the balance is told for states
only in which no credit and no debit is there.

## Main definitions

* `Store.balanceOf`: The money on an account.
* `Call.moves`, `Request.credits`, `Request.debits`: What a call moves and a request is to move.
* `Chronicle.hasSucceeded`: A request that was answered, and not with an error.
* `Chronicle.Returning`: A request that has made its change and has not been answered yet.

## Theorems

* `Effect.balanceOf_eq`: What a call does to the money on an account.
* `Changed.balanceOf_eq`: What a run of calls does to it.
* `sum_changes`: The changes together are the changes of each request.
* `Conducted.sum_changes_eq`: They are those of the requests that succeeded.
* `balance_conserved`: Conservation of money.
-/

namespace BankLedger

/-- What a call moves onto an account or off it. -/
def Call.moves (id : AccountId) : Call → ℚ
  | .applyDelta i delta => if i = id then delta.toRat else 0
  | _ => 0

namespace Request

/-- What a request is to put on an account. -/
def credits (id : AccountId) : Request → ℚ
  | .credit i amount => if i = id then amount.toRat else 0
  | _ => 0

/-- What a request is to take off an account. -/
def debits (id : AccountId) : Request → ℚ
  | .debit i amount => if i = id then amount.toRat else 0
  | _ => 0

/-- The change that a request is after moves what the request is to move. -/
theorem FulfilledBy.moves_eq {settings : Settings} {r : Request} {c : Call}
    (h : r.FulfilledBy settings c) (id : AccountId) : c.moves id = r.credits id - r.debits id := by
  cases h with
  | @credited i x amount hamount =>
      rw [← ((Amount.ofDecimal_eq_ok_iff _ _).mp hamount).2]
      exact (sub_zero _).symm
  | @debited i x amount hamount =>
      rw [← ((Amount.ofDecimal_eq_ok_iff _ _).mp hamount).2]
      simp only [Call.moves, credits, debits, Decimal.toRat_neg, zero_sub]
      split
      · rfl
      · exact neg_zero.symm
  | opened | acted | closed | amended | held | released => exact (sub_zero 0).symm

end Request

namespace Store

open Decimal

variable {s t : Store} {now : Instant} {c : Call} {id : AccountId}

/-- The money on an account, which is none when there is no such account. -/
def balanceOf (s : Store) (id : AccountId) : ℚ := (s.accounts.get? id).elim 0 (·.balance.toRat)

theorem balanceOf_of_some {a : Account} (ha : s.accounts.get? id = some a) :
    s.balanceOf id = a.balance.toRat := by
  unfold balanceOf
  rw [ha]
  rfl

/-- The money on an account after one account was written. -/
theorem balanceOf_setAccount {k : AccountId} {a b : Account} (ha : s.accounts.get? k = some a)
    (hid : b.id = a.id) :
    (s.setAccount b).balanceOf id = if k = id then b.balance.toRat else s.balanceOf id := by
  unfold balanceOf
  rw [get?_setAccount ha hid]
  split
  · rfl
  · rfl

-- One case for each effect: an account is opened empty, money moves exactly, and no other call
-- writes a balance.
/-- What a call does to the money on an account. -/
theorem Effect.balanceOf_eq (h : Effect s now c t) (hnew : c.BringsNew)
    (hexact : s.SumsExact id c) : t.balanceOf id = s.balanceOf id + c.moves id := by
  have hset {k : AccountId} {a b : Account} (ha : s.accounts.get? k = some a)
      (hchange : Change now c a b) (hc : ∀ i delta, c ≠ .applyDelta i delta) :
      (s.setAccount b).balanceOf id = s.balanceOf id + c.moves id := by
    have hmoves : c.moves id = 0 := by
      cases c with
      | applyDelta i delta => exact absurd rfl (hc i delta)
      | _ => rfl
    have hsame : b.balance = a.balance := by
      rcases hchange.balance_cases with hsame | ⟨i, delta, heq, _⟩
      · exact hsame
      · exact absurd heq (hc i delta)
    rw [balanceOf_setAccount ha hchange.id_eq, hsame, hmoves, add_zero]
    split
    · next hk => exact (balanceOf_of_some (hk ▸ ha)).symm
    · rfl
  cases h with
  | looked hc =>
      cases c with
      | applyDelta _ _ => cases hc
      | _ => exact (add_zero _).symm
  | @opened a _ _ _ haccounts =>
      rcases hnew with ⟨_, _, _, _, _, _, _, rfl⟩
      refine Eq.trans ?_ (add_zero _).symm
      unfold balanceOf
      rw [Table.get?_insert? haccounts]
      split
      · next hid =>
          have hfree := Table.get?_eq_none_of_insert? haccounts
          rw [hid] at hfree
          rw [hfree, Option.elim_some, Option.elim_none]
          exact toRat_zero
      · rfl
  | amended ha hb => exact hset ha (.amended hb) (by rintro _ _ ⟨⟩)
  | acted ha hb => exact hset ha (.acted hb) (by rintro _ _ ⟨⟩)
  | @moved i delta a b ha hb =>
      have hchange : Change now (.applyDelta i delta) a b := .moved hb
      rcases (Account.applyDelta_eq_ok_iff _ _ _ _).mp hb with ⟨_, _, hsum, _, _, heq⟩
      rw [balanceOf_setAccount ha hchange.id_eq]
      change _ = s.balanceOf id + if i = id then delta.toRat else 0
      split
      · next hi =>
          subst hi
          rw [balanceOf_of_some ha, ← heq]
          exact (hexact rfl _ ha).1 _ hsum
      · exact (add_zero _).symm
  | held ha _ hb => exact hset ha (.held hb) (by rintro _ _ ⟨⟩)
  | released _ ha _ hb => exact hset ha (.released hb) (by rintro _ _ ⟨⟩)

/-- What a run of calls does to the money on an account. -/
theorem Changed.balanceOf_eq {calls : List (Instant × Call)} (h : Changed s calls t)
    (hnew : ∀ c ∈ calls, c.2.BringsNew) (hexact : s.ExactOn id calls) :
    t.balanceOf id = s.balanceOf id + (calls.map fun c => c.2.moves id).sum := by
  induction h with
  | nil s => exact (add_zero _).symm
  | @cons s t u now c reply rest hcall _ ih =>
      rcases hexact with ⟨hfirst, hrest⟩
      rw [after_of_perform hcall] at hrest
      have hsums := hfirst (by rw [hcall]; rfl)
      have hstep := (effect_of_perform hcall).balanceOf_eq (hnew _ List.mem_cons_self) hsums
      rw [ih (fun d hd => hnew d (List.mem_cons_of_mem _ hd)) hrest, hstep, List.map_cons,
        List.sum_cons, add_assoc]

end Store

open Store Deed

namespace Chronicle

variable {ι : Type} [DecidableEq ι] {settings : Settings} {requests : ι → Request}
  {x : Chronicle ι}

/-- The request was answered, and not with an error. -/
def hasSucceeded (x : Chronicle ι) (i : ι) : Bool := (x.answered i).any (·.isOk)

/-- The request has made its change and has not been answered yet. -/
def Returning (x : Chronicle ι) (i : ι) : Prop :=
  changes (x.deedsOf i) ≠ [] ∧ x.answered i = none

omit [DecidableEq ι] in
/-- The sum over the changes among some deeds, one deed at a time. -/
theorem sum_changes_cons (f : Call → ℚ) (d : Deed) (deeds : List Deed) :
    ((changes (d :: deeds)).map fun c => f c.2).sum
      = ((changes [d]).map fun c => f c.2).sum + ((changes deeds).map fun c => f c.2).sum := by
  rw [← List.singleton_append, changes_append, List.map_append, List.sum_append]

theorem deedsOf_cons (t : Traffic ι) (j : ι) (d : Deed) (rest : List (ι × Deed)) (i : ι) :
    (⟨t, (j, d) :: rest⟩ : Chronicle ι).deedsOf i
      = if j = i then d :: (⟨t, rest⟩ : Chronicle ι).deedsOf i
        else (⟨t, rest⟩ : Chronicle ι).deedsOf i := by
  unfold deedsOf
  by_cases hj : j = i
  · simp [hj]
  · simp [hj]

-- By induction on the journal: each entry counts for the one request that it belongs to.
/-- All changes together are the changes of each request together. -/
theorem sum_changes [Fintype ι] (f : Call → ℚ) (x : Chronicle ι) :
    ((changes x.deeds).map fun c => f c.2).sum
      = ∑ i, ((changes (x.deedsOf i)).map fun c => f c.2).sum := by
  rcases x with ⟨t, journal⟩
  induction journal with
  | nil => exact Finset.sum_const_zero.symm
  | cons entry rest ih =>
      rcases entry with ⟨j, d⟩
      have hown (i : ι) : ((changes ((⟨t, (j, d) :: rest⟩ : Chronicle ι).deedsOf i)).map
            fun c => f c.2).sum
          = (if j = i then ((changes [d]).map fun c => f c.2).sum else 0)
            + ((changes ((⟨t, rest⟩ : Chronicle ι).deedsOf i)).map fun c => f c.2).sum := by
        rw [deedsOf_cons]
        split
        · exact sum_changes_cons f d _
        · exact (zero_add _).symm
      rw [Finset.sum_congr rfl fun i _ => hown i, Finset.sum_add_distrib, Finset.sum_ite_eq,
        if_pos (Finset.mem_univ j), ← ih]
      exact sum_changes_cons f d _

/-- A request has made no change yet, or the one that it is after. -/
def ChangedOnce (settings : Settings) (requests : ι → Request) (x : Chronicle ι) : Prop :=
  ∀ i, changes (x.deedsOf i) = [] ∨
    ∃ time c, changes (x.deedsOf i) = [(time, c)] ∧ (requests i).FulfilledBy settings c

theorem changedOnce_run (w : World) (moments : ι → Nat → Moment) (schedule : List ι) :
    ((start settings w requests).run moments schedule).ChangedOnce settings requests := by
  refine (run_induction (P := fun x => x.Conducted settings requests ∧
    x.ChangedOnce settings requests) moments (fun x i h => ⟨h.1.step moments i, fun j => ?_⟩)
    ⟨conducted_start w, fun _ => Or.inl rfl⟩ schedule).2
  by_cases hj : j = i
  · subst hj
    rw [deedsOf_step_self, changes_append]
    rcases h.1.step_cases moments j with
      ⟨hquiet, _⟩ | ⟨time, c, reply, hdeeds, _, hfulfilled, hbefore, _⟩
    · rw [hquiet, List.append_nil]
      exact h.2 j
    · rw [hbefore, hdeeds, changes_changed time hfulfilled.isMutating.2]
      exact Or.inr ⟨time, c, rfl, hfulfilled⟩
  · rw [deedsOf_step_of_ne moments x hj]
    exact h.2 j

/-- The rows that requests have brought into the store are new ones. -/
theorem ChangedOnce.bringsNew (h : x.ChangedOnce settings requests) :
    ∀ c ∈ changes x.deeds, c.2.BringsNew := by
  intro c hc
  rcases List.mem_filterMap.mp hc with ⟨d, hd, hchange⟩
  rcases List.mem_map.mp hd with ⟨⟨i, _⟩, hentry, rfl⟩
  have hown : c ∈ changes (x.deedsOf i) :=
    List.mem_filterMap.mpr ⟨_, (mem_deedsOf_iff x i _).mpr hentry, hchange⟩
  rcases h i with hnone | ⟨time, c', hone, hfulfilled⟩
  · rw [hnone] at hown
    cases hown
  · rw [hone, List.mem_singleton] at hown
    rw [hown]
    exact hfulfilled.bringsNew

omit [DecidableEq ι] in
theorem hasSucceeded_of_answered {i : ι} {r : Except LedgerError Answer}
    (hr : x.answered i = some r) : x.hasSucceeded i = r.isOk := by
  unfold hasSucceeded
  rw [hr, Option.any_some]

/-- A request that was answered has ended as it may. -/
theorem Conducted.mayEnd (h : x.Conducted settings requests) {i : ι}
    {r : Except LedgerError Answer} (hr : x.answered i = some r) :
    (requests i).MayEnd settings (x.deedsOf i) r := by
  have hend := h i
  rw [Program.eq_done_of_result? hr] at hend
  exact hend

-- A request that was not answered has made no change, or it is on its way back and does not count.
/-- All changes together are those of the requests that succeeded, as long as nobody is on the way
    back who counts. -/
theorem Conducted.sum_changes_eq [Fintype ι] (h : x.Conducted settings requests)
    (honce : x.ChangedOnce settings requests) {f : Call → ℚ} {g : Request → ℚ}
    (hfg : ∀ r c, r.FulfilledBy settings c → f c = g r)
    (hlooks : ∀ r, r.isMutating = false → g r = 0)
    (hreturning : ∀ i, x.Returning i → g (requests i) = 0) :
    ((changes x.deeds).map fun c => f c.2).sum = ∑ i with x.hasSucceeded i, g (requests i) := by
  rw [sum_changes, Finset.sum_filter]
  refine Finset.sum_congr rfl fun i _ => ?_
  rcases hr : x.answered i with _ | e | answer
  · have hpending : x.hasSucceeded i = false := by
      unfold hasSucceeded
      rw [hr]
      rfl
    rw [if_neg (hpending ▸ Bool.false_ne_true)]
    rcases honce i with hnone | ⟨time, c, hone, hfulfilled⟩
    · rw [hnone]
      rfl
    · have hcounts := hreturning i ⟨by simp [hone], hr⟩
      rw [hone, List.map_singleton, List.sum_singleton, hfg _ c hfulfilled, hcounts]
  · have hfailed : x.hasSucceeded i = false := hasSucceeded_of_answered hr
    rw [((h.mayEnd hr).refused e rfl).1, if_neg (hfailed ▸ Bool.false_ne_true)]
    rfl
  · have hsucceeded : x.hasSucceeded i = true := hasSucceeded_of_answered hr
    rw [if_pos hsucceeded]
    rcases hmutating : (requests i).isMutating with _ | _
    · rw [((h.mayEnd hr).looked answer rfl hmutating).1, hlooks _ hmutating]
      rfl
    · rcases (h.mayEnd hr).changed answer rfl hmutating with ⟨⟨time, c, _, honly, hfulfilled, _⟩, _⟩
      rw [honly.changes_eq, List.map_singleton, List.sum_singleton, hfg _ c hfulfilled]

/-- Conservation of money. However requests are interleaved, and whichever calls the store refuses:
    as long as no sum on the account is rounded, and while no credit and no debit on it is on its
    way back, its balance is what it was, and what was put on it by the credits that succeeded, less
    what was taken off it by the debits that succeeded. -/
theorem balance_conserved [Fintype ι] (settings : Settings) (w : World) (requests : ι → Request)
    (moments : ι → Nat → Moment) (schedule : List ι) {x : Chronicle ι}
    (hx : x = (start settings w requests).run moments schedule) {id : AccountId} {a : Account}
    (ha : x.store.accounts.get? id = some a) (hexact : w.store.ExactOn id (changes x.deeds))
    (hreturning : ∀ i, x.Returning i → ∀ amount,
      requests i ≠ .credit id amount ∧ requests i ≠ .debit id amount) :
    a.balance.toRat = w.store.balanceOf id + (∑ i with x.hasSucceeded i, (requests i).credits id)
      - ∑ i with x.hasSucceeded i, (requests i).debits id := by
  subst hx
  have hchanged := (recorded_run moments settings w requests schedule).changed
  have honce : ((start settings w requests).run moments schedule).ChangedOnce settings requests :=
    changedOnce_run w moments schedule
  have hconducted : ((start settings w requests).run moments schedule).Conducted settings
      requests := conducted_run w moments schedule
  have hsum := hconducted.sum_changes_eq honce (f := Call.moves id)
      (g := fun r => r.credits id - r.debits id) (fun r c h => h.moves_eq id) ?_ ?_
  · rw [← balanceOf_of_some ha, hchanged.balanceOf_eq honce.bringsNew hexact, hsum,
      Finset.sum_sub_distrib, add_sub_assoc]
  · intro r hlooks
    cases r with
    | credit _ _ | debit _ _ => cases hlooks
    | _ => exact sub_zero 0
  · intro i hi
    have hother := hreturning i hi
    generalize requests i = r at hother ⊢
    cases r with
    | credit i' amount =>
        have hne : i' ≠ id := fun heq => (hother amount).1 (heq ▸ rfl)
        simp [Request.credits, Request.debits, hne]
    | debit i' amount =>
        have hne : i' ≠ id := fun heq => (hother amount).2 (heq ▸ rfl)
        simp [Request.credits, Request.debits, hne]
    | _ => exact sub_zero 0

/-- Five are put on an account and two are taken off it, half a unit is set aside, and one more is
    to be taken off. -/
def payments : Fin 4 → Request
  | 0 => .credit default (.ofUnits 5 0)
  | 1 => .debit default (.ofUnits 2 0)
  | 2 => .createHold Request.halfUnit
  | 3 => .debit default (.ofUnits 1 0)

/-- The store does not answer when the credit reads the balances back, and when the last debit is
    about to take its money off. -/
def paymentMoments (i : Fin 4) (step : Nat) : Moment :=
  ⟨.epoch, 0, 0, if (i, step) = (0, 2) ∨ (i, step) = (3, 1) then some .timeout else none⟩

/-- All of them are served together. -/
def paid : Chronicle (Fin 4) :=
  (start .default (Request.ledgerWith Request.hundred) payments).run paymentMoments
    [0, 1, 2, 3, 2, 0, 1, 3, 2, 2, 2, 0, 1, 1]

/-- The credit counts, though it was not read back, and the second debit does not. -/
theorem paid_conserved : ∃ a, paid.store.accounts.get? default = some a ∧
    a.balance.toRat = 100 + 5 - 2 ∧ paid.answered 0 = some (.ok (.moved none)) ∧
    paid.answered 3 = some (.error .timeout) := by
  have hanswered : ∀ i, paid.answered i ≠ none := by decide +kernel
  have hexact : (Request.ledgerWith Request.hundred).store.ExactOn default
      (changes paid.deeds) := by decide +kernel
  have hsums : (Request.ledgerWith Request.hundred).store.balanceOf default
      + (∑ i with paid.hasSucceeded i, (payments i).credits default)
      - (∑ i with paid.hasSucceeded i, (payments i).debits default) = 100 + 5 - 2 := by
    decide +kernel
  rcases ha : paid.store.accounts.get? default with _ | a
  · exact absurd ha (by decide +kernel)
  · have hmain := balance_conserved .default (Request.ledgerWith Request.hundred) payments
      paymentMoments _ (x := paid) rfl ha hexact fun i hi => absurd hi.2 (hanswered i)
    exact ⟨a, rfl, hmain.trans hsums, by decide +kernel, by decide +kernel⟩

end Chronicle

end BankLedger
