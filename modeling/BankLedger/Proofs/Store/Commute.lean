import BankLedger.Proofs.Store.Footprint
import BankLedger.Proofs.Store.Run

/-!
# Calls on Different Accounts

Calls that concern different accounts do not meet, although all accounts, all numbers and all holds
are kept together: neither looks at what the other one writes. So it does not matter which of the
two comes first, neither for what they answer nor for what is in the store afterwards.

This says more about whole runs. Calls come in from many sides and are carried out in some order,
but the order between calls on different accounts cannot be seen in the end. What is known of an
account, with its number and its holds, is what its own calls have made of it, as if there had been
no others.

For a release the account is that of the hold, and it does not say so itself. A whole run therefore
has to be told which account a number and a hold belong to. `Owners` do that, and `Owners.Fits` asks
no more than that two accounts do not fight for the same number or the same hold.

## Main definitions

* `Store.Apart`: Two calls that concern different accounts.
* `Store.Same`: Two stores have the same accounts, numbers and holds.
* `Owners`: Whose a number or a hold is.
* `Owners.Fits`: A call asks for nothing that belongs to another account.
* `Owners.calls`: The calls of a run that concern one account.

## Theorems

* `Apart.agree`: In a part that has what one of two calls looks at, the other one makes no
  difference.
* `Owners.exists_fits`: Calls that are apart have such owners.
* `Owners.agree_afterAll`: What is known of an account is what its own calls have made of it.
* `calls_commute`: Calls that are apart commute, and so do the runs of different accounts.
-/

namespace BankLedger

namespace Store

variable {s t u : Store} {now time : Instant} {c d : Call}

/-- Two calls that concern different accounts, and that name different numbers and holds. -/
structure Apart (s : Store) (c d : Call) : Prop where
  account : ∀ id ∈ s.concerns c, id ∉ s.concerns d
  number : ∀ n ∈ c.number?, n ∉ d.number?
  hold : ∀ k ∈ c.hold?, k ∉ d.hold?

instance (s : Store) (c d : Call) : Decidable (s.Apart c d) :=
  decidable_of_iff ((∀ id ∈ s.concerns c, id ∉ s.concerns d) ∧ (∀ n ∈ c.number?, n ∉ d.number?) ∧
    ∀ k ∈ c.hold?, k ∉ d.hold?)
    ⟨fun h => ⟨h.1, h.2.1, h.2.2⟩, fun h => ⟨h.account, h.number, h.hold⟩⟩

theorem Apart.symm (h : s.Apart c d) : s.Apart d c :=
  ⟨fun id hd hc => h.account id hc hd, fun n hd hc => h.number n hc hd,
    fun k hd hc => h.hold k hc hd⟩

/-- Two stores have the same accounts, numbers and holds. -/
def Same (s t : Store) : Prop :=
  (∀ id, s.accounts.get? id = t.accounts.get? id) ∧
  (∀ n, s.index.get? n = t.index.get? n) ∧ ∀ k, s.holds.get? k = t.holds.get? k

/-- What a call looks at. -/
def cells (s : Store) (c : Call) : Cells where
  account id := s.concerns c = some id
  number n := c.number? = some n
  hold k := c.hold? = some k

/-- All that a call does not look at. -/
def others (s : Store) (c : Call) : Cells where
  account id := s.concerns c ≠ some id
  number n := c.number? ≠ some n
  hold k := c.hold? ≠ some k

theorem has_cells (s : Store) (c : Call) : (s.cells c).Has s c :=
  ⟨fun _ h => h, fun _ h => h, fun _ h => h⟩

theorem lacks_others (s : Store) (c : Call) : (s.others c).Lacks s c :=
  ⟨fun _ h => h, fun _ h => h, fun _ h => h⟩

/-- What agrees where a call looks, and where it does not, is the same. -/
theorem Agree.same (h : Agree (s.cells c) t u) (h' : Agree (s.others c) t u) : t.Same u :=
  ⟨fun id => (em (s.concerns c = some id)).elim (h.account id) (h'.account id),
    fun n => (em (c.number? = some n)).elim (h.number n) (h'.number n),
    fun k => (em (c.hold? = some k)).elim (h.hold k) (h'.hold k)⟩

-- Only for a release this depends on the store, and there on the hold that it names.
/-- A call on another account does not change which account a call concerns. -/
theorem Apart.concerns_after (h : s.Apart c d) (now : Instant) :
    (s.after now c).concerns d = s.concerns d := by
  cases d with
  | releaseHold k time =>
      rcases after_cases s now c with hsame | ⟨_, heffect⟩
      · rw [hsame]
      · exact congrArg (Option.map Hold.account) (heffect.hold_of_ne fun hk => h.hold k hk rfl)
  | _ => rfl

theorem Apart.lacks_cells (h : s.Apart c d) : (s.cells c).Lacks s d :=
  ⟨h.account, h.number, h.hold⟩

theorem Apart.has_others (h : s.Apart c d) : (s.others c).Has s d :=
  ⟨h.symm.account, h.symm.number, h.symm.hold⟩

/-- In a part that has what one of two calls looks at, it does not matter whether the other one
    comes before it or after it. -/
theorem Apart.agree (h : s.Apart c d) {p : Cells} (hc : p.Has s c) (hd : p.Lacks s d)
    (now time : Instant) :
    Agree p ((s.after now c).after time d) ((s.after time d).after now c) := by
  have hafter : p.Lacks (s.after now c) d :=
    ⟨fun id hid => h.concerns_after now ▸ hd.account id hid, hd.number, hd.hold⟩
  exact (hafter.agree time).symm.trans ((hd.agree time).after hc now)

/-- A call on another account does not change what is answered. -/
theorem Apart.answer_eq (h : s.Apart c d) (hmutating : c.isMutating = true) (now time : Instant) :
    ((s.after time d).perform now c).map Prod.fst = (s.perform now c).map Prod.fst :=
  ((h.lacks_cells.agree time).answer_eq (s.has_cells c) hmutating now).symm

theorem Apart.same (h : s.Apart c d) (now time : Instant) :
    ((s.after now c).after time d).Same ((s.after time d).after now c) :=
  (h.agree (s.has_cells c) h.lacks_cells now time).same
    (h.symm.agree h.has_others (s.lacks_others c) time now).symm

end Store

open Store

/-- Whose a number or a hold is. -/
structure Owners where
  number : AccountNumber → AccountId
  hold : HoldId → AccountId

namespace Owners

variable {o : Owners} {s t : Store} {c d : Call} {id : AccountId}

/-- The account that a call concerns, if it may change the store. -/
def home (o : Owners) : Call → Option AccountId
  | .createAccount a => some a.id
  | .amend id _ _ => some id
  | .changeStatus id _ _ => some id
  | .applyDelta id _ => some id
  | .createHold h => some h.account
  | .releaseHold k _ => some (o.hold k)
  | _ => none

/-- A call asks for no number and no hold but those of the account that it concerns. -/
structure Fits (o : Owners) (s : Store) (c : Call) : Prop where
  number : ∀ n ∈ c.number?, ∀ id ∈ s.concerns c, o.number n = id
  hold : ∀ k ∈ c.hold?, ∀ id ∈ s.concerns c, o.hold k = id

instance (o : Owners) (s : Store) (c : Call) : Decidable (o.Fits s c) :=
  decidable_of_iff ((∀ n ∈ c.number?, ∀ id ∈ s.concerns c, o.number n = id) ∧
    ∀ k ∈ c.hold?, ∀ id ∈ s.concerns c, o.hold k = id) ⟨fun h => ⟨h.1, h.2⟩, fun h => ⟨h.1, h.2⟩⟩

/-- The calls of a run that concern one account, in their order. -/
def calls (o : Owners) (id : AccountId) (run : List (Instant × Call)) : List (Instant × Call) :=
  run.filter fun c => o.home c.2 = some id

/-- What belongs to one account. -/
def cells (o : Owners) (id : AccountId) : Cells where
  account := (id = ·)
  number n := o.number n = id
  hold k := o.hold k = id

/-- When any two calls of a run that concern different accounts are apart, there are owners that
    all its calls fit. -/
theorem exists_fits {run : List (Instant × Call)}
    (h : ∀ c ∈ run, ∀ d ∈ run, ∀ id ∈ s.concerns c.2, ∀ id' ∈ s.concerns d.2, id ≠ id' →
      s.Apart c.2 d.2) : ∃ o : Owners, ∀ c ∈ run, o.Fits s c.2 := by
  -- Whoever asks for it is the owner, and no two accounts ask for the same.
  refine ⟨⟨fun n => Classical.epsilon fun id => ∃ c ∈ run, c.2.number? = some n ∧
      s.concerns c.2 = some id, fun k => Classical.epsilon fun id => ∃ c ∈ run,
      c.2.hold? = some k ∧ s.concerns c.2 = some id⟩, fun c hc => ⟨fun n hn id hid => ?_,
    fun k hk id hid => ?_⟩⟩
  · have hasked : ∃ id, ∃ c ∈ run, c.2.number? = some n ∧ s.concerns c.2 = some id :=
      ⟨id, c, hc, hn, hid⟩
    rcases Classical.epsilon_spec hasked with ⟨d, hd, hn', hid'⟩
    exact by_contra fun hne => (h d hd c hc _ hid' _ hid hne).number n hn' hn
  · have hasked : ∃ id, ∃ c ∈ run, c.2.hold? = some k ∧ s.concerns c.2 = some id :=
      ⟨id, c, hc, hk, hid⟩
    rcases Classical.epsilon_spec hasked with ⟨d, hd, hk', hid'⟩
    exact by_contra fun hne => (h d hd c hc _ hid' _ hid hne).hold k hk' hk

/-- What fits goes on to fit, for no call that fits gives a hold to another account. -/
theorem Fits.after (hc : o.Fits s c) (hd : o.Fits s d) (now : Instant) :
    o.Fits (s.after now d) c := by
  cases c with
  | releaseHold k time =>
      refine ⟨nofun, ?_⟩
      rintro _ ⟨⟩ id hid
      rcases Option.map_eq_some_iff.mp hid with ⟨h, hh, rfl⟩
      have hfound (h' : Hold) (hh' : s.holds.get? k = some h') : o.hold k = h'.account :=
        hc.hold k rfl _ (congrArg (Option.map Hold.account) hh')
      rcases after_cases s now d with hsame | ⟨_, heffect⟩
      · exact hfound h (hsame ▸ hh)
      · rcases heffect.hold_cases hh with ⟨rfl, _⟩ | hold | ⟨h', _, hold, _, _, rfl⟩
        · exact hd.hold k (congrArg some (Table.key_of_get? hh)) _ rfl
        · exact hfound h hold
        · exact hfound h' hold
  | _ => exact ⟨hc.number, hc.hold⟩

-- Only a release of a hold that is not there concerns no account, and its home is the owner of the
-- hold that it names.
theorem Fits.home_of_concerns (h : o.Fits s c) (hid : s.concerns c = some id) :
    o.home c = some id := by
  cases c with
  | releaseHold k time => exact congrArg some (h.hold k rfl id hid)
  | createAccount | amend | changeStatus | applyDelta | createHold => exact hid
  | getAccount | getByNumber | accountsOf | getHold | activeHolds => cases hid

theorem Fits.home_of_number (h : o.Fits s c) {n : AccountNumber} (hn : c.number? = some n) :
    o.home c = some (o.number n) := by
  cases c with
  | createAccount a => exact congrArg some (h.number n hn a.id rfl).symm
  | _ => cases hn

theorem Fits.home_of_hold (h : o.Fits s c) {k : HoldId} (hk : c.hold? = some k) :
    o.home c = some (o.hold k) := by
  cases c with
  | createHold g => exact congrArg some (h.hold k hk g.account rfl).symm
  | releaseHold _ _ =>
      cases hk
      rfl
  | _ => cases hk

/-- A call that fits looks at what belongs to its home, and at nothing else. -/
theorem Fits.has (h : o.Fits s c) (hid : o.home c = some id) : (o.cells id).Has s c where
  account _ hc := Option.some.inj (hid.symm.trans (h.home_of_concerns hc))
  number _ hn := Option.some.inj ((h.home_of_number hn).symm.trans hid)
  hold _ hk := Option.some.inj ((h.home_of_hold hk).symm.trans hid)

theorem Fits.lacks (h : o.Fits s c) (hid : o.home c ≠ some id) : (o.cells id).Lacks s c where
  account _ heq hc := hid (heq ▸ h.home_of_concerns hc)
  number _ heq hn := hid (heq ▸ h.home_of_number hn)
  hold _ heq hk := hid (heq ▸ h.home_of_hold hk)

theorem Fits.afterAll {run : List (Instant × Call)} (hrun : ∀ d ∈ run, o.Fits s d.2)
    (h : o.Fits s c) : o.Fits (s.afterAll run) c := by
  induction run generalizing s with
  | nil => exact h
  | cons d rest ih =>
      have hd := hrun d List.mem_cons_self
      exact ih (fun e he => (hrun e (List.mem_cons_of_mem _ he)).after hd d.1) (h.after hd d.1)

-- By induction on the run. The two stores agree on what belongs to the account; a call of another
-- account is only carried out in the first one and does not touch it, and one of its own is carried
-- out in both and does the same.
/-- What is known of an account after a run is what its own calls have made of it. -/
theorem agree_afterAll {run : List (Instant × Call)} (hrun : ∀ d ∈ run, o.Fits s d.2)
    (h : Agree (o.cells id) s t) :
    Agree (o.cells id) (s.afterAll run) (t.afterAll (o.calls id run)) := by
  induction run generalizing s t with
  | nil => exact h
  | cons d rest ih =>
      rcases d with ⟨now, d⟩
      have hd : o.Fits s d := hrun (now, d) List.mem_cons_self
      have hrest : ∀ e ∈ rest, o.Fits (s.after now d) e.2 := fun e he =>
        (hrun e (List.mem_cons_of_mem _ he)).after hd now
      by_cases hid : o.home d = some id
      · have hcalls : o.calls id ((now, d) :: rest) = (now, d) :: o.calls id rest :=
          List.filter_cons_of_pos (decide_eq_true hid)
        rw [hcalls]
        exact ih hrest (h.after (hd.has hid) now)
      · have hcalls : o.calls id ((now, d) :: rest) = o.calls id rest :=
          List.filter_cons_of_neg (mt of_decide_eq_true hid)
        rw [hcalls]
        exact ih hrest (((hd.lacks hid).agree now).symm.trans h)

/-- What is known of an account is the same after all runs that have the same calls for it. -/
theorem agree_of_calls_eq {run run' : List (Instant × Call)} (hrun : ∀ d ∈ run, o.Fits s d.2)
    (hrun' : ∀ d ∈ run', o.Fits s d.2) (h : o.calls id run = o.calls id run') :
    Agree (o.cells id) (s.afterAll run) (s.afterAll run') :=
  (agree_afterAll hrun (.refl _ s)).trans (h ▸ (agree_afterAll hrun' (.refl _ s)).symm)

end Owners

/-- Calls on different accounts commute: whichever comes first, each of them gets the same answer,
    and the accounts, the numbers and the holds are the same afterwards. So in a run in which any
    two calls on different accounts are apart, every number and every hold has an owner; and then
    what is in the store in the end, and what the next call of an account is answered, depends on no
    more than the order of the calls within each account. -/
theorem calls_commute :
    (∀ (s : Store) now time c d, c.isMutating = true → d.isMutating = true → s.Apart c d →
      ((s.after time d).perform now c).map Prod.fst = (s.perform now c).map Prod.fst ∧
      ((s.after now c).perform time d).map Prod.fst = (s.perform time d).map Prod.fst ∧
      ((s.after now c).after time d).Same ((s.after time d).after now c)) ∧
    (∀ (s : Store) (run : List (Instant × Call)),
      (∀ c ∈ run, ∀ d ∈ run, ∀ id ∈ s.concerns c.2, ∀ id' ∈ s.concerns d.2, id ≠ id' →
        s.Apart c.2 d.2) → ∃ o : Owners, ∀ c ∈ run, o.Fits s c.2) ∧
    ∀ (o : Owners) (s : Store) run run', (∀ c ∈ run, o.Fits s c.2) → (∀ c ∈ run', o.Fits s c.2) →
      ((∀ id, o.calls id run = o.calls id run') → (s.afterAll run).Same (s.afterAll run')) ∧
      ∀ id now c, c.isMutating = true → o.Fits s c → o.home c = some id →
        o.calls id run = o.calls id run' →
        ((s.afterAll run).perform now c).map Prod.fst
          = ((s.afterAll run').perform now c).map Prod.fst := by
  refine ⟨fun s now time c d hc hd h => ⟨h.answer_eq hc now time, h.symm.answer_eq hd time now,
    h.same now time⟩, fun _ _ => Owners.exists_fits, fun o s run run' hrun hrun' =>
    ⟨fun hcalls => ?_, ?_⟩⟩
  · have hagree (id : AccountId) := Owners.agree_of_calls_eq hrun hrun' (hcalls id)
    exact ⟨fun id => (hagree id).account id rfl, fun n => (hagree _).number n rfl,
      fun k => (hagree _).hold k rfl⟩
  · intro id now c hmutating hc hid hcalls
    exact (Owners.agree_of_calls_eq hrun hrun' hcalls).answer_eq ((hc.afterAll hrun).has hid)
      hmutating now

/-- Forty of the second account. -/
def Hold.forty : Hold :=
  .start default Account.neighbour.id ⟨.ofUnits 40 0⟩ "rent" none none .epoch

/-- Two accounts are opened and used, the one after the other. -/
def oneByOne : List (Instant × Call) :=
  [(.epoch, .createAccount .untouched), (.epoch, .applyDelta default (.ofUnits 100 0)),
    (.epoch, .createAccount .neighbour), (.epoch, .applyDelta Account.neighbour.id (.ofUnits 50 0)),
    (.epoch, .createHold .forty), (.epoch, .releaseHold default .epoch)]

/-- The same in turns. -/
def inTurns : List (Instant × Call) :=
  [(.epoch, .createAccount .neighbour), (.epoch, .createAccount .untouched),
    (.epoch, .applyDelta Account.neighbour.id (.ofUnits 50 0)), (.epoch, .createHold .forty),
    (.epoch, .applyDelta default (.ofUnits 100 0)), (.epoch, .releaseHold default .epoch)]

/-- The first number is that of the first account, and the hold that of the second. -/
def neighbours : Owners where
  number n := if n = Account.untouched.number then Account.untouched.id else Account.neighbour.id
  hold _ := Account.neighbour.id

/-- In turns or not, the store is the same in the end, with a hundred and fifty on the accounts. -/
theorem inTurns_same : (Store.empty.afterAll oneByOne).Same (Store.empty.afterAll inTurns) ∧
    oneByOne ≠ inTurns ∧
    (Store.empty.afterAll inTurns).accounts.rows.map (·.balance.toRat) = [50, 100] ∧
    ((Store.empty.after .epoch (.createAccount .untouched)).after .epoch
        (.createAccount .neighbour)).Same
      ((Store.empty.after .epoch (.createAccount .neighbour)).after .epoch
        (.createAccount .untouched)) := by
  have hhome : ∀ c ∈ oneByOne ++ inTurns, neighbours.home c.2 = some Account.untouched.id ∨
      neighbours.home c.2 = some Account.neighbour.id := by decide +kernel
  have hcalls (id : AccountId) : neighbours.calls id oneByOne = neighbours.calls id inTurns := by
    by_cases hfirst : id = Account.untouched.id
    · rw [hfirst]
      decide +kernel
    by_cases hsecond : id = Account.neighbour.id
    · rw [hsecond]
      decide +kernel
    -- No call concerns a third account.
    have hnone (c : Instant × Call) (hc : c ∈ oneByOne ++ inTurns) :
        ¬ decide (neighbours.home c.2 = some id) = true := by
      intro hid
      rw [decide_eq_true_iff] at hid
      rcases hhome c hc with h | h
      · exact hfirst (Option.some.inj (hid.symm.trans h))
      · exact hsecond (Option.some.inj (hid.symm.trans h))
    exact (List.filter_eq_nil_iff.mpr fun c hc => hnone c (List.mem_append_left _ hc)).trans
      (List.filter_eq_nil_iff.mpr fun c hc => hnone c (List.mem_append_right _ hc)).symm
  exact ⟨(calls_commute.2.2 neighbours .empty oneByOne inTurns (by decide +kernel)
    (by decide +kernel)).1 hcalls, by decide +kernel, by decide +kernel,
    (calls_commute.1 .empty .epoch .epoch _ _ rfl rfl (by decide +kernel)).2.2⟩

end BankLedger
