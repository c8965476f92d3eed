import BankLedger.Proofs.Service.Lifecycle

/-!
# Money on Closed Accounts

Closing looks at the balance, and money moves on active accounts only. Together this would keep all
money off closed accounts, if a credit looked at the status in the same step in which it moves the
money. It does not: it looks first, and the account may be closed before the money arrives. So money
can be stranded, and this is the one way in which it happens. A debit that comes late does no harm,
because there is nothing left that it could take.

The order of three deeds has to be followed here, so the invariant speaks of the journal as well as
of the store: whoever saw the account active did so before the account was closed.

## Main definitions

* `Store.NoneStranded`: No closed account has money on it.
* `Chronicle.LateCredit`: A credit saw an account active that was closed before the money arrived.

## Theorems

* `settled_run`: What is known of closed accounts after every schedule.
* `closed_balance`: No money on a closed account, unless there was a late credit.
* `not_noneStranded_creditedLate`: A late credit.
-/

namespace BankLedger

open Store

/-- No closed account has money on it. -/
def Store.NoneStranded (s : Store) : Prop :=
  ∀ id a, s.accounts.get? id = some a → a.status = .closed → a.balance.toRat = 0

namespace Store

variable {now : Instant} {c : Call} {a b : Account}

/-- An account that is closed by a call has no money on it. -/
theorem Life.closes (h : Life c a b) (ha : a.status ≠ .closed) (hb : b.status = .closed) :
    (∃ id time, c = .changeStatus id .close time) ∧ b.balance.toRat = 0 := by
  cases h with
  | stayed hstatus _ _ => exact absurd (hstatus ▸ hb) ha
  | frozen _ hfrozen _ => rw [hb] at hfrozen; cases hfrozen
  | unfrozen _ hactive _ => rw [hb] at hactive; cases hactive
  | @closed id time _ _ _ hbalance _ _ hsame => exact ⟨⟨id, time, rfl⟩, hsame ▸ hbalance⟩
  | set _ hstatus hset _ => exact absurd (hset.symm.trans hb) hstatus

end Store

namespace Deed

/-- The account was looked at and found active. -/
inductive FoundActive (id : AccountId) : Deed → Prop where
  | mk (time : Instant) {a : Account} (ha : a.status = .active) :
      FoundActive id (.asked time (.getAccount id) (.ok a))

/-- The account was closed. -/
inductive ClosedIt (id : AccountId) : Deed → Prop where
  | mk (time at' : Instant) (reply : Account) :
      ClosedIt id (.asked time (.changeStatus id .close at') (.ok reply))

/-- Money was moved to the account or from it. -/
inductive MovedMoney (id : AccountId) : Deed → Prop where
  | mk (time : Instant) (delta : Decimal) (reply : Unit) :
      MovedMoney id (.asked time (.applyDelta id delta) (.ok reply))

end Deed

open Deed

namespace Chronicle

variable {ι : Type} [DecidableEq ι] {settings : Settings} {requests : ι → Request}
  {x : Chronicle ι} {id : AccountId}

/-- A credit found the account active, then the account was closed, and then the money arrived. -/
def LateCredit (requests : ι → Request) (x : Chronicle ι) (id : AccountId) : Prop :=
  ∃ i k amount look closing move, requests i = .credit id amount ∧ FoundActive id look ∧
    ClosedIt id closing ∧ MovedMoney id move ∧
    [(i, look), (k, closing), (i, move)].Sublist x.journal

/-- What is known of an account that is closed. -/
structure Settled (requests : ι → Request) (x : Chronicle ι) (id : AccountId) (a : Account) :
    Prop where
  balance : a.balance.toRat = 0 ∨ x.LateCredit requests id
  /-- Whoever saw the account active did so before it was closed. -/
  looks : ∀ i look, (i, look) ∈ x.journal → FoundActive id look →
    ∃ k closing, ClosedIt id closing ∧ [(i, look), (k, closing)].Sublist x.journal

variable (moments : ι → Nat → Moment) (i : ι)

theorem journal_step (x : Chronicle ι) :
    (x.step moments i).journal = x.journal ++ (x.deedsAt moments i).map (i, ·) := rfl

theorem sublist_step {l : List (ι × Deed)} (h : l.Sublist x.journal) :
    l.Sublist (x.step moments i).journal := h.trans (List.sublist_append_left _ _)

theorem LateCredit.step (h : x.LateCredit requests id) :
    (x.step moments i).LateCredit requests id := by
  rcases h with ⟨j, k, amount, look, closing, move, hrequest, hlook, hclosing, hmove, hsub⟩
  exact ⟨j, k, amount, look, closing, move, hrequest, hlook, hclosing, hmove,
    sublist_step moments i hsub⟩

-- The account is closed when the turn begins, so nobody can find it active on this turn.
theorem Settled.looks_step {a : Account} (ha : x.store.accounts.get? id = some a)
    (hclosed : a.status = .closed) (h : x.Settled requests id a) {j : ι} {look : Deed}
    (hmem : (j, look) ∈ (x.step moments i).journal) (hlook : FoundActive id look) :
    ∃ k closing, ClosedIt id closing ∧
      [(j, look), (k, closing)].Sublist (x.step moments i).journal := by
  rw [journal_step, List.mem_append] at hmem
  rcases hmem with hearlier | hnow
  · rcases h.looks j look hearlier hlook with ⟨k, closing, hclosing, hsub⟩
    exact ⟨k, closing, hclosing, sublist_step moments i hsub⟩
  · rcases List.mem_map.mp hnow with ⟨d, hd, heq⟩
    cases heq
    cases hlook with
    | mk time hactive =>
        have hrow : x.store.accounts.get? id = _ := Program.get?_of_mem_deeds hd
        rw [ha] at hrow
        cases hrow
        rw [hclosed] at hactive
        cases hactive

theorem Settled.step {a b : Account} (ha : x.store.accounts.get? id = some a)
    (hclosed : a.status = .closed) (h : x.Settled requests id a)
    (hbalance : a.balance.toRat = 0 → b.balance.toRat = 0 ∨
      (x.step moments i).LateCredit requests id) :
    (x.step moments i).Settled requests id b where
  balance := h.balance.elim hbalance fun hlate => Or.inr (hlate.step moments i)
  looks _ _ hmem hlook := h.looks_step moments i ha hclosed hmem hlook

/-- When money moves on a closed account with nothing on it, it is a late credit that moves it. -/
theorem Settled.lateCredit_step {a b : Account} {delta : Decimal} {time time' now : Instant}
    {reply : Unit} {seen : Account} (h : x.Settled requests id a)
    (hdeeds : x.deedsAt moments i = [.asked time (.applyDelta id delta) (.ok reply)])
    (hfulfilled : (requests i).FulfilledBy settings (.applyDelta id delta))
    (hmem : .asked time' (.getAccount id) (.ok seen) ∈ x.deedsOf i) (hseen : seen.status = .active)
    (hmoved : a.applyDelta delta now = .ok b) (hzero : a.balance.toRat = 0) :
    (x.step moments i).LateCredit requests id := by
  rw [mem_deedsOf_iff] at hmem
  rcases h.looks i _ hmem (.mk time' hseen) with ⟨k, closing, hclosing, hsub⟩
  have hmove : MovedMoney id (.asked time (.applyDelta id delta) (.ok reply)) := .mk _ _ _
  generalize hr : requests i = r at hfulfilled
  cases hfulfilled with
  | credited _ =>
      refine ⟨i, k, _, _, closing, _, hr, .mk time' hseen, hclosing, hmove, ?_⟩
      rw [journal_step, hdeeds]
      exact hsub.append (.refl _)
  | debited hamount =>
      -- There is nothing to take, so the balance would fall below zero.
      rcases (Amount.ofDecimal_eq_ok_iff _ _).mp hamount with ⟨hpositive, hvalue⟩
      rcases (Account.applyDelta_eq_ok_iff _ _ _ _).mp hmoved with ⟨balance, _, hsum, hsign, _, _⟩
      have hnonneg : 0 ≤ balance.toRat := (Decimal.not_isNegative_iff balance).mp hsign
      rw [Decimal.add?_nonneg_iff hsum, hzero, Decimal.toRat_neg, hvalue] at hnonneg
      exact absurd hnonneg (by linarith)

-- Four cases: the turn leaves the store as it is, or it leaves this row as it is; or it moves money
-- on a row that was closed before; or it closes the row.
theorem Conducted.settled_step (h : x.Conducted settings requests)
    (hx : ∀ id a, x.store.accounts.get? id = some a → a.status = .closed →
      x.Settled requests id a) {b : Account}
    (hb : (x.step moments i).store.accounts.get? id = some b) (hclosed : b.status = .closed) :
    (x.step moments i).Settled requests id b := by
  rcases h.step_cases moments i with
    ⟨_, hsame⟩ | ⟨time, c, reply, hdeeds, heffect, hfulfilled, _, hactive⟩
  · rw [hsame] at hb
    exact (hx id b hb hclosed).step moments i hb hclosed Or.inl
  · rcases ha : x.store.accounts.get? id with _ | a
    · rw [heffect.active_of_new hfulfilled.bringsNew ha hb] at hclosed
      cases hclosed
    · rcases heffect.account_step ha with ⟨b', hb', hcase⟩
      rw [hb] at hb'
      cases hb'
      rcases hcase with rfl | ⟨hchange, habout⟩
      · exact (hx id b ha hclosed).step moments i ha hclosed Or.inl
      · by_cases hbefore : a.status = .closed
        · have hsettled := hx id a ha hbefore
          refine hsettled.step moments i ha hbefore fun hzero => ?_
          rcases hchange.balance_cases with heq | ⟨k, delta, rfl, hmoved⟩
          · exact Or.inl (heq ▸ hzero)
          · cases habout
            rcases hactive id rfl with ⟨_, _, hmem, hseen⟩
            exact Or.inr (hsettled.lateCredit_step moments i hdeeds hfulfilled hmem hseen hmoved
              hzero)
        · rcases hchange.life.closes hbefore hclosed with ⟨⟨k, at', rfl⟩, hzero⟩
          cases habout
          refine ⟨Or.inl hzero, fun j look hmem hlook => ?_⟩
          rw [journal_step, hdeeds, List.mem_append] at hmem
          rcases hmem with hearlier | hnow
          · refine ⟨i, _, .mk time at' reply, ?_⟩
            rw [journal_step, hdeeds]
            exact (List.singleton_sublist.mpr hearlier).append (.refl _)
          · cases List.mem_singleton.mp hnow
            cases hlook

/-- What is known of closed accounts after every schedule. -/
theorem settled_run (settings : Settings) {w : World} (hw : w.store.NoneStranded)
    (requests : ι → Request) (schedule : List ι) {id : AccountId} {a : Account}
    (ha : ((start settings w requests).run moments schedule).store.accounts.get? id = some a)
    (hclosed : a.status = .closed) :
    ((start settings w requests).run moments schedule).Settled requests id a := by
  refine (run_induction (P := fun x => x.Conducted settings requests ∧ ∀ id a,
    x.store.accounts.get? id = some a → a.status = .closed → x.Settled requests id a) moments
    ?_ ⟨conducted_start w, ?_⟩ schedule).2 id a ha hclosed
  · exact fun x i h => ⟨h.1.step moments i, fun id b => h.1.settled_step moments i h.2⟩
  · intro id a ha hclosed
    exact ⟨Or.inl (hw id a ha hclosed), fun _ _ hmem => by cases hmem⟩

/-- No money is on a closed account, on no schedule, unless a credit found the account active before
    it was closed and moved its money afterwards. -/
theorem closed_balance (settings : Settings) (w : World) (hw : w.store.NoneStranded)
    (requests : ι → Request) (schedule : List ι) {x : Chronicle ι}
    (hx : x = (start settings w requests).run moments schedule) {id : AccountId} {a : Account}
    (ha : x.store.accounts.get? id = some a) (hclosed : a.status = .closed) :
    a.balance.toRat = 0 ∨ x.LateCredit requests id := by
  subst hx
  exact (settled_run moments settings hw requests schedule ha hclosed).balance

/-- A ledger with one new account. -/
def newAccount : World := { World.start 8 .counted .epoch with
  store := Store.empty.after .epoch (.createAccount .untouched) }

/-- A new account is closed, which is marked with `true`, and a hundredth is put on it. -/
def closingOrCredit (closing : Bool) : Request :=
  if closing then .changeStatus .close default else .credit default .hundredth

/-- The credit looks at the account, the other request closes it, and then the money moves. -/
def creditedLate : Chronicle Bool :=
  (start .default newAccount closingOrCredit).run (fun _ _ => ⟨.epoch, 0, 0, none⟩)
    [false, true, true, false]

theorem noneStranded_newAccount : newAccount.store.NoneStranded := by
  have hrows : ∀ a ∈ newAccount.store.accounts.rows,
      a.status = .closed → a.balance.toRat = 0 := by decide +kernel
  exact fun id a ha => hrows a (Table.mem_of_get? ha)

theorem creditedLate_row : ∃ a, creditedLate.store.accounts.get? default = some a ∧
    a.status = .closed ∧ a.balance.toRat ≠ 0 := by
  have hrow : ∀ a ∈ creditedLate.store.accounts.get? default,
      a.status = .closed ∧ a.balance.toRat ≠ 0 := by decide +kernel
  rcases ha : creditedLate.store.accounts.get? default with _ | a
  · exact absurd ha (by decide +kernel)
  · exact ⟨a, rfl, hrow a ha⟩

/-- Money can be stranded. -/
theorem not_noneStranded_creditedLate :
    newAccount.store.NoneStranded ∧ ¬ creditedLate.store.NoneStranded := by
  rcases creditedLate_row with ⟨a, ha, hclosed, hbalance⟩
  exact ⟨noneStranded_newAccount, fun hnone => hbalance (hnone default a ha hclosed)⟩

/-- And then the journal shows the late credit. -/
theorem creditedLate_lateCredit : ∃ a, creditedLate.store.accounts.get? default = some a ∧
    a.status = .closed ∧ creditedLate.LateCredit closingOrCredit default := by
  rcases creditedLate_row with ⟨a, ha, hclosed, hbalance⟩
  rcases closed_balance _ .default newAccount noneStranded_newAccount closingOrCredit
    [false, true, true, false] rfl ha hclosed with hzero | hlate
  · exact absurd hzero hbalance
  · exact ⟨a, ha, hclosed, hlate⟩

end Chronicle

end BankLedger
