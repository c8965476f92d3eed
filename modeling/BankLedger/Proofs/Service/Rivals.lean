import BankLedger.Proofs.Service.Conservation
import BankLedger.Proofs.Service.Plan
import Mathlib.Algebra.Order.BigOperators.Group.Finset

/-!
# Rivals for the Same Money

Requests to set money of one account aside are served together, and there may not be enough for all
of them. Who gets the money depends on the order in which they reach the store, but whoever wins,
the books are in order: what is available is what was, less what was granted; it does not fall below
zero; and whoever was refused asked for more than was left, even at the end.

The last of these is a matter of monotony. A refusal is decided on the row as it is on that turn,
not on the look that the request took before, and from then on the row can only lose.

## Main definitions

* `Request.appliesTo`: A request to set money of an account aside.
* `HoldRequest.InOrder`: Nothing is wrong with the request itself.
* `Chronicle.Undisturbed`: A turn on which nothing else happens to the account.
* `Chronicle.setAside`: The money that has been set aside so far.
* `Chronicle.Books`: What is known of the account at any time.
* `Chronicle.Applying`: How far a request has come.

## Theorems

* `program_createHold`: What a request does that is in order.
* `Books.step`: The books stay in order, and what is available does not grow.
* `Applying.step`: A request goes on.
* `rivals`: What comes of rivals for the same money.
-/

namespace BankLedger

/-- What a call sets aside on an account. -/
def Call.setsAside (id : AccountId) : Call → ℚ
  | .createHold h => if h.account = id then h.amount.value.toRat else 0
  | _ => 0

/-- Nothing is wrong with the request itself, when it is made at this time. -/
structure HoldRequest.InOrder (r : HoldRequest) (now : Instant) : Prop where
  positive : 0 < r.amount.toRat
  reason : Ledger.checkReason r.reason = .ok ()
  expiry : Ledger.checkExpiry now r.expiresAt = .ok ()

/-- Money that is set aside exactly was there, and is taken off what is available. -/
theorem Account.reserve_exact {a b : Account} {amount : Amount} {now : Instant}
    (hexact : a.available.AddsExactly (-amount.value)) (h : a.reserve amount now = .ok b) :
    amount.value.toRat ≤ a.available.toRat ∧
      b.available.toRat = a.available.toRat - amount.value.toRat ∧ b.status = a.status := by
  rcases (reserve_eq_ok_iff _ _ _ _).mp h with ⟨hguard, available, hsub, rfl⟩
  refine ⟨?_, ?_, rfl⟩
  · rw [← not_lt, ← Decimal.lt_iff, hguard]
    exact Bool.false_ne_true
  · have hsum := hexact available hsub
    unfold Decimal.Exact at hsum
    rw [hsum, Decimal.toRat_neg]
    ring

namespace Request

open Program

/-- A request to set money of an account aside. -/
def appliesTo (id : AccountId) : Request → Bool
  | .createHold r => r.account = id
  | _ => false

theorem exists_of_appliesTo {id : AccountId} {r : Request} (h : r.appliesTo id = true) :
    ∃ request : HoldRequest, r = .createHold request ∧ request.account = id := by
  cases r with
  | createHold request => exact ⟨request, rfl, of_decide_eq_true h⟩
  | _ => cases h

/-- What a request is to set aside on an account. -/
def setsAside (id : AccountId) : Request → ℚ
  | .createHold r => if r.account = id then r.amount.toRat else 0
  | _ => 0

theorem setsAside_of_not_appliesTo {id : AccountId} {r : Request}
    (h : r.appliesTo id = false) : r.setsAside id = 0 := by
  cases r with
  | createHold r => exact if_neg (of_decide_eq_false h)
  | _ => rfl

/-- The change that a request is after sets aside what the request is to set aside. -/
theorem FulfilledBy.setsAside_eq {settings : Settings} {r : Request} {c : Call}
    (h : r.FulfilledBy settings c) (id : AccountId) : c.setsAside id = r.setsAside id := by
  cases h with
  | held hamount _ _ =>
      rw [setsAside, ← ((Amount.ofDecimal_eq_ok_iff _ _).mp hamount).2]
      rfl
  | opened | acted | closed | amended | credited | debited | released => rfl

/-- What is left of a request for a hold once the store has answered. -/
def stored (h : Hold) : Except LedgerError (Call.createHold h).Reply → Program Answer
  | .ok _ => .announce (.holdCreated h) (.done (.ok (.hold h)))
  | .error e => .done (.error e)

/-- What is left of it once the account was looked at. -/
def lookedAt (r : HoldRequest) (now : Instant) :
    Except LedgerError (Call.getAccount r.account).Reply → Program Answer
  | .error e => .done (.error e)
  | .ok a => match a.ensureActive with
    | .error e => .done (.error e)
    | .ok _ => holdActive r ⟨r.amount⟩ now

/-- A request for a hold that is in order reads the clock, looks at the account, and sets the money
    aside under a new identifier. -/
theorem program_createHold (settings : Settings) {r : HoldRequest} {now : Instant}
    (h : r.InOrder now) : ∃ next, (Request.createHold r).program settings = .now next ∧
      next now = .call (.getAccount r.account) (lookedAt r now) := by
  have hamount : Amount.ofDecimal r.amount = .ok ⟨r.amount⟩ :=
    (Amount.ofDecimal_eq_ok_iff _ _).mpr ⟨h.positive, rfl⟩
  have hprogram : (Request.createHold r).program settings
      = .now fun t => ofExcept (Ledger.checkExpiry t r.expiresAt) >>= fun _ =>
          .call (.getAccount r.account) (lookedAt r t) := by
    change (Ledger.createHold r >>= fun h => (pure (Answer.hold h) : Program Answer)) = _
    unfold Ledger.createHold
    rw [hamount, h.reason]
    refine congrArg Program.now (funext fun t => ?_)
    change (ofExcept (Ledger.checkExpiry t r.expiresAt) >>= _) >>= _
      = ofExcept (Ledger.checkExpiry t r.expiresAt) >>= _
    rcases Ledger.checkExpiry t r.expiresAt with e | _
    · rfl
    · refine congrArg (Program.call (.getAccount r.account)) (funext fun answer => ?_)
      rcases answer with e | a
      · rfl
      · change (ofExcept (Account.ensureActive a) >>= _) >>= _
          = match Account.ensureActive a with | .error e => _ | .ok _ => _
        rcases Account.ensureActive a with e | _
        · rfl
        · refine congrArg Program.fresh (funext fun u => ?_)
          refine congrArg (Program.call (.createHold _)) (funext fun answer => ?_)
          rcases answer with e | _ <;> rfl
  refine ⟨_, hprogram, ?_⟩
  rw [h.expiry]
  rfl

end Request

namespace Store

/-- The identifier under which a call stores a hold is free. -/
def HasRoomFor (s : Store) : Call → Prop
  | .createHold h => s.holds.get? h.id = none
  | _ => True

instance (s : Store) : (c : Call) → Decidable (s.HasRoomFor c)
  | .createHold h => inferInstanceAs (Decidable (s.holds.get? h.id = none))
  | .createAccount _ | .getAccount _ | .getByNumber _ | .accountsOf _ | .amend .. | .changeStatus ..
  | .applyDelta .. | .releaseHold .. | .getHold _ | .activeHolds _ => .isTrue trivial

/-- What the call for a hold does to the row of its account. -/
theorem Effect.reserve_of_createHold {s t : Store} {now : Instant} {h : Hold} {a : Account}
    (heffect : Effect s now (.createHold h) t) (ha : s.accounts.get? h.account = some a) :
    ∃ b, t.accounts.get? h.account = some b ∧ a.reserve h.amount now = .ok b := by
  cases heffect with
  | looked hc => cases hc
  | @held _ a' b _ ha' _ hb =>
      cases ha.symm.trans ha'
      refine ⟨b, ?_, hb⟩
      change (s.setAccount b).accounts.get? h.account = some b
      have hchange : Change now (.createHold h) a b := .held hb
      rw [get?_setAccount ha hchange.id_eq, if_pos rfl]

end Store

open Store Deed Request

namespace Chronicle

variable {ι : Type} [DecidableEq ι] {settings : Settings} {requests : ι → Request}
  {x : Chronicle ι} {id : AccountId} {A : ℚ} {b : Account}

/-- A turn on which nothing else happens to an account. A rival is answered by the store, its hold
    has an identifier that is free, and nothing is rounded away when the money is set aside;
    everybody else leaves the account as it is. -/
def Undisturbed (moments : ι → Nat → Moment) (requests : ι → Request) (id : AccountId)
    (x : Chronicle ι) (i : ι) : Prop :=
  ((requests i).appliesTo id = true →
    (moments i (x.traffic.flights i).steps).refusal = none ∧
    (∀ c ∈ (x.rest i).asks, x.store.HasRoomFor c) ∧
    ∀ c ∈ changes (x.deedsAt moments i), x.store.SumsExact id c.2) ∧
  ((requests i).appliesTo id = false →
    (x.step moments i).store.accounts.get? id = x.store.accounts.get? id)

/-- The money that has been set aside on an account so far. -/
def setAside (x : Chronicle ι) (id : AccountId) : ℚ :=
  ((changes x.deeds).map fun c => c.2.setsAside id).sum

/-- What is known of the account at any time, when `A` was available at the beginning: it is
    active, and what was set aside has been taken off and was there. -/
structure Books (A : ℚ) (id : AccountId) (x : Chronicle ι) (b : Account) : Prop where
  row : x.store.accounts.get? id = some b
  active : b.status = .active
  available : b.available.toRat = A - x.setAside id
  sign : 0 ≤ b.available.toRat ∨ x.setAside id = 0

variable {moments : ι → Nat → Moment} {i : ι}

theorem setAside_step (x : Chronicle ι) (i : ι) : (x.step moments i).setAside id
    = x.setAside id + ((changes (x.deedsAt moments i)).map fun c => c.2.setsAside id).sum := by
  unfold setAside
  rw [deeds_step, changes_append, List.map_append, List.sum_append]

omit [DecidableEq ι] in
theorem Books.of_same {y : Chronicle ι} (h : x.Books A id b)
    (hrow : y.store.accounts.get? id = x.store.accounts.get? id)
    (hset : y.setAside id = x.setAside id) : y.Books A id b where
  row := hrow.trans h.row
  active := h.active
  available := hset ▸ h.available
  sign := hset ▸ h.sign

omit [DecidableEq ι] in
/-- The books after one more hold, whose amount is taken off exactly. -/
theorem Books.createHold {y : Chronicle ι} {h : Hold} {time : Instant}
    (hbooks : x.Books A h.account b) (heffect : x.store.Effect time (.createHold h) y.store)
    (hset : y.setAside h.account = x.setAside h.account + h.amount.value.toRat)
    (hexact : b.available.AddsExactly (-h.amount.value)) (hpositive : 0 < h.amount.value.toRat) :
    ∃ b', y.Books A h.account b' ∧ b'.available.toRat ≤ b.available.toRat := by
  rcases heffect.reserve_of_createHold hbooks.row with ⟨b', hb', hreserve⟩
  rcases Account.reserve_exact hexact hreserve with ⟨hle, havailable, hstatus⟩
  refine ⟨b', ⟨hb', hstatus.trans hbooks.active, ?_, Or.inl ?_⟩, ?_⟩
  · rw [hset, havailable, hbooks.available]
    ring
  · linarith
  · linarith

-- Only a rival sets money aside, and then the amount is taken off exactly, after it was found to be
-- there.
/-- The books stay in order, and what is available does not grow. -/
theorem Books.step (h : x.Books A id b) (hconducted : x.Conducted settings requests)
    (hturn : x.Undisturbed moments requests id i) :
    ∃ b', (x.step moments i).Books A id b' ∧ b'.available.toRat ≤ b.available.toRat := by
  rcases hconducted.step_cases moments i with
    ⟨hquiet, hsame⟩ | ⟨time, c, reply, hdeeds, heffect, hfulfilled, _, _⟩
  · refine ⟨b, h.of_same (by rw [hsame]) ?_, le_refl _⟩
    rw [setAside_step, hquiet, List.map_nil, List.sum_nil, add_zero]
  · have hchanges : changes (x.deedsAt moments i) = [(time, c)] := by
      rw [hdeeds, changes_changed time hfulfilled.isMutating.2]
    have hset : (x.step moments i).setAside id = x.setAside id + c.setsAside id := by
      rw [setAside_step, hchanges, List.map_singleton, List.sum_singleton]
    rcases happlies : (requests i).appliesTo id with _ | _
    · have hnone : c.setsAside id = 0 := by
        rw [hfulfilled.setsAside_eq, setsAside_of_not_appliesTo happlies]
      exact ⟨b, h.of_same (hturn.2 happlies) (by rw [hset, hnone, add_zero]), le_refl _⟩
    · rcases exists_of_appliesTo happlies with ⟨r, hr, hid⟩
      have hexact := (hturn.1 happlies).2.2 (time, c)
        (by rw [hchanges]; exact List.mem_singleton_self _)
      rw [hr] at hfulfilled
      cases hfulfilled with
      | @held _ k amount now hamount _ _ =>
          subst hid
          have hpositive : 0 < amount.value.toRat := by
            rcases (Amount.ofDecimal_eq_ok_iff _ _).mp hamount with ⟨hpositive, hvalue⟩
            rwa [hvalue]
          have hcall : Call.setsAside r.account (.createHold (.start k r.account amount r.reason
              r.reference r.expiresAt now)) = amount.value.toRat := if_pos rfl
          rw [hcall] at hset
          exact Books.createHold (h := .start k r.account amount r.reason r.reference r.expiresAt
            now) h heffect hset (hexact rfl b h.row) hpositive

/-- How far a rival has come, when the account is as `b` says. -/
inductive Applying (moments : ι → Nat → Moment) (x : Chronicle ι) (i : ι) (r : HoldRequest)
    (b : Account) : Prop where
  | begins {next : Instant → Program Answer} (hsteps : (x.traffic.flights i).steps = 0)
      (hrest : x.rest i = .now next) (hnext : next (moments i 0).clock
        = .call (.getAccount r.account) (lookedAt r (moments i 0).clock))
  | looks (hsteps : (x.traffic.flights i).steps = 1)
      (hrest : x.rest i = .call (.getAccount r.account) (lookedAt r (moments i 0).clock))
  | found (hsteps : (x.traffic.flights i).steps = 2)
      (hrest : x.rest i = holdActive r ⟨r.amount⟩ (moments i 0).clock)
  | asks {h : Hold} (hsteps : (x.traffic.flights i).steps = 3)
      (hh : h.account = r.account ∧ h.amount.value = r.amount)
      (hrest : x.rest i = .call (.createHold h) (stored h))
  | granted {h : Hold} (hsteps : (x.traffic.flights i).steps = 4)
      (hh : h.account = r.account ∧ h.amount.value = r.amount)
      (hrest : x.rest i = .announce (.holdCreated h) (.done (.ok (.hold h))))
  | succeeded {h : Hold} (hh : h.account = r.account ∧ h.amount.value = r.amount)
      (hrest : x.rest i = .done (.ok (.hold h)))
  /-- It has asked for more than there is. -/
  | refused (hlt : b.available.toRat < r.amount.toRat)
      (hrest : x.rest i = .done (.error (.insufficientFunds r.account)))

/-- A rival stays where it is on the turns of others, and a refusal stays justified. -/
theorem Applying.step_of_ne {b' : Account} {r : HoldRequest} {j : ι}
    (h : x.Applying moments j r b) (hj : j ≠ i) (hle : b'.available.toRat ≤ b.available.toRat) :
    (x.step moments i).Applying moments j r b' := by
  have hsteps : ((x.step moments i).traffic.flights j).steps = (x.traffic.flights j).steps := by
    rw [steps_step, if_neg hj, Nat.add_zero]
  have hrest := x.rest_step_of_ne moments hj
  cases h with
  | begins hsteps' hrest' hnext => exact .begins (hsteps.trans hsteps') (hrest.trans hrest') hnext
  | looks hsteps' hrest' => exact .looks (hsteps.trans hsteps') (hrest.trans hrest')
  | found hsteps' hrest' => exact .found (hsteps.trans hsteps') (hrest.trans hrest')
  | asks hsteps' hh hrest' => exact .asks (hsteps.trans hsteps') hh (hrest.trans hrest')
  | granted hsteps' hh hrest' => exact .granted (hsteps.trans hsteps') hh (hrest.trans hrest')
  | succeeded hh hrest' => exact .succeeded hh (hrest.trans hrest')
  | refused hlt hrest' => exact .refused (lt_of_le_of_lt hle hlt) (hrest.trans hrest')

/-- A look that is answered shows the row that is there. -/
theorem answer_getAccount {m : Moment} {s : Store} (hm : m.refusal = none)
    (ha : s.accounts.get? id = some b) : m.answer s (.getAccount id) = .ok b := by
  unfold Moment.answer
  rw [hm]
  change ((s.account id).map _).map Prod.fst = _
  rw [(account_eq_ok_iff s id b).mpr ha]
  rfl

/-- A call for a hold that is answered succeeds, or there is not as much available. -/
theorem answer_createHold {m : Moment} {s : Store} {h : Hold} (hm : m.refusal = none)
    (ha : s.accounts.get? h.account = some b) (hroom : s.holds.get? h.id = none)
    (hpositive : 0 < h.amount.value.toRat) :
    m.answer s (.createHold h) = .ok () ∨
      (b.available.toRat < h.amount.value.toRat ∧
        m.answer s (.createHold h) = .error (.insufficientFunds h.account)) := by
  rcases Table.exists_insert? hroom with ⟨holds, hholds⟩
  unfold Moment.answer
  rw [hm]
  simp only [perform_createHold ha hholds]
  rcases b.reserve_cases hpositive m.clock with ⟨hlt, hrun⟩ | ⟨available, _, _, hrun⟩
  · refine Or.inr ⟨hlt, ?_⟩
    rw [hrun, Table.key_of_get? ha]
    rfl
  · rw [hrun]
    exact Or.inl rfl

-- One case for each stage. The look finds the account active, because nobody else touches it, and
-- the call for the hold finds the money or does not.
/-- A rival goes on when it is its turn. -/
theorem Applying.step_self {b' : Account} {r : HoldRequest} (h : x.Applying moments i r b)
    (hrow : x.store.accounts.get? r.account = some b) (hactive : b.status = .active)
    (hpositive : 0 < r.amount.toRat)
    (hanswers : (moments i (x.traffic.flights i).steps).refusal = none)
    (hroom : ∀ c ∈ (x.rest i).asks, x.store.HasRoomFor c)
    (hle : b'.available.toRat ≤ b.available.toRat) :
    (x.step moments i).Applying moments i r b' := by
  have hturn := x.steps_step moments i i
  rw [if_pos rfl] at hturn
  have hstep := x.rest_step_self moments i
  cases h with
  | begins hsteps hrest hnext =>
      rw [hrest, hsteps] at hstep
      exact .looks (by rw [hturn, hsteps]) (hstep.trans hnext)
  | looks hsteps hrest =>
      have hlooked := (step_of_call moments hrest).1
      rw [answer_getAccount hanswers hrow] at hlooked
      refine .found (by rw [hturn, hsteps]) (hlooked.trans ?_)
      unfold lookedAt
      simp only [(b.ensureActive_eq_ok_iff).mpr hactive]
  | found hsteps hrest =>
      rw [hrest] at hstep
      exact .asks (h := .start ⟨_⟩ r.account ⟨r.amount⟩ _ _ _ _) (by rw [hturn, hsteps])
        ⟨rfl, rfl⟩ hstep
  | @asks h hsteps hh hrest =>
      have hasked := (step_of_call moments hrest).1
      have hfree : x.store.holds.get? h.id = none :=
        hroom (.createHold h) (by rw [hrest]; exact List.mem_singleton_self _)
      rcases answer_createHold hanswers (hh.1 ▸ hrow) hfree (hh.2 ▸ hpositive) with
        hok | ⟨hlt, herror⟩
      · rw [hok] at hasked
        exact .granted (by rw [hturn, hsteps]) hh hasked
      · rw [herror, hh.1] at hasked
        exact .refused (lt_of_le_of_lt hle (hh.2 ▸ hlt)) hasked
  | granted hsteps hh hrest =>
      rw [hrest] at hstep
      exact .succeeded hh hstep
  | succeeded hh hrest =>
      rw [hrest] at hstep
      exact .succeeded hh hstep
  | refused hlt hrest =>
      rw [hrest] at hstep
      exact .refused (lt_of_le_of_lt hle hlt) hstep

/-- What is known at any time: the books are in order, and each rival has come some way. -/
structure Contest (settings : Settings) (moments : ι → Nat → Moment) (requests : ι → Request)
    (A : ℚ) (id : AccountId) (x : Chronicle ι) : Prop where
  conducted : x.Conducted settings requests
  books : ∃ b, x.Books A id b ∧ ∀ i r, requests i = .createHold r → r.account = id →
    x.Applying moments i r b

theorem contest_start {w : World} {a : Account} (ha : w.store.accounts.get? id = some a)
    (hactive : a.status = .active) (hvalid : ∀ i r, requests i = .createHold r → r.account = id →
      r.InOrder (moments i 0).clock) :
    (start settings w requests).Contest settings moments requests a.available.toRat id where
  conducted := conducted_start w
  books := by
    refine ⟨a, ⟨ha, hactive, (sub_zero _).symm, Or.inr rfl⟩, fun i r hr hid => ?_⟩
    rcases program_createHold settings (hvalid i r hr hid) with ⟨next, hprogram, hnext⟩
    refine .begins rfl ?_ hnext
    rw [← hprogram, ← hr]
    rfl

theorem Contest.step (h : x.Contest settings moments requests A id)
    (hvalid : ∀ i r, requests i = .createHold r → r.account = id →
      r.InOrder (moments i 0).clock) (hturn : x.Undisturbed moments requests id i) :
    (x.step moments i).Contest settings moments requests A id where
  conducted := h.conducted.step moments i
  books := by
    rcases h.books with ⟨b, hbooks, hrivals⟩
    rcases hbooks.step h.conducted hturn with ⟨b', hbooks', hle⟩
    refine ⟨b', hbooks', fun j r hr hid => ?_⟩
    by_cases hj : j = i
    · subst hj
      have happlies : (requests j).appliesTo id = true := by
        rw [hr]
        exact decide_eq_true hid
      rcases hturn.1 happlies with ⟨hanswers, hroom, _⟩
      exact (hrivals j r hr hid).step_self (hid ▸ hbooks.row) hbooks.active
        (hvalid j r hr hid).positive hanswers hroom hle
    · exact (hrivals j r hr hid).step_of_ne hj hle

omit [DecidableEq ι] in
/-- After five turns a rival was answered: it was granted the money, or there was not enough. -/
theorem Applying.answered {r : HoldRequest} (h : x.Applying moments i r b)
    (hsteps : 5 ≤ (x.traffic.flights i).steps) :
    (∃ h, x.answered i = some (.ok (.hold h)) ∧ h.account = r.account ∧
      h.amount.value = r.amount) ∨
    (x.answered i = some (.error (.insufficientFunds r.account)) ∧
      b.available.toRat < r.amount.toRat) := by
  unfold Chronicle.answered
  cases h with
  | begins hsteps' _ _ | looks hsteps' _ | found hsteps' _ | asks hsteps' _ _
  | granted hsteps' _ _ => omega
  | succeeded hh hrest =>
      rw [hrest]
      exact Or.inl ⟨_, rfl, hh.1, hh.2⟩
  | refused hlt hrest =>
      rw [hrest]
      exact Or.inr ⟨rfl, hlt⟩

omit [DecidableEq ι] in
/-- Whoever succeeded was granted something, and nobody less than nothing. -/
theorem granted_pos [Fintype ι] {r : HoldRequest} (hvalid : ∀ i r, requests i = .createHold r →
    r.account = id → r.InOrder (moments i 0).clock) (hr : requests i = .createHold r)
    (hid : r.account = id) (hi : x.hasSucceeded i = true) :
    0 < ∑ i with x.hasSucceeded i, (requests i).setsAside id := by
  have hnonneg (j : ι) : 0 ≤ (requests j).setsAside id := by
    rcases happlies : (requests j).appliesTo id with _ | _
    · exact (setsAside_of_not_appliesTo happlies).ge
    · rcases exists_of_appliesTo happlies with ⟨r', hr', hid'⟩
      rw [hr']
      exact (hvalid j r' hr' hid').positive.le.trans (if_pos hid').ge
  have hself : r.amount.toRat = (requests i).setsAside id := by
    rw [hr]
    exact (if_pos hid).symm
  have hpositive := (hvalid i r hr hid).positive
  rw [hself] at hpositive
  exact hpositive.trans_le (Finset.single_le_sum (f := fun i => (requests i).setsAside id)
    (fun j _ => hnonneg j) (Finset.mem_filter.mpr ⟨Finset.mem_univ i, hi⟩))

/-- What was set aside is what was granted, once all rivals were answered. -/
theorem setAside_eq_granted [Fintype ι] {w : World} {schedule : List ι}
    (hx : x = (start settings w requests).run moments schedule)
    (hanswered : ∀ i, (requests i).appliesTo id = true → x.answered i ≠ none) :
    x.setAside id = ∑ i with x.hasSucceeded i, (requests i).setsAside id := by
  subst hx
  refine (conducted_run w moments schedule).sum_changes_eq (changedOnce_run w moments schedule)
    (fun r c h => h.setsAside_eq id) (fun r hlooks => ?_) fun i hi => ?_
  · cases r with
    | createHold _ => cases hlooks
    | _ => rfl
  · refine setsAside_of_not_appliesTo ?_
    by_contra happlies
    exact hanswered i (Bool.not_eq_false _ ▸ happlies) hi.2

/-- Rivals for the same money. On an active account, with nothing else happening to it, each request
    that is in order is answered after five turns, on whatever schedule. What is available then is
    what was, less what was granted, and not below zero unless it was so before. Whoever was granted
    money has a hold of the amount, and all together were granted no more than there was; whoever
    was refused asked for more than is left. -/
theorem rivals [Fintype ι] (settings : Settings) (w : World) (requests : ι → Request)
    (moments : ι → Nat → Moment) (schedule : List ι) {x : Chronicle ι}
    (hx : x = (start settings w requests).run moments schedule) {a : Account}
    (ha : w.store.accounts.get? id = some a) (hactive : a.status = .active)
    (hvalid : ∀ i r, requests i = .createHold r → r.account = id → r.InOrder (moments i 0).clock)
    (hundisturbed : Along moments (Undisturbed moments requests id)
      (start settings w requests) schedule)
    (hturns : ∀ i, (requests i).appliesTo id = true → 5 ≤ schedule.count i) :
    ∃ b, x.store.accounts.get? id = some b ∧
      b.available.toRat
        = a.available.toRat - (∑ i with x.hasSucceeded i, (requests i).setsAside id) ∧
      (0 ≤ a.available.toRat → 0 ≤ b.available.toRat) ∧
      ∀ i r, requests i = .createHold r → r.account = id →
        (∃ h, x.answered i = some (.ok (.hold h)) ∧ h.account = id ∧ h.amount.value = r.amount ∧
          ∑ i with x.hasSucceeded i, (requests i).setsAside id ≤ a.available.toRat) ∨
        (x.answered i = some (.error (.insufficientFunds id)) ∧
          b.available.toRat < r.amount.toRat) := by
  have hcontest : x.Contest settings moments requests a.available.toRat id := by
    rw [hx]
    exact run_along_induction moments (fun y j hturn h => h.step hvalid hturn)
      (contest_start ha hactive hvalid) hundisturbed
  rcases hcontest.books with ⟨b, hbooks, hrivals⟩
  have houtcome (i : ι) (r : HoldRequest) (hr : requests i = .createHold r)
      (hid : r.account = id) := (hrivals i r hr hid).answered (by
    rw [hx, steps_run]
    exact Nat.le_add_left_of_le (hturns i (by rw [hr]; exact decide_eq_true hid)))
  have hgranted : x.setAside id = ∑ i with x.hasSucceeded i, (requests i).setsAside id := by
    refine setAside_eq_granted hx fun i happlies => ?_
    rcases exists_of_appliesTo happlies with ⟨r, hr, hid⟩
    rcases houtcome i r hr hid with ⟨h, hok, _⟩ | ⟨herror, _⟩
    · rw [hok]
      nofun
    · rw [herror]
      nofun
  have havailable := hbooks.available
  rw [hgranted] at havailable
  refine ⟨b, hbooks.row, havailable, fun hA => ?_, fun i r hr hid => ?_⟩
  · rcases hbooks.sign with hsign | hnone
    · exact hsign
    · rw [hbooks.available, hnone, sub_zero]
      exact hA
  · rcases houtcome i r hr hid with ⟨h, hok, hon, hamount⟩ | hrefused
    · refine Or.inl ⟨h, hok, hon.trans hid, hamount, ?_⟩
      have hpositive := granted_pos (x := x) hvalid hr hid (hasSucceeded_of_answered hok)
      rcases hbooks.sign with hsign | hnone
      · linarith
      · rw [← hgranted, hnone] at hpositive
        exact absurd hpositive (lt_irrefl 0)
    · exact Or.inr (hid ▸ hrefused)

/-- To set sixty aside, or fifty, or forty, on an account with a hundred. -/
def rivalHold (i : Fin 3) : HoldRequest := ⟨default, .ofUnits (60 - 10 * i) 0, "rent", none, none⟩

/-- Each of them makes an identifier of its own. -/
def rivalMoments (i : Fin 3) (_ : Nat) : Moment := ⟨.epoch, i, 0, none⟩

/-- Their turns come round and round, so that all of them look before one of them asks. -/
def fiveRounds : List (Fin 3) := (List.replicate 5 (List.finRange 3)).flatten

/-- All three are served. -/
def threeRivals : Chronicle (Fin 3) :=
  (start .default (Request.ledgerWith hundred) fun i => .createHold (rivalHold i)).run rivalMoments
    fiveRounds

instance (x : Chronicle ι) (i : ι) : Decidable (x.Undisturbed moments requests id i) :=
  inferInstanceAs (Decidable ((_ → _) ∧ (_ → _)))

/-- The first and the last of them get the money, and nothing is left. -/
theorem threeRivals_available : ∃ b, threeRivals.store.accounts.get? default = some b ∧
    b.available.toRat = 0 ∧ threeRivals.hasSucceeded 0 = true ∧ threeRivals.hasSucceeded 2 = true ∧
    threeRivals.answered 1 = some (.error (.insufficientFunds default)) := by
  have hactive : ∀ a ∈ (Request.ledgerWith hundred).store.accounts.get? default,
      a.status = .active ∧ a.available.toRat = 100 := by decide +kernel
  have hamount : ∀ i, 0 < (rivalHold i).amount.toRat := by decide +kernel
  have hreason : ∀ i, Ledger.checkReason (rivalHold i).reason = .ok () := by decide +kernel
  have hvalid : ∀ i r, Request.createHold (rivalHold i) = .createHold r → r.account = default →
      r.InOrder (rivalMoments i 0).clock := by
    intro i r hr _
    cases hr
    exact ⟨hamount i, hreason i, rfl⟩
  have hundisturbed : Along rivalMoments
      (Undisturbed rivalMoments (fun i => .createHold (rivalHold i)) default)
      (start .default (Request.ledgerWith hundred) fun i => .createHold (rivalHold i)) fiveRounds
      := by decide +kernel
  have hgranted : ∑ i with threeRivals.hasSucceeded i,
      (Request.createHold (rivalHold i)).setsAside default = 100 := by decide +kernel
  rcases ha : (Request.ledgerWith hundred).store.accounts.get? default with _ | a
  · exact absurd ha (by decide +kernel)
  · rcases rivals .default (Request.ledgerWith hundred) (fun i => .createHold (rivalHold i))
      rivalMoments fiveRounds (x := threeRivals) rfl ha (hactive a ha).1 hvalid hundisturbed
      (by decide) with ⟨b, hb, havailable, _⟩
    refine ⟨b, hb, ?_, by decide +kernel, by decide +kernel, by decide +kernel⟩
    rw [havailable, hgranted, (hactive a ha).2, sub_self]

end Chronicle

end BankLedger
