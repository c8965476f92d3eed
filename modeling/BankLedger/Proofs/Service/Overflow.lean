import BankLedger.Proofs.Service.Conservation
import BankLedger.Proofs.Service.Exact
import BankLedger.Proofs.Service.Outcome
import BankLedger.Proofs.Service.Release
import BankLedger.Proofs.Store.Covered

/-!
# Requests Whose Sums Are Out of Range

A posting never makes up an overflow: when it fails for that reason the store has given it, to the
call with which the posting was to change something. So what is known of the store at every time of
a run is known of every request, however many of them are under way. As long as no sum on an account
was rounded, only a credit is refused as out of range, and what was set aside can be given back.

## Main definitions

* `Deed.Blames`: An overflow is one that the store gave.

## Theorems

* `Request.keeps_blames`: A posting passes an overflow on and makes up none.
* `Request.FulfilledBy.credit_of_overflow`: Of the changes that postings are after, only that of a
  credit is refused as out of range.
* `Request.releaseHold_succeeds`, `Request.credit_overflows_iff`: What comes of requests that are
  served alone.
* `Chronicle.exists_turn_of_blames`: The turn on which the store refused a request.
* `Chronicle.onlyCreditsOverflow`: Only a credit can overflow.
-/

namespace BankLedger

open Attempt Deed Decimal

/-- A program keeps what holds of every end. -/
theorem Program.keeps_of_ends {α : Type} {ends : List Deed → Except LedgerError α → Prop}
    (h : ∀ deeds r, ends deeds r) (p : Program α) {deeds : List Deed} :
    p.Keeps (fun _ _ => True) ends deeds := by
  induction p generalizing deeds with
  | done r => exact h deeds r
  | call c next ih => exact ⟨trivial, fun _ answer => ih answer⟩
  | draw next ih => exact ⟨trivial, fun n => ih n⟩
  | now next ih => exact ⟨trivial, fun t => ih t⟩
  | fresh next ih => exact ⟨trivial, fun u => ih u⟩
  | announce n next ih => exact ⟨trivial, fun _ _ _ => ih⟩

namespace Deed

/-- When a request ends with an overflow, it is one that the store gave. -/
def Blames {α : Type} (id : AccountId) (deeds : List Deed) (result : Except LedgerError α) : Prop :=
  result = .error (.overflowOn id) → ∃ time c, .asked time c (.error (.overflowOn id)) ∈ deeds

end Deed

namespace Request

open Program

/-- Any step may be taken on the way. -/
def MayAnything (_ : List Deed) (_ : List Call) : Prop := True

section Blames

variable {α β : Type} {id : AccountId} {deeds : List Deed}

theorem blames_ok (a : α) : Blames id deeds (.ok a) := nofun

/-- What the store refuses is passed on. -/
theorem keeps_blames_ask {c : Call} {f : c.Reply → Program α}
    (hok : ∀ deeds reply, (f reply).Keeps MayAnything (Blames id) deeds) :
    (ask c >>= f).Keeps MayAnything (Blames id) deeds := by
  refine ⟨trivial, fun time answer => ?_⟩
  cases answer with
  | error e =>
      rintro heq
      cases heq
      exact ⟨time, c, by simp⟩
  | ok reply => exact hok _ reply

theorem keeps_blames_map {p : Program α} {f : α → β}
    (h : p.Keeps MayAnything (Blames id) deeds) :
    (p >>= fun a => pure (f a)).Keeps MayAnything (Blames id) deeds := by
  have hends : (fun deeds (r : Except LedgerError α) => Blames id deeds (r.map f))
      = Blames id := by
    funext deeds r
    unfold Blames
    rw [map_eq_error_iff]
  exact keeps_map (hends ▸ h)

/-- A check that is passed, or refuses the request for another reason. -/
theorem keeps_blames_check {r : Except LedgerError α} {f : α → Program β}
    (hr : r ≠ .error (.overflowOn id))
    (hok : ∀ a, r = .ok a → (f a).Keeps MayAnything (Blames id) deeds) :
    (ofExcept r >>= f).Keeps MayAnything (Blames id) deeds := by
  refine keeps_check (fun e he heq => absurd ?_ hr) hok
  cases heq
  exact he

theorem amount_ne_overflow (x : Decimal) : Amount.ofDecimal x ≠ .error (.overflowOn id) := by
  unfold Amount.ofDecimal
  split <;> nofun

theorem ensureActive_ne_overflow (a : Account) : a.ensureActive ≠ .error (.overflowOn id) := by
  unfold Account.ensureActive
  split <;> nofun

theorem checkReason_ne_overflow (reason : String) :
    Ledger.checkReason reason ≠ .error (.overflowOn id) := by
  unfold Ledger.checkReason
  split <;> nofun

theorem checkExpiry_ne_overflow (now : Instant) (expiresAt : Option Instant) :
    Ledger.checkExpiry now expiresAt ≠ .error (.overflowOn id) := by
  unfold Ledger.checkExpiry
  split
  · split <;> nofun
  · nofun

theorem keeps_blames_move (id' : AccountId) (delta : Decimal) :
    (Ledger.move id' delta).Keeps MayAnything (Blames id) deeds := by
  refine keeps_blames_ask (c := .getAccount id') fun _ a => ?_
  refine keeps_blames_check (ensureActive_ne_overflow a) fun _ _ => ?_
  refine keeps_blames_ask (c := .applyDelta id' delta) fun _ _ => ⟨trivial, fun _ answer => ?_⟩
  cases answer with
  | ok b => exact ⟨trivial, fun _ _ _ => blames_ok _⟩
  | error e => exact blames_ok _

theorem keeps_blames_createHold (request : HoldRequest) :
    (Ledger.createHold request).Keeps MayAnything (Blames id) deeds := by
  refine keeps_blames_check (amount_ne_overflow _) fun amount _ => ?_
  refine keeps_blames_check (checkReason_ne_overflow _) fun _ _ => ?_
  refine keeps_time_bind trivial fun now => ?_
  refine keeps_blames_check (checkExpiry_ne_overflow _ _) fun _ _ => ?_
  refine keeps_blames_ask (c := .getAccount request.account) fun _ a => ?_
  refine keeps_blames_check (ensureActive_ne_overflow a) fun _ _ => ?_
  refine keeps_freshId_bind trivial fun u => ?_
  exact keeps_blames_ask (c := .createHold _) fun _ _ => ⟨trivial, fun _ _ _ => blames_ok _⟩

theorem keeps_blames_releaseHold (k : HoldId) :
    (Ledger.releaseHold k).Keeps MayAnything (Blames id) deeds :=
  keeps_time_bind trivial fun now => keeps_blames_ask (c := .releaseHold k now) fun _ _ =>
    ⟨trivial, fun _ _ _ => blames_ok _⟩

end Blames

/-- A posting passes an overflow on and makes up none. -/
theorem keeps_blames (settings : Settings) {r : Request} (hr : r.isPosting = true)
    (id : AccountId) :
    (r.program settings).Keeps MayAnything (Blames id) [] := by
  cases r with
  | credit id' x | debit id' x =>
      exact keeps_blames_map (keeps_blames_check (amount_ne_overflow x) fun _ _ =>
        keeps_blames_move id' _)
  | createHold request => exact keeps_blames_map (keeps_blames_createHold request)
  | releaseHold k => exact keeps_blames_map (keeps_blames_releaseHold k)
  | _ => cases hr

end Request

namespace Request

open Program

/-- When the store refuses the change of a posting as out of range, the posting is a credit, and the
    balance would be too large. -/
theorem FulfilledBy.credit_of_overflow {settings : Settings} {r : Request} {c : Call} {s : Store}
    {id : AccountId} {now : Instant} (h : r.FulfilledBy settings c) (hr : r.isPosting = true)
    (hs : s.Covered id) (hoverflow : s.perform now c = .error (.overflowOn id)) :
    ∃ amount a, r = .credit id amount ∧ s.accounts.get? id = some a ∧
      max.toRat < a.balance.toRat + amount.toRat := by
  cases h with
  | opened _ _ | acted | closed | amended _ _ => cases hr
  | credited hamount =>
      rcases (Amount.ofDecimal_eq_ok_iff _ _).mp hamount with ⟨hpositive, rfl⟩
      rcases Store.perform_applyDelta_eq_overflow_iff.mp hoverflow with ⟨rfl, a, ha, _⟩
      exact ⟨_, a, rfl, ha, hs.lt_of_credit_overflow ha hpositive hoverflow⟩
  | debited hamount =>
      rcases (Amount.ofDecimal_eq_ok_iff _ _).mp hamount with ⟨hpositive, rfl⟩
      rcases Store.perform_applyDelta_eq_overflow_iff.mp hoverflow with ⟨rfl, _⟩
      exact absurd hoverflow (hs.debit_ne_overflow hpositive now)
  | held hamount _ _ =>
      rcases (Amount.ofDecimal_eq_ok_iff _ _).mp hamount with ⟨hpositive, hvalue⟩
      exact absurd hoverflow (s.perform_createHold_ne_overflow id (hvalue ▸ hpositive) now)
  | released => exact absurd hoverflow (hs.releaseHold_ne_overflow _ _ now)

/-- Money that is set aside is given back to whoever asks for it alone. -/
theorem releaseHold_succeeds (settings : Settings) {w : World} {id : AccountId}
    (hw : w.store.Covered id) {k : HoldId} {h : Hold} (hh : w.store.holds.get? k = some h)
    (haccount : h.account = id) (hactive : h.isActive = true) :
    (Request.releaseHold k).Succeeds settings w := by
  have hmem := Table.mem_of_get? hh
  rcases hw.exists_account hmem haccount with ⟨a, ha⟩
  have hposting : (Request.releaseHold k).posting? w.store = some (.aside a h.amount.value) := by
    simp only [posting?, hh, Option.bind_some, haccount, ha, Option.map_some]
  exact (succeeds_posting_iff settings hposting).mpr
    ⟨⟨h, hh, hactive⟩, hw.not_overflows_aside ha hmem haccount hactive⟩

/-- What is no amount is refused as such. -/
theorem credit_of_not_positive (settings : Settings) (w : World) (id : AccountId) {amount : Decimal}
    (h : ¬ 0 < amount.toRat) : (((Request.credit id amount).program settings).runAlone w).1
      = .error (.invalidArgument (.amount amount)) := by
  have hrefused : Amount.ofDecimal amount = .error (.invalidArgument (.amount amount)) := by
    unfold Amount.ofDecimal
    rw [← isPositive_iff] at h
    rw [if_neg h]
  unfold Request.program Ledger.credit
  rw [runAlone_map, hrefused]
  rfl

/-- Alone, a credit on an active account is refused as out of range when the balance would be too
    large, and only then. -/
theorem credit_overflows_iff (settings : Settings) {w : World} {id : AccountId}
    (hw : w.store.Covered id) {a : Account} (ha : w.store.accounts.get? id = some a)
    (hactive : a.status = .active) {amount : Decimal} (hexact : a.balance.AddsExactly amount) :
    (((Request.credit id amount).program settings).runAlone w).1 = .error (.overflowOn id) ↔
      max.toRat < a.balance.toRat + amount.toRat := by
  have hid : a.id = id := Table.key_of_get? ha
  have hbalance := hw.solvent id a ha
  have hbalance' := (le_abs_self _).trans (abs_toRat_le a.balance)
  by_cases hpositive : 0 < amount.toRat
  · have hposting : (Request.credit id amount).posting? w.store = some (.move a amount) := by
      simp only [posting?, ha, Option.map_some]
    have hadmitted : (Request.credit id amount).Admitted w (.move a amount) :=
      ⟨hpositive, hactive, add_nonneg hbalance hpositive.le⟩
    have hserved := served settings hposting
    have hoverflows : (Posting.move a amount).Overflows ↔
        max.toRat < a.balance.toRat + amount.toRat := by
      have hsum : 0 ≤ a.balance.toRat + amount.toRat := add_nonneg hbalance hpositive.le
      rw [← hw.onlyCredits.credit w.clock a amount ha hpositive hexact,
        Store.perform_applyDelta_eq_overflow_iff, Posting.move_overflows_iff]
      simp [ha, Account.applyDelta_eq_overflow_iff, hsum, Posting.sum, Posting.move]
    -- Nothing else speaks against the credit, so the sums decide.
    rw [← hoverflows]
    generalize ((Request.credit id amount).program settings).runAlone w = out at hserved
    rcases out with ⟨e | answer, v⟩
    · have hrefused := hserved.of_error.2 hadmitted
      simp only [hrefused.1, iff_true]
      rw [hrefused.2, ← hid]
      rfl
    · simp only [hserved.of_ok.2.1, reduceCtorEq]
  · rw [credit_of_not_positive settings w id hpositive]
    constructor
    · intro h
      cases h
    · intro hlt
      linarith

end Request

namespace Store

/-- A look at the store is never out of range. -/
theorem perform_ne_overflow_of_looking (s : Store) {c : Call} (hc : c.isMutating = false)
    (now : Instant) (id : AccountId) : s.perform now c ≠ .error (.overflowOn id) := by
  have haccount (id' : AccountId) : s.account id' ≠ .error (.overflowOn id) := by
    unfold account
    split <;> nofun
  cases c with
  | getAccount id' => exact (haccount id') ∘ (map_eq_error_iff _ _ _).mp
  | getByNumber n =>
      refine mt (map_eq_error_iff _ _ _).mp ?_
      unfold byNumber
      split
      · exact haccount _
      · nofun
  | getHold k =>
      refine mt (map_eq_error_iff _ _ _).mp ?_
      unfold hold
      split <;> nofun
  | accountsOf customer => nofun
  | activeHolds id' => nofun
  | createAccount | amend | changeStatus | applyDelta | createHold | releaseHold => cases hc

/-- A release that is refused has found no active hold, because the sum of an active one is in
    range. -/
theorem Releasing.spent_of_refused {s t : Store} {id : AccountId} {k : HoldId} {time : Instant}
    {answer : Except LedgerError Hold} {e : LedgerError} (h : s.Releasing k time answer t)
    (hs : s.Covered id) (hrefused : answer = .error e) :
    ∀ g, s.holds.get? k = some g → g.account = id → g.isActive = false := by
  intro g hg haccount
  cases h with
  | notFound hnone => cases hnone.symm.trans hg
  | alreadyReleased hg' hspent =>
      cases hg.symm.trans hg'
      exact hspent
  | overflowed hg' hactive ha hsum =>
      cases hg.symm.trans hg'
      have hrange := hs.not_overflows_aside (haccount ▸ ha) (Table.mem_of_get? hg) haccount hactive
      rw [Posting.aside_overflows_iff] at hrange
      exact absurd ((add?_eq_none_iff _ _).mp hsum) hrange
  | released _ _ _ _ => cases hrefused

end Store

namespace Chronicle

variable {ι : Type} [DecidableEq ι]

/-- The turn on which the store refused a request as out of range. -/
theorem exists_turn_of_blames (settings : Settings) (w : World) {requests : ι → Request}
    (moments : ι → Nat → Moment) (schedule : List ι) {i : ι} {id : AccountId}
    (hkeeps : ((requests i).program settings).Keeps Request.MayAnything (Blames id) [])
    (hanswered : ((start settings w requests).run moments schedule).answered i
      = some (.error (.overflowOn id))) :
    ∃ before later time c, schedule = before ++ i :: later ∧
      .asked time c (.error (.overflowOn id)) ∈
        ((start settings w requests).run moments before).deedsAt moments i := by
  have hkeeps' (j : ι) : ((requests j).program settings).Keeps Request.MayAnything
      (fun deeds result => j = i → Blames id deeds result) [] := by
    by_cases hj : j = i
    · subst hj
      simpa using hkeeps
    · exact Program.keeps_of_ends (fun _ _ heq => absurd heq hj) _
  have hrest := keeps_run moments settings w hkeeps' schedule i
  rw [Program.eq_done_of_result? hanswered] at hrest
  rcases hrest rfl rfl with ⟨time, c, hmem⟩
  rcases mem_deedsOf_run moments schedule hmem with hnone | ⟨before, later, hschedule, hd⟩
  · cases hnone
  · exact ⟨before, later, time, c, hschedule, hd⟩

omit [DecidableEq ι] in
/-- On that turn the store did not answer for this reason, or it refused the call. -/
theorem refused_of_mem_deedsAt {x : Chronicle ι} {moments : ι → Nat → Moment} {i : ι}
    {time : Instant} {c : Call} {e : LedgerError}
    (h : .asked time c (.error e) ∈ x.deedsAt moments i) :
    (x.rest i).asks = [c] ∧ ((moments i (x.traffic.flights i).steps).refusal = some e ∨
      x.store.perform (moments i (x.traffic.flights i).steps).clock c = .error e) := by
  unfold deedsAt at h
  change .asked time c (.error e) ∈ (x.rest i).deeds _ _ at h
  rcases hrest : x.rest i with r | ⟨c', next⟩ | next | next | next | ⟨n, next⟩ <;> rw [hrest] at h
  · cases h
  · simp only [Program.deeds, List.mem_singleton, Deed.asked.injEq] at h
    rcases h with ⟨_, rfl, hanswer⟩
    refine ⟨rfl, ?_⟩
    have hanswer' := (eq_of_heq hanswer).symm
    unfold Moment.answer at hanswer'
    cases hrefusal : (moments i (x.traffic.flights i).steps).refusal with
    | some e' =>
        rw [hrefusal] at hanswer'
        cases hanswer'
        exact Or.inl rfl
    | none =>
        rw [hrefusal] at hanswer'
        exact Or.inr ((map_eq_error_iff _ _ _).mp hanswer')
  · cases h
  · cases h
  · cases h
  · cases List.mem_singleton.mp h

variable {settings : Settings} {requests : ι → Request}

/-- The money that is set aside is covered at every time of a run, unless a sum was rounded. -/
theorem covered_run {w : World} (hw : w.store = .empty) (moments : ι → Nat → Moment)
    (schedule : List ι) {id : AccountId}
    (hexact : Store.ExactOn id .empty
      (changes ((start settings w requests).run moments schedule).deeds)) :
    ((start settings w requests).run moments schedule).store.Covered id := by
  have honce : ((start settings w requests).run moments schedule).ChangedOnce settings requests :=
    changedOnce_run w moments schedule
  have hchanged := (recorded_run moments settings w requests schedule).changed
  rw [hchanged.eq_afterAll, hw]
  exact Store.covered_afterAll id (Store.covered_empty id) _ honce.bringsNew hexact

/-- The money was covered at every earlier time as well. -/
theorem covered_before {w : World} (hw : w.store = .empty) (moments : ι → Nat → Moment)
    {before later : List ι} {id : AccountId}
    (hexact : Store.ExactOn id .empty
      (changes ((start settings w requests).run moments (before ++ later)).deeds)) :
    ((start settings w requests).run moments before).store.Covered id := by
  rw [run_append] at hexact
  rcases deeds_run moments ((start settings w requests).run moments before) later with
    ⟨more, hmore⟩
  rw [hmore, changes_append] at hexact
  exact covered_run hw moments before hexact.of_append

/-- A request that fails as out of range was refused on one of its turns, when it was about to make
    its change. -/
theorem credit_of_answered {w : World} (hw : w.store = .empty) {moments : ι → Nat → Moment}
    {schedule : List ι} {id : AccountId}
    (hexact : Store.ExactOn id .empty
      (changes ((start settings w requests).run moments schedule).deeds))
    (hrefusal : ∀ i n, (moments i n).refusal ≠ some (.overflowOn id)) {i : ι}
    (hi : (requests i).isPosting = true)
    (hanswered : ((start settings w requests).run moments schedule).answered i
      = some (.error (.overflowOn id))) :
    ∃ amount before later a, requests i = .credit id amount ∧ schedule = before ++ i :: later ∧
      ((start settings w requests).run moments before).store.accounts.get? id = some a ∧
      max.toRat < a.balance.toRat + amount.toRat := by
  rcases exists_turn_of_blames settings w moments schedule
    (Request.keeps_blames settings hi id) hanswered with
    ⟨before, later, time, c, rfl, hdeed⟩
  rcases refused_of_mem_deedsAt hdeed with ⟨hasks, hnot | hperform⟩
  · exact absurd hnot (hrefusal _ _)
  · have hconducted : Conducted settings requests _ := conducted_run w moments before
    rcases hc : c.isMutating with _ | _
    · exact absurd hperform (Store.perform_ne_overflow_of_looking _ hc _ id)
    · rcases (hconducted i).busy_or_ends with ⟨_, hbusy⟩ | ⟨r, hr, _⟩
      · rw [hasks] at hbusy
        have hfulfilled := hbusy.fulfilled c List.mem_cons_self hc
        rcases hfulfilled.credit_of_overflow hi (covered_before hw moments hexact) hperform with
          ⟨amount, a, hcredit, ha, hlt⟩
        exact ⟨amount, before, later, a, hcredit, rfl, ha, hlt⟩
      · rw [hr] at hasks
        cases hasks

/-- A release that fails was not answered by the store on its turn, or found no active hold. -/
theorem spent_of_refused {w : World} (hw : w.store = .empty) {moments : ι → Nat → Moment}
    {schedule : List ι} {id : AccountId}
    (hexact : Store.ExactOn id .empty
      (changes ((start settings w requests).run moments schedule).deeds)) {i : ι} {k : HoldId}
    (hi : requests i = .releaseHold k) {e : LedgerError}
    (hanswered : ((start settings w requests).run moments schedule).answered i
      = some (.error e)) :
    ∃ before later, schedule = before ++ i :: later ∧ ((moments i 1).refusal = some e ∨
      ∀ h, ((start settings w requests).run moments before).store.holds.get? k = some h →
        h.account = id → h.isActive = false) := by
  have horphans : w.store.NoOrphans := hw ▸ Store.noOrphans_empty
  rcases exists_releasedAt horphans hi schedule hanswered with
    ⟨before, later, answer, rfl, heq, hturn⟩
  have hrefused := (map_eq_error_iff _ _ _).mp heq.symm
  refine ⟨before, later, rfl, ?_⟩
  cases hturn with
  | unanswered hrefusal _ =>
      cases hrefused
      exact Or.inl hrefusal
  | answered hreleasing =>
      exact Or.inr (hreleasing.spent_of_refused (covered_before hw moments hexact) hrefused)

/-- Only a credit can overflow. Take any run from the empty store, with any number of requests under
    way, in which no sum on the account was rounded and the store never pretended an overflow. What
    is set aside on the account is at most the largest decimal, and what any next call would find is
    as `OnlyCreditsOverflow` says. A posting that was refused as out of range is a credit, and on
    one of its turns the balance would have been too large. A release that failed was not answered
    by the store, or found no active hold. And of the requests that are served alone from here on,
    the release of an active hold succeeds, and a credit on an active account is refused as out of
    range exactly when the balance would be too large, unless the new balance is rounded. -/
theorem onlyCreditsOverflow (settings : Settings) (w : World) (hw : w.store = .empty)
    (requests : ι → Request) (moments : ι → Nat → Moment) (schedule : List ι) {x : Chronicle ι}
    (hx : x = (start settings w requests).run moments schedule) (id : AccountId)
    (hexact : Store.ExactOn id .empty (changes x.deeds))
    (hrefusal : ∀ i n, (moments i n).refusal ≠ some (.overflowOn id)) :
    x.store.OnlyCreditsOverflow id ∧
    (∀ i, (requests i).isPosting = true → x.answered i = some (.error (.overflowOn id)) →
      ∃ amount before later a, requests i = .credit id amount ∧ schedule = before ++ i :: later ∧
        ((start settings w requests).run moments before).store.accounts.get? id = some a ∧
        max.toRat < a.balance.toRat + amount.toRat) ∧
    (∀ i k e, requests i = .releaseHold k → x.answered i = some (.error e) →
      ∃ before later, schedule = before ++ i :: later ∧ ((moments i 1).refusal = some e ∨
        ∀ h, ((start settings w requests).run moments before).store.holds.get? k = some h →
          h.account = id → h.isActive = false)) ∧
    ∀ v : World, v.store = x.store →
      (∀ k h, x.store.holds.get? k = some h → h.account = id → h.isActive = true →
        (Request.releaseHold k).Succeeds settings v) ∧
      ∀ a amount, x.store.accounts.get? id = some a → a.status = .active →
        a.balance.AddsExactly amount →
        ((((Request.credit id amount).program settings).runAlone v).1 = .error (.overflowOn id) ↔
          max.toRat < a.balance.toRat + amount.toRat) := by
  subst hx
  have hcovered : ((start settings w requests).run moments schedule).store.Covered id :=
    covered_run hw moments schedule hexact
  refine ⟨hcovered.onlyCredits, fun i hi hanswered => ?_, fun i k e hi hanswered => ?_,
    fun v hv => ?_⟩
  · exact credit_of_answered hw hexact hrefusal hi hanswered
  · exact spent_of_refused hw hexact hi hanswered
  · have hcovered' : v.store.Covered id := hv ▸ hcovered
    constructor
    · intro k h hh haccount hactive
      exact Request.releaseHold_succeeds settings hcovered' (hv ▸ hh) haccount hactive
    · intro a amount ha hactive hsum
      exact Request.credit_overflows_iff settings hcovered' (hv ▸ ha) hactive hsum

/-- Nothing special happens at any step. -/
def quietMoments (_ : Fin 6) (_ : Nat) : Moment := ⟨.epoch, 0, 0, none⟩

/-- The account that is opened then, and the hold that is created. -/
def madeUuid : Uuid := (quietMoments 0 0).uuid

/-- An account is opened and the largest decimal put on it; of this one unit is set aside, and all
    of it is taken off and put back. Then there is no room for one unit more. -/
def fillings : Fin 6 → Request
  | 0 => .openAccount ⟨default, .checking, none, none⟩
  | 1 => .credit ⟨madeUuid⟩ .max
  | 2 => .createHold ⟨⟨madeUuid⟩, .ofUnits 1 0, "rent", none, none⟩
  | 3 => .debit ⟨madeUuid⟩ .max
  | 4 => .credit ⟨madeUuid⟩ .max
  | 5 => .credit ⟨madeUuid⟩ (.ofUnits 1 0)

/-- Each has its turns, the last ones not one after the other. -/
def filled : Chronicle (Fin 6) :=
  (start .default (.start 8 .counted .epoch) fillings).run quietMoments
    [0, 0, 0, 0, 0, 1, 1, 1, 1, 2, 2, 2, 2, 2, 3, 5, 3, 4, 3, 4, 3, 4, 4, 5]

/-- The last credit is refused, and the money that is set aside can be given back. -/
theorem filled_overflows : filled.answered 5 = some (.error (.overflowOn ⟨madeUuid⟩)) ∧
    (∃ amount, fillings 5 = .credit ⟨madeUuid⟩ amount) ∧
    filled.store.reserved ⟨madeUuid⟩ ≤ max.toRat ∧
    (Request.releaseHold ⟨madeUuid⟩).Succeeds .default filled.traffic.world := by
  have hexact : Store.ExactOn ⟨madeUuid⟩ .empty (changes filled.deeds) := by decide +kernel
  have hanswered : filled.answered 5 = some (.error (.overflowOn ⟨madeUuid⟩)) := by
    decide +kernel
  have hmain := onlyCreditsOverflow .default (.start 8 .counted .epoch) rfl fillings quietMoments
    _ (x := filled) rfl ⟨madeUuid⟩ hexact (by nofun)
  rcases hh : filled.store.holds.get? ⟨madeUuid⟩ with _ | h
  · exact absurd hh (by decide +kernel)
  · have hactive : ∀ g ∈ filled.store.holds.get? ⟨madeUuid⟩,
        g.account = ⟨madeUuid⟩ ∧ g.isActive = true := by decide +kernel
    rcases hmain.2.1 5 rfl hanswered with ⟨amount, _, _, _, hcredit, _⟩
    exact ⟨hanswered, ⟨amount, hcredit⟩, hmain.1.reserved_le,
      (hmain.2.2.2 _ rfl).1 _ h hh (hactive h hh).1 (hactive h hh).2⟩

end Chronicle

end BankLedger
