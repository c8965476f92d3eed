import BankLedger.Proofs.Batch.Represents
import BankLedger.Proofs.Service.Checks

/-!
# Commands on Both Sides

A command of a batch and the same command of the plain ledger come to the same. Both reject it, and
then the two sides stay as they were, or both carry it out, and then they are together afterwards
too.

Every command is at most one request, so there are three ways for it to end: there is no request
for it, the request is refused, or its change is made. `Represents.agrees_of_request` says once what
has to be known of a request, and `Represents.agrees_of_posting` what has to be known when it moves
money. A command that the plain ledger accepts leaves it with decimals only, and these are the sums
that the request writes, so none of them is rounded.

## Main definitions

* `Agrees`: A command is rejected by both sides or carried out by both.

## Theorems

* `agrees_of_request`, `agrees_of_posting`, `agrees_move`: What a request comes to.
* `agrees_credit`, `agrees_debit`, `agrees_hold`, `agrees_release`, `agrees_changeStatus`,
  `agrees_open`: What each command comes to.
* `agrees_apply`: Both sides agree on every command.
-/

namespace BankLedger

open Attempt Decimal

/-- What a command comes to on both sides: it is rejected by both, or carried out by both. -/
inductive Agrees (r : Runner) (l : AliasLedger) :
    Except LedgerError Runner × World → Option AliasLedger → Prop where
  | rejected {e : LedgerError} {v : World} (h : Represents r v l) : Agrees r l (.error e, v) none
  | accepted {r' : Runner} {v : World} {l' : AliasLedger} (h : Represents r' v l') :
      Agrees r l (.ok r', v) (some l')

namespace Represents

variable {settings : Settings} {r : Runner} {w : World} {l : AliasLedger} {c : Command}

/-- There is no request for the command, so the store is not even asked. -/
theorem agrees_of_error (h : Represents r w l) {e : LedgerError} (hrequest : r.request c = .error e)
    (hl : l.apply c = none) : Agrees r l ((r.apply settings c).runAlone w) (l.apply c) := by
  rw [Runner.runAlone_apply, hrequest, hl]
  exact .rejected h

-- A request that is refused leaves the store as it was, but it may have used up identifiers.
/-- Both sides agree on a request that succeeds just when the command is accepted, if its change is
    the one that the command means. -/
theorem agrees_of_request (h : Represents r w l) {q : Request} (hrequest : r.request c = .ok q)
    (hq : q.isMutating = true)
    (hsucceeds : q.Succeeds settings w ↔ ∃ l', l.apply c = some l')
    (hchange : ∀ {l' answer v time call reply}, l.apply c = some l' →
      q.FulfilledBy settings call → call.Answered reply answer →
      w.store.Effect time call v.store → v.Minted → Represents (r.remember c answer) v l') :
    Agrees r l ((r.apply settings c).runAlone w) (l.apply c) := by
  have hmade := Program.made_le_runAlone (q.program settings) w
  have hminted : ((q.program settings).runAlone w).2.Minted := Request.minted_runAlone hq h.minted
  have houtcome := Request.outcome settings hq w
  unfold Request.Succeeds at hsucceeds
  rw [Runner.runAlone_apply, hrequest]
  simp only
  generalize (q.program settings).runAlone w = out at hmade hminted houtcome hsucceeds
  cases houtcome with
  | refused hstore =>
      have hnone : l.apply c = none := by
        rcases hl : l.apply c with _ | l'
        · rfl
        · rcases hsucceeds.mpr ⟨l', hl⟩ with ⟨_, _, heq⟩
          cases heq
      rw [hnone]
      exact .rejected (h.mono hstore hmade)
  | changed hfulfilled hanswered heffect =>
      rcases hsucceeds.mp ⟨_, _, rfl⟩ with ⟨l', hl⟩
      rw [hl]
      exact .accepted (hchange hl hfulfilled hanswered heffect hminted)

/-- Both sides agree when all that the plain ledger accepts are requests, and on all requests. -/
theorem agrees (h : Represents r w l)
    (hrequest : ∀ l', l.apply c = some l' → ∃ q, r.request c = .ok q)
    (hagrees : ∀ q, r.request c = .ok q →
      Agrees r l ((r.apply settings c).runAlone w) (l.apply c)) :
    Agrees r l ((r.apply settings c).runAlone w) (l.apply c) := by
  rcases hr : r.request c with e | q
  · refine h.agrees_of_error hr (Option.eq_none_iff_forall_ne_some.mpr fun l' hl' => ?_)
    rcases hrequest l' hl' with ⟨q, hq⟩
    cases hr.symm.trans hq
  · exact hagrees q hr

/-- A sum that is a decimal is not out of range. -/
theorem not_outOfRange {q : ℚ} (h : Representable q) : ¬ OutOfRange q := by
  rcases h with ⟨x, rfl⟩
  exact not_outOfRange_toRat x

/-- A posting is carried out on both sides when nothing speaks against it, because all sums are
    decimals. -/
theorem agrees_of_posting (h : Represents r w l) {q : Request} {p : Posting}
    (hrequest : r.request c = .ok q) (hq : q.isMutating = true)
    (hposting : q.posting? w.store = some p)
    (hadmitted : q.Admitted w p ↔ ∃ l', l.apply c = some l')
    (hsums : ∀ {l'}, l.apply c = some l' → ∀ field ∈ p.fields, Representable (p.sum field))
    (hchange : ∀ {l' answer v time call reply}, l.apply c = some l' →
      q.FulfilledBy settings call → call.Answered reply answer →
      w.store.Effect time call v.store → v.Minted → Represents (r.remember c answer) v l') :
    Agrees r l ((r.apply settings c).runAlone w) (l.apply c) := by
  refine h.agrees_of_request hrequest hq ?_ hchange
  rw [Request.succeeds_posting_iff settings hposting, hadmitted, and_iff_left_iff_imp]
  rintro ⟨l', hl'⟩ ⟨field, hfield, hout⟩
  exact not_outOfRange (hsums hl' field hfield) hout

/-- Money moves on both sides when nothing speaks against it. -/
theorem agrees_move (h : Represents r w l) {q : Request} {id : AccountId} {a : Account}
    {x : AliasAccount} {delta : Decimal} (hrequest : r.request c = .ok q)
    (hq : q.isMutating = true) (hremember : ∀ answer, r.remember c answer = r)
    (hid : r.accounts.lookup c.account = some id) (ha : w.store.accounts.get? id = some a)
    (hx : l.accounts.get? c.account = some x) (hshows : a.Shows l.reserved x)
    (hposting : q.posting? w.store = some (.move a delta))
    (hfulfilled : ∀ call, q.FulfilledBy settings call → call = .applyDelta id delta)
    (happly : ∀ l', l.apply c = some l' ↔ q.Admitted w (.move a delta) ∧
      l.put { x with balance := x.balance + delta.toRat } = l')
    (hguard : q.Admitted w (.move a delta) → 0 ≤ x.balance + delta.toRat)
    (hfits : ∀ l', l.apply c = some l' → l'.Fits) :
    Agrees r l ((r.apply settings c).runAlone w) (l.apply c) := by
  -- The sums of an accepted command are balances of the plain ledger afterwards.
  have hsums {l'} (hl' : l.apply c = some l') : Representable (a.balance.toRat + delta.toRat) ∧
      Representable (a.available.toRat + delta.toRat) := by
    rcases (happly l').mp hl' with ⟨_, rfl⟩
    have hfit := hfits _ hl' c.account
      { x with balance := x.balance + delta.toRat } (AliasLedger.get?_put_self hx rfl)
    have hname : x.name = c.account := Table.key_of_get? hx
    rw [hshows.balance_eq, hshows.available_eq, hname, sub_add_eq_add_sub]
    exact hfit
  refine h.agrees_of_posting hrequest hq hposting ?_ (fun hl' => ?_) ?_
  · simp only [happly, exists_and_left, exists_eq', and_true]
  · exact List.forall_mem_cons.mpr ⟨(hsums hl').1, List.forall_mem_singleton.mpr (hsums hl').2⟩
  · intro l' answer v time call reply hl' hcall _ heffect hminted
    have hbalance' := (hsums hl').1
    have havailable' := (hsums hl').2
    rcases (happly l').mp hl' with ⟨hadmitted, rfl⟩
    rw [hfulfilled call hcall] at heffect
    rcases Request.move_writes heffect with ⟨a', balance, available, ha', hbalance, havailable, hs⟩
    cases ha.symm.trans ha'
    rw [hremember]
    refine h.put hid ha hx hs rfl rfl
      ⟨hshows.kind_eq, hshows.status_eq, ?_, ?_, hguard hadmitted⟩ hminted
    · exact ((add?_exact_iff hbalance).mpr hbalance').trans (by rw [hshows.balance_eq])
    · exact ((add?_exact_iff havailable).mpr havailable').trans
        (by rw [hshows.available_eq, sub_add_eq_add_sub])

-- The plain ledger asks for no balance here: one that is not below zero cannot get there by adding.
theorem agrees_credit (h : Represents r w l) (hop : c.op = .credit)
    (hfits : ∀ l', l.apply c = some l' → l'.Fits) :
    Agrees r l ((r.apply settings c).runAlone w) (l.apply c) := by
  have hl : l.apply c = l.credit c := by simp only [AliasLedger.apply, hop]
  refine h.agrees (fun l' hl' => ?_) fun q hq => ?_
  · rcases AliasLedger.credit_eq_some_iff.mp (hl ▸ hl') with ⟨x, d, hx, _, hd, _⟩
    rcases h.accounts.lookup_of_known hx with ⟨id, hid⟩
    exact ⟨_, (Runner.request_move_iff (.inl ⟨hop, rfl⟩)).mpr ⟨id, d, hid, hd, rfl⟩⟩
  · rcases (Runner.request_move_iff (.inl ⟨hop, rfl⟩)).mp hq with ⟨id, d, hid, hd, rfl⟩
    rcases h.accounts.row_of_lookup hid with ⟨a, x, ha, hx, hshows⟩
    have hguard : 0 < d.toRat → 0 ≤ x.balance + d.toRat := fun hpos =>
      add_nonneg hshows.balance_nonneg hpos.le
    refine h.agrees_move hq rfl (fun _ => ?_) hid ha hx hshows
      (Option.map_eq_some_iff.mpr ⟨a, ha, rfl⟩) (fun call hcall => ?_) (fun l' => ?_)
      (fun hadmitted => hguard hadmitted.1) hfits
    · simp only [Runner.remember, hop]
    · cases hcall with
      | credited hamount => rw [((Amount.ofDecimal_eq_ok_iff _ _).mp hamount).2]
    · rw [hl, AliasLedger.credit_eq_some_iff]
      constructor
      · rintro ⟨x', d', hx', hactive, hd', hpos, rfl⟩
        cases hx.symm.trans hx'
        cases hd.symm.trans hd'
        refine ⟨⟨hpos, hshows.status_eq.trans hactive, ?_⟩, rfl⟩
        exact (hguard hpos).trans_eq (by rw [← hshows.balance_eq]; rfl)
      · rintro ⟨⟨hpos, hactive, _⟩, rfl⟩
        exact ⟨x, d, hx, hshows.status_eq.symm.trans hactive, hd, hpos, rfl⟩

theorem agrees_debit (h : Represents r w l) (hop : c.op = .debit)
    (hfits : ∀ l', l.apply c = some l' → l'.Fits) :
    Agrees r l ((r.apply settings c).runAlone w) (l.apply c) := by
  have hl : l.apply c = l.debit c := by simp only [AliasLedger.apply, hop]
  refine h.agrees (fun l' hl' => ?_) fun q hq => ?_
  · rcases AliasLedger.debit_eq_some_iff.mp (hl ▸ hl') with ⟨x, d, hx, _, hd, _⟩
    rcases h.accounts.lookup_of_known hx with ⟨id, hid⟩
    exact ⟨_, (Runner.request_move_iff (.inr ⟨hop, rfl⟩)).mpr ⟨id, d, hid, hd, rfl⟩⟩
  · rcases (Runner.request_move_iff (.inr ⟨hop, rfl⟩)).mp hq with ⟨id, d, hid, hd, rfl⟩
    rcases h.accounts.row_of_lookup hid with ⟨a, x, ha, hx, hshows⟩
    have hsum : (Posting.move a (-d)).sum Account.balance = x.balance + (-d).toRat := by
      rw [← hshows.balance_eq]
      rfl
    have hguard : 0 ≤ x.balance + (-d).toRat ↔ d.toRat ≤ x.balance := by
      rw [toRat_neg, ← sub_eq_add_neg, sub_nonneg]
    refine h.agrees_move hq rfl (fun _ => ?_) hid ha hx hshows
      (Option.map_eq_some_iff.mpr ⟨a, ha, rfl⟩) (fun call hcall => ?_) (fun l' => ?_)
      (fun hadmitted => hadmitted.2.2.trans_eq hsum) hfits
    · simp only [Runner.remember, hop]
    · cases hcall with
      | debited hamount => rw [((Amount.ofDecimal_eq_ok_iff _ _).mp hamount).2]
    · rw [hl, AliasLedger.debit_eq_some_iff, toRat_neg, ← sub_eq_add_neg]
      constructor
      · rintro ⟨x', d', hx', hactive, hd', hpos, hle, rfl⟩
        cases hx.symm.trans hx'
        cases hd.symm.trans hd'
        exact ⟨⟨hpos, hshows.status_eq.trans hactive, (hguard.mpr hle).trans_eq hsum.symm⟩, rfl⟩
      · rintro ⟨⟨hpos, hactive, hle⟩, rfl⟩
        exact ⟨x, d, hx, hshows.status_eq.symm.trans hactive, hd, hpos,
          hguard.mp (hle.trans_eq hsum), rfl⟩

section Holds

variable {id : AccountId} {a : Account} {x : AliasAccount}

theorem sum_available {name : String} (hx : l.accounts.get? name = some x)
    (hshows : a.Shows l.reserved x) (y : Decimal) :
    (Posting.aside a y).sum Account.available = x.balance - l.reserved name + y.toRat := by
  rw [← (Table.key_of_get? hx : x.name = name), ← hshows.available_eq]
  rfl

/-- A hold is accepted by the plain ledger when nothing speaks against the request. -/
theorem apply_hold_iff (h : Represents r w l) {d : Decimal} {name reason : String}
    (hop : c.op = .hold) (hroom : w.made < Uuid.serials) (hd : c.amount = some d)
    (hname : c.reference = some name) (hne : name ≠ "") (hreason : c.detail = some reason)
    (hx : l.accounts.get? c.account = some x) (hshows : a.Shows l.reserved x)
    (id : AccountId) (l' : AliasLedger) : l.apply c = some l' ↔
      (Request.createHold ⟨id, d, reason, some name, none⟩).Admitted w (.aside a (-d)) ∧
        ∃ holds, l.holds.insert? ⟨name, c.account, d.toRat, false⟩ = some holds ∧
          { l with holds := holds } = l' := by
  have hguard : 0 ≤ (Posting.aside a (-d)).sum Account.available ↔
      d.toRat ≤ x.balance - l.reserved c.account := by
    rw [sum_available hx hshows, toRat_neg, ← sub_eq_add_neg, sub_nonneg]
  simp only [AliasLedger.apply, hop, AliasLedger.hold_eq_some_iff]
  constructor
  · rintro ⟨x', d', name', reason', holds, hx', hactive, hd', hpos, hname', _, hreason', hblank,
      hins, hle, rfl⟩
    cases hx.symm.trans hx'
    cases hd.symm.trans hd'
    cases hname.symm.trans hname'
    cases hreason.symm.trans hreason'
    -- The clock is read twice before the identifier is made, and that makes none.
    have hfree := (h.minted.mono (v := w.tick.2.tick.2) rfl (Nat.le_refl _)).hold_free hroom
    exact ⟨⟨hpos, (Ledger.checkReason_eq_ok_iff _).mpr hblank, rfl,
      hshows.status_eq.trans hactive, hfree, hguard.mpr hle⟩, holds, hins, rfl⟩
  · rintro ⟨⟨hpos, hblank, _, hactive, _, hle⟩, holds, hins, rfl⟩
    exact ⟨x, d, name, reason, holds, hx, hshows.status_eq.symm.trans hactive, hd, hpos, hname,
      hne, hreason, (Ledger.checkReason_eq_ok_iff _).mp hblank, hins, hguard.mp hle, rfl⟩

theorem agrees_hold (h : Represents r w l) (hop : c.op = .hold) (hroom : w.made < Uuid.serials)
    (hfits : ∀ l', l.apply c = some l' → l'.Fits) :
    Agrees r l ((r.apply settings c).runAlone w) (l.apply c) := by
  refine h.agrees (fun l' hl' => ?_) fun q hq => ?_
  · simp only [AliasLedger.apply, hop, AliasLedger.hold_eq_some_iff] at hl'
    rcases hl' with
      ⟨x, d, name, reason, holds, hx, _, hd, _, hname, hne, hreason, hblank, hins, _⟩
    rcases h.accounts.lookup_of_known hx with ⟨id, hid⟩
    have hfree := h.holds.lookup_eq_none_iff.mpr (Table.get?_eq_none_of_insert? hins)
    have hsaid : reason ≠ "" := by
      rintro rfl
      cases hblank
    exact ⟨_, (Runner.request_hold_iff hop).mpr
      ⟨id, d, name, reason, hid, hd, hname, hne, hfree, hreason, hsaid, rfl⟩⟩
  · rcases (Runner.request_hold_iff hop).mp hq with
      ⟨id, d, name, reason, hid, hd, hname, hne, hfree, hreason, _, rfl⟩
    rcases h.accounts.row_of_lookup hid with ⟨a, x, ha, hx, hshows⟩
    have happly := h.apply_hold_iff hop hroom hd hname hne hreason hx hshows id
    have hleft {holds} (hins : l.holds.insert? ⟨name, c.account, d.toRat, false⟩ = some holds) :
        x.balance - ({ l with holds := holds } : AliasLedger).reserved c.account
          = (Posting.aside a (-d)).sum Account.available := by
      rw [AliasLedger.reserved_hold hins, AliasHold.share, if_pos ⟨rfl, rfl⟩,
        sum_available hx hshows, toRat_neg]
      ring
    have hsum {l'} (hl' : l.apply c = some l') :
        Representable ((Posting.aside a (-d)).sum Account.available) := by
      rcases (happly l').mp hl' with ⟨_, holds, hins, rfl⟩
      rw [← hleft hins]
      exact (hfits _ hl' c.account x hx).2
    refine h.agrees_of_posting hq rfl (Option.map_eq_some_iff.mpr ⟨a, ha, rfl⟩) ?_
      (fun hl' => List.forall_mem_singleton.mpr (hsum hl')) ?_
    · have hins : ∃ holds, l.holds.insert? ⟨name, c.account, d.toRat, false⟩ = some holds :=
        Table.exists_insert? (h.holds.lookup_eq_none_iff.mp hfree)
      rcases hins with ⟨holds, hins⟩
      simp only [happly, hins, Option.some.injEq, exists_eq_left', exists_and_left, exists_eq',
        and_true]
    · intro l' answer v time call reply hl' hcall hanswered heffect hminted
      have hexact := hsum hl'
      rcases (happly l').mp hl' with ⟨_, known, hins, rfl⟩
      rcases Request.createHold_writes hcall hanswered heffect with
        ⟨g, a', holds, available, rfl, hgaccount, _, hgamount, hgactive, _, ha', hholds, hadd, hs⟩
      cases ha.symm.trans ha'
      have hgk : Hold.Shows r.accounts g ⟨name, c.account, d.toRat, false⟩ :=
        ⟨hid.trans (congrArg some hgaccount.symm), congrArg toRat hgamount, hgactive⟩
      simp only [Runner.remember, hop, hname, Option.getD_some]
      refine h.hold (k := ⟨name, c.account, d.toRat, false⟩) hid ha hx hne hgk hholds hins hs rfl
        ⟨hshows.kind_eq, hshows.status_eq, hshows.balance_eq, ?_, hshows.balance_nonneg⟩ hminted
      rw [(Table.key_of_get? hx : x.name = c.account), hleft hins]
      exact (add?_exact_iff hadd).mpr hexact

theorem agrees_release (h : Represents r w l) (hop : c.op = .release)
    (hfits : ∀ l', l.apply c = some l' → l'.Fits) :
    Agrees r l ((r.apply settings c).runAlone w) (l.apply c) := by
  refine h.agrees (fun l' hl' => ?_) fun q hq => ?_
  · simp only [AliasLedger.apply, hop, AliasLedger.release_eq_some_iff] at hl'
    rcases hl' with ⟨name, k, hname, hk, _⟩
    rcases h.holds.lookup_of_known hk with ⟨i, hi⟩
    have hne : name ≠ "" := by
      rintro rfl
      rw [h.named] at hi
      cases hi
    exact ⟨_, (Runner.request_release_iff hop).mpr ⟨name, i, hname, hne, hi, rfl⟩⟩
  · rcases (Runner.request_release_iff hop).mp hq with ⟨name, i, hname, _, hi, rfl⟩
    rcases h.holds.row_of_lookup hi with ⟨g, k, hg, hk, hgk⟩
    rcases h.accounts.row_of_lookup hgk.account_eq with ⟨a, x, ha, hx, hshows⟩
    obtain rfl : k.name = name := Table.key_of_get? hk
    have happly (l') : l.apply c = some l' ↔ k.released = false ∧
        { l with holds := l.holds.replace { k with released := true } } = l' := by
      simp only [AliasLedger.apply, hop, AliasLedger.release_eq_some_iff, hname, hk,
        Option.some.injEq, exists_and_left, exists_eq_left']
    have hleft (hunreleased : k.released = false) : x.balance -
        ({ l with holds := l.holds.replace { k with released := true } } : AliasLedger).reserved
          k.account = (Posting.aside a g.amount.value).sum Account.available := by
      rw [AliasLedger.reserved_release hk, AliasHold.share, if_pos ⟨rfl, hunreleased⟩,
        sum_available hx hshows, hgk.amount_eq]
      ring
    have hsum {l'} (hl' : l.apply c = some l') :
        Representable ((Posting.aside a g.amount.value).sum Account.available) := by
      rcases (happly l').mp hl' with ⟨hunreleased, rfl⟩
      rw [← hleft hunreleased]
      exact (hfits _ hl' k.account x hx).2
    refine h.agrees_of_posting hq rfl
      (Option.bind_eq_some_iff.mpr ⟨g, hg, Option.map_eq_some_iff.mpr ⟨a, ha, rfl⟩⟩) ?_
      (fun hl' => List.forall_mem_singleton.mpr (hsum hl')) ?_
    · simp only [Request.Admitted, hg, hgk.isActive_eq, happly, Option.some.injEq,
        exists_eq_left', Bool.not_eq_true', exists_and_left, exists_eq', and_true]
    · intro l' answer v time call reply hl' hcall _ heffect hminted
      have hexact := hsum hl'
      rcases (happly l').mp hl' with ⟨hunreleased, rfl⟩
      rcases Request.releaseHold_writes hcall heffect with
        ⟨g', a', available, time', hg', ha', hadd, hs⟩
      cases hg.symm.trans hg'
      cases ha.symm.trans ha'
      simp only [Runner.remember, hop]
      refine h.release hi hg hk hgk hgk.account_eq ha hx hs rfl
        ⟨hshows.kind_eq, hshows.status_eq, hshows.balance_eq, ?_, hshows.balance_nonneg⟩ hminted
      rw [(Table.key_of_get? hx : x.name = k.account), hleft hunreleased]
      exact (add?_exact_iff hadd).mpr hexact

end Holds

/-- The statuses change as the table of the plain ledger says. -/
theorem transition_iff {a : Account} {action : Action} {status : Status} :
    a.transition action = .ok status ↔ AliasLedger.next? action a.status = some status ∧
      (action = .close → a.balance.toRat = 0) := by
  rw [Account.transition_eq_ok_iff, ← isZero_iff]
  cases action with
  | freeze => cases a.status <;> cases status <;> simp [AliasLedger.next?]
  | unfreeze => cases a.status <;> cases status <;> simp [AliasLedger.next?]
  | close => cases a.status <;> cases status <;> simp [AliasLedger.next?]

theorem agrees_changeStatus (h : Represents r w l) (action : Action)
    (hrequest : r.request c = (r.account c.account).map (.changeStatus action))
    (happly : l.apply c = l.changeStatus action c)
    (hremember : ∀ answer, r.remember c answer = r) :
    Agrees r l ((r.apply settings c).runAlone w) (l.apply c) := by
  refine h.agrees (fun l' hl' => ?_) fun q hq => ?_
  · rw [happly, AliasLedger.changeStatus_eq_some_iff] at hl'
    rcases hl' with ⟨x, _, hx, _⟩
    rcases h.accounts.lookup_of_known hx with ⟨id, hid⟩
    rw [hrequest, (r.account_eq_ok_iff _ _).mpr hid]
    exact ⟨_, rfl⟩
  · rcases (map_eq_ok_iff _ _ _).mp (hrequest ▸ hq) with ⟨id, hid, rfl⟩
    rw [Runner.account_eq_ok_iff] at hid
    rcases h.accounts.row_of_lookup hid with ⟨a, x, ha, hx, hshows⟩
    have hstatus (status : Status) : a.transition action = .ok status ↔
        AliasLedger.next? action x.status = some status ∧ (action = .close → x.balance = 0) := by
      rw [transition_iff, hshows.status_eq, hshows.balance_eq]
    refine h.agrees_of_request hq rfl ?_ ?_
    · rw [Request.succeeds_changeStatus_iff, happly]
      constructor
      · rintro ⟨a', status, ha', hnext⟩
        cases ha.symm.trans ha'
        rcases (hstatus status).mp hnext with ⟨hnext, hzero⟩
        exact ⟨_, AliasLedger.changeStatus_eq_some_iff.mpr ⟨x, status, hx, hnext, hzero, rfl⟩⟩
      · rintro ⟨l', hl'⟩
        rcases AliasLedger.changeStatus_eq_some_iff.mp hl' with ⟨x', status, hx', hnext, hzero, _⟩
        cases hx.symm.trans hx'
        exact ⟨a, status, ha, (hstatus status).mpr ⟨hnext, hzero⟩⟩
    · intro l' answer v time call reply hl' hcall _ heffect hminted
      rw [happly, AliasLedger.changeStatus_eq_some_iff] at hl'
      rcases hl' with ⟨x', status, hx', hnext, hzero, rfl⟩
      cases hx.symm.trans hx'
      rcases Request.changeStatus_writes hcall heffect with
        ⟨a', status', _, _, ha', hnext', hs⟩
      cases ha.symm.trans ha'
      cases ((hstatus status).mpr ⟨hnext, hzero⟩).symm.trans hnext'
      rw [hremember]
      exact h.put hid ha hx hs rfl rfl ⟨hshows.kind_eq, rfl, hshows.balance_eq,
        hshows.available_eq, hshows.balance_nonneg⟩ hminted

theorem kindOf_eq_ok_iff (detail : Option String) (kind : AccountKind) :
    Runner.kindOf detail = .ok kind ↔ AliasLedger.kind? detail = some kind := by
  unfold Runner.kindOf AliasLedger.kind?
  cases detail with
  | none => simp
  | some s =>
      by_cases hs : s = ""
      · simp [hs]
      · simp only [String.isEmpty_iff, hs, if_false]
        cases AccountKind.parse s with
        | error e => simp [Except.toOption]
        | ok k => simp [Except.toOption]

-- The kind is checked on both sides, so a request is made for those commands only that are
-- accepted, and all that can stop it is the search for a number.
theorem agrees_open (h : Represents r w l) (hop : c.op = .open)
    (hroom : ((r.apply settings c).runAlone w).2.made < Uuid.serials)
    (hdraws : ∀ l', l.apply c = some l' → w.DrawsUnused settings.numberAttempts) :
    Agrees r l ((r.apply settings c).runAlone w) (l.apply c) := by
  have happly : l.apply c = l.openAccount c := by simp only [AliasLedger.apply, hop]
  refine h.agrees (fun l' hl' => ?_) fun q hq => ?_
  · rw [happly, AliasLedger.openAccount_eq_some_iff] at hl'
    rcases hl' with ⟨kind, accounts, hkind, hins, _⟩
    have hfree := h.accounts.lookup_eq_none_iff.mpr (Table.get?_eq_none_of_insert? hins)
    exact ⟨_, (Runner.request_open_iff hop).mpr
      ⟨hfree, kind, (kindOf_eq_ok_iff _ _).mpr hkind, rfl⟩⟩
  · rcases (Runner.request_open_iff hop).mp hq with ⟨hfree, kind, hkind, rfl⟩
    have hins : ∃ known, l.accounts.insert? ⟨c.account, kind, .active, 0⟩ = some known :=
      Table.exists_insert? (h.accounts.lookup_eq_none_iff.mp hfree)
    rcases hins with ⟨known, hins⟩
    have hl : l.apply c = some { l with accounts := known } := happly.trans
      (AliasLedger.openAccount_eq_some_iff.mpr
        ⟨kind, known, (kindOf_eq_ok_iff _ _).mp hkind, hins, rfl⟩)
    refine h.agrees_of_request hq rfl ?_ ?_
    · refine iff_of_true (Request.succeeds_openAccount rfl rfl (hdraws _ hl) h.minted ?_) ⟨_, hl⟩
      rw [Runner.runAlone_apply, hq] at hroom
      exact hroom.le
    · intro l' answer v time call reply hl' hcall hanswered heffect hminted
      cases hl.symm.trans hl'
      rcases Request.openAccount_writes hcall hanswered heffect with
        ⟨a, index, accounts, rfl, _, hkind', hstatus, hbalance, havailable, _, haccounts, hs⟩
      simp only [Runner.remember, hop]
      refine h.openAccount hfree haccounts hins ⟨hkind', hstatus, ?_, ?_, le_refl 0⟩
        (by rw [hs]) (by rw [hs]) hminted
      · rw [hbalance, toRat_zero]
      · rw [havailable, toRat_zero, h.reserved_of_unknown hfree, sub_zero]

/-- Both sides agree on every command. -/
theorem agrees_apply (h : Represents r w l)
    (hroom : ((r.apply settings c).runAlone w).2.made < Uuid.serials)
    (hfits : ∀ l', l.apply c = some l' → l'.Fits)
    (hdraws : c.op = .open → ∀ l', l.apply c = some l' → w.DrawsUnused settings.numberAttempts) :
    Agrees r l ((r.apply settings c).runAlone w) (l.apply c) := by
  cases hop : c.op with
  | «open» => exact h.agrees_open hop hroom (hdraws hop)
  | credit => exact h.agrees_credit hop hfits
  | debit => exact h.agrees_debit hop hfits
  | hold =>
      have hmade := Program.made_le_runAlone (r.apply settings c) w
      exact h.agrees_hold hop (Nat.lt_of_le_of_lt hmade hroom) hfits
  | release => exact h.agrees_release hop hfits
  | freeze =>
      exact h.agrees_changeStatus .freeze (by simp only [Runner.request, hop])
        (by simp only [AliasLedger.apply, hop]) fun _ => by simp only [Runner.remember, hop]
  | unfreeze =>
      exact h.agrees_changeStatus .unfreeze (by simp only [Runner.request, hop])
        (by simp only [AliasLedger.apply, hop]) fun _ => by simp only [Runner.remember, hop]
  | close =>
      exact h.agrees_changeStatus .close (by simp only [Runner.request, hop])
        (by simp only [AliasLedger.apply, hop]) fun _ => by simp only [Runner.remember, hop]

end Represents

end BankLedger
