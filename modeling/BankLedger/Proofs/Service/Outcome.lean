import BankLedger.Proofs.Service.Conduct
import BankLedger.Proofs.Service.Posting

/-!
# Requests That Run Alone

What a request may do on any schedule it may do alone, and alone more can be said: whether it
succeeds, and that the store afterwards is the one before, except for the change of the request.

## Main definitions

* `Request.Outcome`: What comes of a request that runs alone.
* `Request.Succeeds`: The request is not refused.

## Theorems

* `outcome`: A request that runs alone makes its change or none.
* `succeeds_posting_iff`: When money is moved, set aside or given back.
* `succeeds_changeStatus_iff`: When a status changes.
* `openAccount_writes`, `changeStatus_writes`, `move_writes`, `createHold_writes`,
  `releaseHold_writes`: What the change of a request is.
-/

namespace BankLedger

namespace World

variable {w : World} {c : Call}

theorem ask_of_perform {reply : c.Reply} {s : Store}
    (h : w.store.perform w.clock c = .ok (reply, s)) :
    w.ask c = (.ok reply, { w.tick.2 with store := s }) := by
  unfold ask
  simp only [tick, h]

theorem ask_of_refused {e : LedgerError} (h : w.store.perform w.clock c = .error e) :
    w.ask c = (.error e, w.tick.2) := by
  unfold ask
  simp only [tick, h]

end World

namespace Program

variable {α β : Type}

/-- A call that the store carries out is followed by what comes next. -/
theorem runAlone_ask_bind {w : World} {c : Call} {reply : c.Reply} {s : Store}
    (h : w.store.perform w.clock c = .ok (reply, s)) (f : c.Reply → Program α) :
    (ask c >>= f).runAlone w = (f reply).runAlone { w.tick.2 with store := s } := by
  unfold ask
  rw [runAlone_bind, runAlone_call, World.ask_of_perform h, runAlone_done]

/-- An answer that is only rewritten. -/
theorem runAlone_map (p : Program α) (f : α → β) (w : World) :
    (p >>= fun a => pure (f a)).runAlone w = ((p.runAlone w).1.map f, (p.runAlone w).2) := by
  rw [runAlone_bind]
  rcases p.runAlone w with ⟨e | a, v⟩
  · rfl
  · rfl

end Program

namespace Request

variable (settings : Settings)

/-- What comes of a request that runs alone and is meant to change something. -/
inductive Outcome (r : Request) (w : World) : Except LedgerError Answer × World → Prop where
  /-- It is refused, and nothing is written. -/
  | refused {e : LedgerError} {v : World} (hstore : v.store = w.store) :
      Outcome r w (.error e, v)
  /-- Its change is made, and nothing else is written. -/
  | changed {answer : Answer} {v : World} {time : Instant} {c : Call} {reply : c.Reply}
      (hfulfilled : r.FulfilledBy settings c) (hanswered : c.Answered reply answer)
      (heffect : w.store.Effect time c v.store) : Outcome r w (.ok answer, v)

-- What the request did is known from its deeds, and when it runs alone the store afterwards is what
-- these deeds have made of it.
/-- A request that runs alone makes its change or none. -/
theorem outcome {r : Request} (hr : r.isMutating = true) (w : World) :
    r.Outcome settings w ((r.program settings).runAlone w) := by
  rcases Program.exists_deeds_runAlone (r.keeps settings) w with ⟨more, hends, hchanged⟩
  rw [List.nil_append] at hends
  rcases hrun : (r.program settings).runAlone w with ⟨e | answer, v⟩
  · rw [hrun] at hends hchanged
    rw [(hends.refused e rfl).1] at hchanged
    exact .refused hchanged.eq_of_nil
  · rw [hrun] at hends hchanged
    rcases (hends.changed answer rfl hr).1 with ⟨time, c, reply, honly, hfulfilled, hanswered⟩
    rw [honly.changes_eq] at hchanged
    exact .changed hfulfilled hanswered hchanged.effect

/-- The request is not refused when it runs alone. -/
def Succeeds (r : Request) (w : World) : Prop :=
  ∃ answer v, (r.program settings).runAlone w = (.ok answer, v)

/-- A posting succeeds when nothing speaks against it and its sums are in range. -/
theorem succeeds_posting_iff {w : World} {r : Request} {p : Posting}
    (hp : r.posting? w.store = some p) :
    r.Succeeds settings w ↔ r.Admitted w p ∧ ¬ p.Overflows := by
  have hserved := served settings hp
  unfold Succeeds
  generalize (r.program settings).runAlone w = out at hserved
  rcases out with ⟨e | answer, v⟩
  · simp only [Prod.mk.injEq, reduceCtorEq, false_and, exists_false, false_iff]
    exact fun h => h.2 (hserved.of_error.2 h.1).1
  · simp only [Prod.mk.injEq, Except.ok.injEq, exists_and_left, exists_eq', and_true, true_iff]
    exact ⟨hserved.of_ok.1, hserved.of_ok.2.1⟩

/-- A status changes when the account is there and the action leads to a status. -/
theorem succeeds_changeStatus_iff {action : Action} {id : AccountId} {w : World} :
    (changeStatus action id).Succeeds settings w ↔
      ∃ a status, w.store.accounts.get? id = some a ∧ a.transition action = .ok status := by
  constructor
  · rintro ⟨answer, v, hrun⟩
    have houtcome := outcome settings (r := changeStatus action id) rfl w
    rw [hrun] at houtcome
    cases houtcome with
    | changed hfulfilled _ heffect =>
        cases hfulfilled with
        | acted =>
            generalize v.store = s at heffect
            cases heffect with
            | looked hc => cases hc
            | acted ha hb =>
                rcases (Account.apply_eq_ok_iff _ _ _ _).mp hb with ⟨status, hstatus, _⟩
                exact ⟨_, status, ha, hstatus⟩
  · rintro ⟨a, status, ha, hstatus⟩
    have hb := (Account.apply_eq_ok_iff a _ action w.clock).mpr ⟨status, hstatus, rfl⟩
    have hperform : w.tick.2.store.perform w.tick.2.clock (.changeStatus id action w.clock)
        = .ok (_, _) :=
      (Store.changeAccount_eq_ok_iff _ _ _ _ _).mpr ⟨a, ha, hb, rfl⟩
    -- What follows the call only announces an event.
    have hrun : (Ledger.changeStatus action id).runAlone w = (.ok _, _) :=
      (Program.runAlone_ask_bind hperform _).trans rfl
    exact ⟨.account _, _, (Program.runAlone_map _ _ _).trans (by rw [hrun]; rfl)⟩

section Changes

variable {settings} {call : Call} {reply : call.Reply} {answer : Answer} {s t : Store}
  {now : Instant}

/-- What opening an account writes. -/
theorem openAccount_writes {request : OpenRequest}
    (hfulfilled : (openAccount request).FulfilledBy settings call)
    (hanswered : call.Answered reply answer) (heffect : s.Effect now call t) :
    ∃ a index accounts, answer = .account a ∧ a.customer = request.customer ∧
      a.kind = request.kind ∧ a.status = .active ∧ a.balance = .zero ∧ a.available = .zero ∧
      call = .createAccount a ∧ s.accounts.insert? a = some accounts ∧
      t = { s with accounts := accounts, index := index } := by
  cases hfulfilled with
  | opened _ _ =>
      cases heffect with
      | looked hlooked => cases hlooked
      | opened _ haccounts =>
          exact ⟨_, _, _, hanswered, rfl, rfl, rfl, rfl, rfl, rfl, haccounts, rfl⟩

/-- What a change of status writes. -/
theorem changeStatus_writes {action : Action} {id : AccountId}
    (hfulfilled : (changeStatus action id).FulfilledBy settings call)
    (heffect : s.Effect now call t) : ∃ a status time closedAt, s.accounts.get? id = some a ∧
      a.transition action = .ok status ∧
      t = s.setAccount { a with status := status, closedAt := closedAt, updatedAt := time } := by
  cases hfulfilled with
  | acted =>
      cases heffect with
      | looked hlooked => cases hlooked
      | acted ha hb =>
          rcases (Account.apply_eq_ok_iff _ _ _ _).mp hb with ⟨status, hstatus, rfl⟩
          exact ⟨_, status, _, _, ha, hstatus, rfl⟩

/-- What a movement of money writes. -/
theorem move_writes {id : AccountId} {delta : Decimal}
    (heffect : s.Effect now (.applyDelta id delta) t) :
    ∃ a balance available, s.accounts.get? id = some a ∧ a.balance.add? delta = some balance ∧
      a.available.add? delta = some available ∧
      t = s.setAccount { a with balance := balance, available := available, updatedAt := now } := by
  cases heffect with
  | looked hlooked => cases hlooked
  | moved ha hb =>
      rcases (Account.applyDelta_eq_ok_iff _ _ _ _).mp hb with
        ⟨balance, available, hbalance, _, havailable, rfl⟩
      exact ⟨_, balance, available, ha, hbalance, havailable, rfl⟩

/-- What setting money aside writes. -/
theorem createHold_writes {request : HoldRequest}
    (hfulfilled : (createHold request).FulfilledBy settings call)
    (hanswered : call.Answered reply answer) (heffect : s.Effect now call t) :
    ∃ g a holds available, answer = .hold g ∧ g.account = request.account ∧
      g.reference = request.reference ∧ g.amount.value = request.amount ∧ g.isActive = true ∧
      call = .createHold g ∧
      s.accounts.get? request.account = some a ∧ s.holds.insert? g = some holds ∧
      a.available.add? (-request.amount) = some available ∧
      t = { s.setAccount { a with available := available, updatedAt := now } with
        holds := holds } := by
  cases hfulfilled with
  | held hamount _ _ =>
      have hvalue := ((Amount.ofDecimal_eq_ok_iff _ _).mp hamount).2
      cases heffect with
      | looked hlooked => cases hlooked
      | held ha hholds hb =>
          rcases (Account.reserve_eq_ok_iff _ _ _ _).mp hb with ⟨_, available, hsum, rfl⟩
          exact ⟨_, _, _, available, hanswered, rfl, rfl, hvalue, rfl, rfl, ha, hholds,
            hvalue ▸ hsum, rfl⟩

/-- What giving money back writes. -/
theorem releaseHold_writes {id : HoldId}
    (hfulfilled : (releaseHold id).FulfilledBy settings call) (heffect : s.Effect now call t) :
    ∃ g a available time, s.holds.get? id = some g ∧ s.accounts.get? g.account = some a ∧
      a.available.add? g.amount.value = some available ∧
      t = { s.setAccount { a with available := available, updatedAt := time } with
        holds := s.holds.replace { g with releasedAt := some time } } := by
  cases hfulfilled with
  | released =>
      cases heffect with
      | looked hlooked => cases hlooked
      | released hg ha _ hb =>
          rcases (Account.restore_eq_ok_iff _ _ _ _).mp hb with ⟨available, hsum, rfl⟩
          exact ⟨_, _, available, _, hg, ha, hsum, rfl⟩

end Changes

end Request

end BankLedger
