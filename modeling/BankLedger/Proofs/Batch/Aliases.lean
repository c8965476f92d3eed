import BankLedger.Batch.Runner
import BankLedger.Proofs.Service.Outcome
import BankLedger.Proofs.Sorted

/-!
# Commands as Requests

A command of a batch is a request in which accounts and holds are named by aliases. The runner puts
identifiers for the aliases, has the request served, and remembers what a new alias stands for. So
what is known of requests is known of commands, once it is known which request a command is.

A batch lets its runner carry each command out alone and keeps what came of it. Whatever is compared
with a batch is compared with this.

## Main definitions

* `Runner.request`: The request of a command, or why there is none.
* `Runner.remember`: What the runner knows once the request is answered.
* `Runner.Extends`: A runner knows what another one knows.
* `Batch.after`: A batch after a command.

## Theorems

* `Runner.extends_remember`: An alias that has a meaning keeps it.
* `Runner.apply_eq`: A command is carried out by having its request served.
* `Runner.runAlone_apply`: What comes of it when nobody else is there.
* `Runner.runAlone_reportRows`: The report shows the accounts that the aliases stand for.
* `Batch.next_ok`: A batch takes a command in by carrying it out alone.
-/

namespace BankLedger

namespace Runner

/-- The request of a command, or why there is none. -/
def request (r : Runner) (c : Command) : Except LedgerError Request :=
  match c.op with
  | .open =>
      if (r.accounts.lookup c.account).isSome then .error (.alreadyExists (.accountAlias c.account))
      else (kindOf c.detail).map fun kind => .openAccount ⟨r.customer, kind, none, none⟩
  | .credit => do return .credit (← r.account c.account) (← amountOf c)
  | .debit => do return .debit (← r.account c.account) (← amountOf c)
  | .hold => do
      let id ← r.account c.account
      let amount ← amountOf c
      let name ← required c.reference .noHoldAlias
      if (r.holds.lookup name).isSome then .error (.alreadyExists (.holdAlias name))
      else (required c.detail .noReason).map fun reason =>
        .createHold ⟨id, amount, reason, some name, none⟩
  | .release => do return .releaseHold (← r.hold (← required c.reference .noReleaseAlias))
  | .freeze => (r.account c.account).map (.changeStatus .freeze)
  | .unfreeze => (r.account c.account).map (.changeStatus .unfreeze)
  | .close => (r.account c.account).map (.changeStatus .close)

/-- What the runner knows once the request of a command is answered. -/
def remember (r : Runner) (c : Command) (answer : Answer) : Runner :=
  match c.op, answer with
  | .open, .account a => { r with accounts := Sorted.insert c.account a.id r.accounts }
  | .hold, .hold h => { r with holds := Sorted.insert (c.reference.getD "") h.id r.holds }
  | _, _ => r

theorem required_eq_ok_iff (text : Option String) (why : BadArgument) (s : String) :
    required text why = .ok s ↔ text = some s ∧ s ≠ "" := by
  unfold required
  cases text with
  | none => simp
  | some t =>
      by_cases h : t = ""
      · simp only [String.isEmpty_iff, h, if_true, reduceCtorEq, Option.some.injEq, false_iff]
        exact fun hs => hs.2 hs.1.symm
      · simp only [String.isEmpty_iff, h, if_false, Except.ok.injEq, Option.some.injEq]
        exact ⟨fun heq => ⟨heq, heq ▸ h⟩, And.left⟩

theorem account_eq_ok_iff (r : Runner) (name : String) (id : AccountId) :
    r.account name = .ok id ↔ r.accounts.lookup name = some id := by
  unfold account
  cases r.accounts.lookup name with
  | none => simp
  | some k => simp

theorem hold_eq_ok_iff (r : Runner) (name : String) (id : HoldId) :
    r.hold name = .ok id ↔ r.holds.lookup name = some id := by
  unfold hold
  cases r.holds.lookup name with
  | none => simp
  | some k => simp

theorem amountOf_eq_ok_iff (c : Command) (x : Decimal) :
    amountOf c = .ok x ↔ c.amount = some x := by
  unfold amountOf
  cases c.amount with
  | none => simp
  | some y => simp

section Requests

variable {r : Runner} {c : Command} {q : Request}

/-- Nothing is refused as taken that is not there. -/
theorem unless_taken_iff {α : Type} (taken : Option α) (e : LedgerError)
    (x : Except LedgerError Request) :
    (if taken.isSome = true then .error e else x) = .ok q ↔ taken = none ∧ x = .ok q := by
  rw [Attempt.check_eq_ok_iff, Option.not_isSome_iff_eq_none]

theorem request_open_iff (hop : c.op = .open) : r.request c = .ok q ↔
    r.accounts.lookup c.account = none ∧ ∃ kind, kindOf c.detail = .ok kind ∧
      .openAccount ⟨r.customer, kind, none, none⟩ = q := by
  unfold request
  rw [hop]
  simp [Attempt.map_eq_ok_iff, unless_taken_iff]

/-- A command that moves money names an account and an amount. -/
theorem request_move_iff {move : AccountId → Decimal → Request}
    (hop : c.op = .credit ∧ move = .credit ∨ c.op = .debit ∧ move = .debit) : r.request c = .ok q ↔
    ∃ id x, r.accounts.lookup c.account = some id ∧ c.amount = some x ∧ move id x = q := by
  have hrequest : r.request c = do return move (← r.account c.account) (← amountOf c) := by
    unfold request
    rcases hop with ⟨hop, rfl⟩ | ⟨hop, rfl⟩
    · rw [hop]
    · rw [hop]
  rw [hrequest]
  simp [Attempt.bind_eq_ok_iff, account_eq_ok_iff, amountOf_eq_ok_iff]

theorem request_hold_iff (hop : c.op = .hold) : r.request c = .ok q ↔
    ∃ id x name reason, r.accounts.lookup c.account = some id ∧ c.amount = some x ∧
      c.reference = some name ∧ name ≠ "" ∧ r.holds.lookup name = none ∧
      c.detail = some reason ∧ reason ≠ "" ∧
      .createHold ⟨id, x, reason, some name, none⟩ = q := by
  unfold request
  rw [hop]
  simp [Attempt.bind_eq_ok_iff, Attempt.map_eq_ok_iff, account_eq_ok_iff, amountOf_eq_ok_iff,
    required_eq_ok_iff, unless_taken_iff, and_assoc]

theorem request_release_iff (hop : c.op = .release) : r.request c = .ok q ↔
    ∃ name id, c.reference = some name ∧ name ≠ "" ∧ r.holds.lookup name = some id ∧
      .releaseHold id = q := by
  unfold request
  rw [hop]
  simp [Attempt.bind_eq_ok_iff, hold_eq_ok_iff, required_eq_ok_iff, and_assoc]

/-- A command that changes a status asks for this of the account that it names. -/
theorem request_status (h : r.request c = .ok q)
    (hop : c.op = .freeze ∨ c.op = .unfreeze ∨ c.op = .close) :
    ∃ action id, r.accounts.lookup c.account = some id ∧ .changeStatus action id = q := by
  have hexists {action : Action} (h : (r.account c.account).map (.changeStatus action) = .ok q) :
      ∃ action id, r.accounts.lookup c.account = some id ∧ .changeStatus action id = q := by
    rcases (Attempt.map_eq_ok_iff _ _ _).mp h with ⟨id, hid, hq⟩
    exact ⟨action, id, (account_eq_ok_iff r _ id).mp hid, hq⟩
  unfold request at h
  rcases hop with hop | hop | hop
  · rw [hop] at h
    exact hexists h
  · rw [hop] at h
    exact hexists h
  · rw [hop] at h
    exact hexists h

/-- Every command is meant to change something. -/
theorem isMutating_of_request (h : r.request c = .ok q) : q.isMutating = true := by
  cases hop : c.op with
  | «open» =>
      rcases (request_open_iff hop).mp h with ⟨_, _, _, rfl⟩
      rfl
  | credit =>
      rcases (request_move_iff (.inl ⟨hop, rfl⟩)).mp h with ⟨_, _, _, _, rfl⟩
      rfl
  | debit =>
      rcases (request_move_iff (.inr ⟨hop, rfl⟩)).mp h with ⟨_, _, _, _, rfl⟩
      rfl
  | hold =>
      rcases (request_hold_iff hop).mp h with ⟨_, _, _, _, _, _, _, _, _, _, _, rfl⟩
      rfl
  | release =>
      rcases (request_release_iff hop).mp h with ⟨_, _, _, _, _, rfl⟩
      rfl
  | freeze | unfreeze | close =>
      rcases request_status h (by simp [hop]) with ⟨_, _, _, rfl⟩
      rfl

end Requests

section Remembering

variable {r r' : Runner} {c : Command} {q : Request} {answer : Answer} {name : String}

@[simp] theorem customer_remember (r : Runner) (c : Command) (answer : Answer) :
    (r.remember c answer).customer = r.customer := by
  unfold remember
  split <;> rfl

/-- What an alias of an account stands for only changes when the alias is opened. -/
theorem lookup_remember (h : c.op = .open → name ≠ c.account) :
    (r.remember c answer).accounts.lookup name = r.accounts.lookup name := by
  unfold remember
  split
  · next hop => exact (Sorted.lookup_insert name).trans (if_neg (h hop).symm)
  · rfl
  · rfl

/-- What an alias of a hold stands for only changes when money is set aside for it. -/
theorem lookup_hold_remember (h : c.op = .hold → name ≠ c.reference.getD "") :
    (r.remember c answer).holds.lookup name = r.holds.lookup name := by
  unfold remember
  split
  · rfl
  · next hop => exact (Sorted.lookup_insert name).trans (if_neg (h hop).symm)
  · rfl

/-- The second runner knows what the first one knows, and maybe more. -/
structure Extends (r r' : Runner) : Prop where
  customer_eq : r'.customer = r.customer
  account : ∀ {name id}, r.accounts.lookup name = some id → r'.accounts.lookup name = some id
  hold : ∀ {name k}, r.holds.lookup name = some k → r'.holds.lookup name = some k

theorem Extends.refl (r : Runner) : r.Extends r := ⟨rfl, id, id⟩

theorem Extends.trans {r'' : Runner} (h : r.Extends r') (h' : r'.Extends r'') : r.Extends r'' where
  customer_eq := h'.customer_eq.trans h.customer_eq
  account hid := h'.account (h.account hid)
  hold hk := h'.hold (h.hold hk)

/-- Only aliases that are free are given a meaning. -/
theorem extends_remember (h : r.request c = .ok q) (answer : Answer) :
    r.Extends (r.remember c answer) where
  customer_eq := customer_remember r c answer
  account hid := by
    refine (lookup_remember fun hop heq => ?_).trans hid
    rw [heq, ((request_open_iff hop).mp h).1] at hid
    cases hid
  hold hk := by
    refine (lookup_hold_remember fun hop heq => ?_).trans hk
    rcases (request_hold_iff hop).mp h with ⟨_, _, other, _, _, _, hother, _, hfree, _⟩
    rw [heq, hother, Option.getD_some, hfree] at hk
    cases hk

end Remembering

open Program

variable (settings : Settings) (r : Runner) (w : World)

/-- What the runner knows in the end comes of the answer to its request. -/
theorem serve_eq {α : Type} (p : Program α) (answer : α → Answer) (known : Answer → Runner) :
    (p >>= fun a => pure (known (answer a)))
      = (p >>= fun a => pure (answer a)) >>= fun x => pure (known x) :=
  (bind_assoc p (fun a => pure (answer a)) fun x => pure (known x)).symm

/-- A check that is passed does not show. -/
theorem ofExcept_bind {α β : Type} (a : α) (f : α → Program β) : ofExcept (.ok a) >>= f = f a := rfl

theorem changeStatus_eq (action : Action) (c : Command)
    (hremember : ∀ answer, r.remember c answer = r) :
    r.changeStatus action c = ofExcept ((r.account c.account).map (Request.changeStatus action))
      >>= fun q => q.program settings >>= fun answer => pure (r.remember c answer) := by
  have hknown : r.remember c = fun _ => r := funext hremember
  unfold changeStatus
  rw [hknown]
  rcases r.account c.account with e | id
  · rfl
  · exact serve_eq (Ledger.changeStatus action id) .account fun _ => r

-- One case for each operation. Where an alias or another argument is missing both sides are the
-- same error, and otherwise the same program.
/-- To carry a command out is to have its request served, and to remember the answer. -/
theorem apply_eq (c : Command) : r.apply settings c = ofExcept (r.request c)
    >>= fun q => q.program settings >>= fun answer => pure (r.remember c answer) := by
  rcases c with ⟨op, account, amount, reference, detail⟩
  cases op with
  | «open» =>
      unfold apply request openAccount
      simp only
      split
      · rfl
      · rcases kindOf detail with e | kind
        · rfl
        · exact serve_eq (Ledger.openAccount settings _) .account
            (r.remember ⟨.open, account, amount, reference, detail⟩)
  | credit =>
      unfold apply request
      rcases r.account account with e | id
      · rfl
      · rcases amountOf _ with e | x
        · rfl
        · exact serve_eq (Ledger.credit id x) .moved
            (r.remember ⟨.credit, account, amount, reference, detail⟩)
  | debit =>
      unfold apply request
      rcases r.account account with e | id
      · rfl
      · rcases amountOf _ with e | x
        · rfl
        · exact serve_eq (Ledger.debit id x) .moved
            (r.remember ⟨.debit, account, amount, reference, detail⟩)
  | hold =>
      unfold apply request createHold
      rcases r.account account with e | id
      · rfl
      · rcases amountOf _ with e | x
        · rfl
        · rcases hname : required reference .noHoldAlias with e | name
          · rfl
          · rcases (required_eq_ok_iff _ _ _).mp hname with ⟨rfl, _⟩
            simp only [Attempt.ok_bind, ofExcept_bind]
            split
            · rfl
            · rcases required detail .noReason with e | reason
              · rfl
              · exact serve_eq (Ledger.createHold _) .hold
                  (r.remember ⟨.hold, account, amount, some name, detail⟩)
  | release =>
      unfold apply request releaseHold
      rcases required reference .noReleaseAlias with e | name
      · rfl
      · simp only [Attempt.ok_bind, ofExcept_bind]
        rcases r.hold name with e | id
        · rfl
        · exact serve_eq (Ledger.releaseHold id) .hold
            (r.remember ⟨.release, account, amount, reference, detail⟩)
  | freeze => exact changeStatus_eq settings r .freeze _ fun _ => rfl
  | unfreeze => exact changeStatus_eq settings r .unfreeze _ fun _ => rfl
  | close => exact changeStatus_eq settings r .close _ fun _ => rfl

/-- A command that is carried out alone makes the run of its request. -/
theorem runAlone_apply (c : Command) : (r.apply settings c).runAlone w = match r.request c with
    | .error e => (.error e, w)
    | .ok request => (((request.program settings).runAlone w).1.map (r.remember c),
        ((request.program settings).runAlone w).2) := by
  rw [apply_eq]
  rcases r.request c with e | q
  · rfl
  · exact runAlone_map (q.program settings) (r.remember c) w

-- By induction on the aliases. To look an account up writes nothing, so those of the aliases that
-- follow are still there.
/-- The report finds the account of every alias, if it is there. -/
theorem runAlone_reportRows {names : List (String × AccountId)} {w : World}
    (h : ∀ entry ∈ names, ∃ a, w.store.accounts.get? entry.2 = some a) :
    ∃ rows v, (reportRows names).runAlone w = (.ok rows, v) ∧
      rows.map Prod.fst = names.map Prod.fst ∧ ∀ row ∈ rows, ∃ id, (row.1, id) ∈ names ∧
        w.store.accounts.get? id = some row.2 := by
  induction names generalizing w with
  | nil => exact ⟨[], w, rfl, rfl, fun _ hrow => absurd hrow List.not_mem_nil⟩
  | cons entry rest ih =>
      rcases entry with ⟨name, id⟩
      rcases h _ List.mem_cons_self with ⟨a, ha⟩
      rcases ih (w := w.tick.2) fun entry hentry => h entry (List.mem_cons_of_mem _ hentry) with
        ⟨rows, v, hrun, hnames, hrows⟩
      refine ⟨(name, a) :: rows, v, ?_, congrArg (name :: ·) hnames, fun row hrow => ?_⟩
      · unfold reportRows
        rw [runAlone_bind, Ledger.runAlone_account ha]
        simp only
        rw [runAlone_bind, hrun]
        rfl
      · rcases List.mem_cons.mp hrow with rfl | hlater
        · exact ⟨id, List.mem_cons_self, ha⟩
        · exact (hrows row hlater).imp fun _ hid => ⟨List.mem_cons_of_mem _ hid.1, hid.2⟩

end Runner

namespace Batch

/-- The batch after a command that is carried out alone. The ledger is as the command leaves it, and
    the runner knows what it knew before, unless the command succeeds. -/
def after (b : Batch) (c : Command) : Batch :=
  { b with
    runner := ((b.runner.apply b.settings c).runAlone b.world).1.toOption.getD b.runner
    world := ((b.runner.apply b.settings c).runAlone b.world).2 }

/-- A batch takes a command in by carrying it out alone. -/
theorem next_ok (b : Batch) (c : Command) : b.next (.ok c)
    = (((b.runner.apply b.settings c).runAlone b.world).1.map fun _ => (), b.after c) := by
  unfold next after
  simp only
  rcases (b.runner.apply b.settings c).runAlone b.world with ⟨e | r, w⟩
  · rfl
  · rfl

end Batch

end BankLedger
