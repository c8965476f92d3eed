import BankLedger.Account.Arguments
import BankLedger.Batch.Command
import BankLedger.Proofs.Decimal.Value
import BankLedger.Proofs.Store.Rows

/-!
# A Plain Ledger of Aliases

What the commands of a batch mean, without identifiers, times, events or a store: an account is its
alias with a kind, a status and a balance, and a hold is its alias with an account, an amount and
whether it was released. Numbers are exact here, so nothing is rounded and nothing is too large.

A command is accepted and gives the next ledger, or it is rejected. There is no reason given for a
rejection, and nothing is left of it.

## Main definitions

* `AliasAccount`, `AliasHold`, `AliasLedger`: Accounts and holds by their aliases.
* `AliasLedger.reserved`: What the holds on an account set aside.
* `AliasLedger.apply`: Carries a command out, or rejects it.
* `AliasLedger.Fits`: All its numbers are decimals.

## Theorems

* `openAccount_eq_some_iff`, `credit_eq_some_iff`, `debit_eq_some_iff`, `hold_eq_some_iff`,
  `release_eq_some_iff`, `changeStatus_eq_some_iff`: When a command is accepted.
* `reserved_hold`, `reserved_release`: How the money that is set aside changes.
-/

namespace BankLedger

/-- An account, as a batch speaks of it. -/
structure AliasAccount where
  name : String
  kind : AccountKind
  status : Status
  balance : ℚ

/-- A hold, as a batch speaks of it. -/
structure AliasHold where
  name : String
  /-- The alias of the account. -/
  account : String
  amount : ℚ
  released : Bool

/-- The money that the hold sets aside on an account. -/
def AliasHold.share (name : String) (h : AliasHold) : ℚ :=
  if h.account = name ∧ h.released = false then h.amount else 0

/-- Accounts and holds by their aliases. -/
structure AliasLedger where
  accounts : Table AliasAccount.name
  holds : Table AliasHold.name

namespace AliasLedger

/-- There is no account and no hold. -/
def empty : AliasLedger := ⟨.empty, .empty⟩

/-- The unreleased holds on an account together. -/
def reserved (l : AliasLedger) (name : String) : ℚ := (l.holds.rows.map (·.share name)).sum

/-- The ledger with another state of an account. -/
def put (l : AliasLedger) (a : AliasAccount) : AliasLedger :=
  { l with accounts := l.accounts.replace a }

/-- The account of an alias, if it is active. -/
def active? (l : AliasLedger) (name : String) : Option AliasAccount :=
  (l.accounts.get? name).filter (·.status = .active)

/-- The amount of a command, if it has one above zero. -/
def amount? (c : Command) : Option ℚ := (c.amount.map Decimal.toRat).filter (0 < ·)

/-- The kind of account to open. -/
def kind? : Option String → Option AccountKind
  | none => some .checking
  | some s => if s = "" then some .checking else (AccountKind.parse s).toOption

/-- Which status an action leads to, and from which. -/
def next? : Action → Status → Option Status
  | .freeze, .active => some .frozen
  | .unfreeze, .frozen => some .active
  | .close, .active => some .closed
  | .close, .frozen => some .closed
  | _, _ => none

/-- Opening needs an unused alias and a known kind. -/
def openAccount (l : AliasLedger) (c : Command) : Option AliasLedger := do
  let kind ← kind? c.detail
  let accounts ← l.accounts.insert? ⟨c.account, kind, .active, 0⟩
  return { l with accounts := accounts }

/-- A credit needs an active account. -/
def credit (l : AliasLedger) (c : Command) : Option AliasLedger := do
  let a ← l.active? c.account
  let amount ← amount? c
  return l.put { a with balance := a.balance + amount }

/-- A debit needs an active account with as much on it. -/
def debit (l : AliasLedger) (c : Command) : Option AliasLedger := do
  let a ← l.active? c.account
  let amount ← amount? c
  if amount ≤ a.balance then return l.put { a with balance := a.balance - amount } else none

/-- A hold needs an active account with as much on it that is not set aside, an unused alias and a
    reason. -/
def hold (l : AliasLedger) (c : Command) : Option AliasLedger := do
  let a ← l.active? c.account
  let amount ← amount? c
  let name ← c.reference.filter (· ≠ "")
  let _ ← c.detail.filter (!·.toList.all Text.isBlank)
  let holds ← l.holds.insert? ⟨name, c.account, amount, false⟩
  if amount ≤ a.balance - l.reserved c.account then return { l with holds := holds } else none

/-- A release needs an unreleased hold. -/
def release (l : AliasLedger) (c : Command) : Option AliasLedger := do
  let name ← c.reference
  let h ← (l.holds.get? name).filter (!·.released)
  return { l with holds := l.holds.replace { h with released := true } }

/-- A status changes as the table says. Closing needs a balance of zero. -/
def changeStatus (action : Action) (l : AliasLedger) (c : Command) : Option AliasLedger := do
  let a ← l.accounts.get? c.account
  let status ← next? action a.status
  if action = .close ∧ a.balance ≠ 0 then none else return l.put { a with status := status }

/-- Carries a command out: the ledger afterwards, or `none` when it is rejected. -/
def apply (l : AliasLedger) (c : Command) : Option AliasLedger :=
  match c.op with
  | .open => l.openAccount c
  | .credit => l.credit c
  | .debit => l.debit c
  | .hold => l.hold c
  | .release => l.release c
  | .freeze => l.changeStatus .freeze c
  | .unfreeze => l.changeStatus .unfreeze c
  | .close => l.changeStatus .close c

/-- The ledger after some commands. A command that is rejected changes nothing. -/
def afterAll (l : AliasLedger) (commands : List Command) : AliasLedger :=
  commands.foldl (fun l c => (l.apply c).getD l) l

/-- Every balance, and what is left of it after the holds, is a decimal. -/
def Fits (l : AliasLedger) : Prop := ∀ name a, l.accounts.get? name = some a →
  Decimal.Representable a.balance ∧ Decimal.Representable (a.balance - l.reserved name)

variable {l l' : AliasLedger} {c : Command} {name : String} {a : AliasAccount}

theorem active?_eq_some_iff :
    l.active? name = some a ↔ l.accounts.get? name = some a ∧ a.status = .active := by
  simp [active?, Option.filter_eq_some_iff]

theorem amount?_eq_some_iff {q : ℚ} :
    amount? c = some q ↔ ∃ d, c.amount = some d ∧ 0 < d.toRat ∧ d.toRat = q := by
  unfold amount?
  simp only [Option.filter_eq_some_iff, Option.map_eq_some_iff, decide_eq_true_eq]
  constructor
  · rintro ⟨⟨d, hd, rfl⟩, hpos⟩
    exact ⟨d, hd, hpos, rfl⟩
  · rintro ⟨d, hd, hpos, rfl⟩
    exact ⟨⟨d, hd, rfl⟩, hpos⟩

theorem openAccount_eq_some_iff : l.openAccount c = some l' ↔ ∃ kind accounts,
    kind? c.detail = some kind ∧
      l.accounts.insert? ⟨c.account, kind, .active, 0⟩ = some accounts ∧
      { l with accounts := accounts } = l' := by
  simp [openAccount, Option.bind_eq_some_iff]

theorem credit_eq_some_iff : l.credit c = some l' ↔ ∃ a d, l.accounts.get? c.account = some a ∧
    a.status = .active ∧ c.amount = some d ∧ 0 < d.toRat ∧
      l.put { a with balance := a.balance + d.toRat } = l' := by
  simp [credit, Option.bind_eq_some_iff, active?_eq_some_iff, amount?_eq_some_iff, and_assoc]

theorem debit_eq_some_iff : l.debit c = some l' ↔ ∃ a d, l.accounts.get? c.account = some a ∧
    a.status = .active ∧ c.amount = some d ∧ 0 < d.toRat ∧ d.toRat ≤ a.balance ∧
      l.put { a with balance := a.balance - d.toRat } = l' := by
  simp [debit, Option.bind_eq_some_iff, active?_eq_some_iff, amount?_eq_some_iff, and_assoc]

theorem hold_eq_some_iff : l.hold c = some l' ↔ ∃ a d name reason holds,
    l.accounts.get? c.account = some a ∧ a.status = .active ∧ c.amount = some d ∧ 0 < d.toRat ∧
      c.reference = some name ∧ name ≠ "" ∧ c.detail = some reason ∧
      reason.toList.all Text.isBlank = false ∧
      l.holds.insert? ⟨name, c.account, d.toRat, false⟩ = some holds ∧
      d.toRat ≤ a.balance - l.reserved c.account ∧ { l with holds := holds } = l' := by
  simp [hold, Option.bind_eq_some_iff, active?_eq_some_iff, amount?_eq_some_iff,
    Option.filter_eq_some_iff, and_assoc]

theorem release_eq_some_iff : l.release c = some l' ↔ ∃ name h, c.reference = some name ∧
    l.holds.get? name = some h ∧ h.released = false ∧
      { l with holds := l.holds.replace { h with released := true } } = l' := by
  simp [release, Option.bind_eq_some_iff, Option.filter_eq_some_iff, and_assoc]

theorem changeStatus_eq_some_iff {action : Action} : l.changeStatus action c = some l' ↔
    ∃ a status, l.accounts.get? c.account = some a ∧ next? action a.status = some status ∧
      (action = .close → a.balance = 0) ∧ l.put { a with status := status } = l' := by
  simp [changeStatus, Option.bind_eq_some_iff]

theorem get?_put (ha : l.accounts.get? name = some a) {b : AliasAccount} (hb : b.name = a.name)
    (n : String) : (l.put b).accounts.get? n = if name = n then some b else l.accounts.get? n :=
  Table.get?_replace_of_get? ha (hb.trans (Table.key_of_get? ha)) n

theorem get?_put_self (ha : l.accounts.get? name = some a) {b : AliasAccount}
    (hb : b.name = a.name) : (l.put b).accounts.get? name = some b :=
  (get?_put ha hb name).trans (if_pos rfl)

theorem fits_of_rows (h : ∀ a ∈ l.accounts.rows, Decimal.Representable a.balance ∧
    Decimal.Representable (a.balance - l.reserved a.name)) : l.Fits := by
  intro name a ha
  rw [← (Table.key_of_get? ha : a.name = name)]
  exact h a (Table.mem_of_get? ha)

/-- Nothing is set aside on an account that no hold is on. -/
theorem reserved_eq_zero (h : ∀ g ∈ l.holds.rows, g.account ≠ name) : l.reserved name = 0 := by
  refine List.sum_eq_zero fun q hq => ?_
  rcases List.mem_map.mp hq with ⟨g, hg, rfl⟩
  exact if_neg fun hon => h g hg hon.1

/-- A new hold sets its amount aside on its own account. -/
theorem reserved_hold {h : AliasHold} {holds : Table AliasHold.name}
    (hins : l.holds.insert? h = some holds) (n : String) :
    ({ l with holds := holds } : AliasLedger).reserved n = l.reserved n + h.share n :=
  Table.sum_insert? _ hins

/-- A hold that is released sets nothing aside any more. -/
theorem reserved_release {h : AliasHold} (hh : l.holds.get? h.name = some h) (n : String) :
    ({ l with holds := l.holds.replace { h with released := true } } : AliasLedger).reserved n
      = l.reserved n - h.share n := by
  refine (Table.sum_replace (r := { h with released := true }) _ hh).trans ?_
  simp [reserved, AliasHold.share]

end AliasLedger

end BankLedger
