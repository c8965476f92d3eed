import BankLedger.Batch.Command
import BankLedger.Csv.Report
import BankLedger.Service.Ledger
import BankLedger.Sorted

/-!
# Running a batch

A runner carries the commands of a batch out, one after the other. In a batch accounts and holds are
named by aliases, and the runner remembers what each alias stands for. All accounts that it opens
belong to one customer. An alias is bound when its command succeeds, and never again, so it keeps
its meaning.

## Main definitions

* `Runner`: The customer, and what the aliases stand for.
* `Runner.apply`: Carries a command out.
* `Runner.report`: The accounts of all aliases.
* `Batch`: A runner with its ledger.
* `Batch.next`: Carries the command of a record out, if it is one.
-/

namespace BankLedger

/-- Who runs a batch, and what the aliases in it stand for. -/
structure Runner where
  /-- The owner of all accounts that are opened. -/
  customer : CustomerId
  /-- The accounts by alias, sorted. -/
  accounts : List (String × AccountId)
  /-- The holds by alias, sorted. -/
  holds : List (String × HoldId)

namespace Runner

/-- A runner that has done nothing. -/
def new (customer : CustomerId) : Runner := ⟨customer, [], []⟩

/-- The account of an alias. -/
def account (r : Runner) (name : String) : Except LedgerError AccountId :=
  match r.accounts.lookup name with
  | some id => .ok id
  | none => .error (.accountNotFound (.ofBatch name))

/-- The hold of an alias. -/
def hold (r : Runner) (name : String) : Except LedgerError HoldId :=
  match r.holds.lookup name with
  | some id => .ok id
  | none => .error (.invalidArgument (.holdAlias name))

/-- The amount of a command that needs one. -/
def amountOf (c : Command) : Except LedgerError Decimal :=
  match c.amount with
  | some a => .ok a
  | none => .error (.invalidArgument (.noAmount c.op))

/-- A text that must be there, and not be empty. -/
def required (s : Option String) (why : BadArgument) : Except LedgerError String :=
  match s with
  | some s => if s.isEmpty then .error (.invalidArgument why) else .ok s
  | none => .error (.invalidArgument why)

/-- The kind of account to open: a checking account when nothing is said. -/
def kindOf (detail : Option String) : Except LedgerError AccountKind :=
  match detail with
  | some s => if s.isEmpty then .ok .checking else AccountKind.parse s
  | none => .ok .checking

/-- Opens an account for an alias that is free. -/
def openAccount (settings : Settings) (r : Runner) (c : Command) : Program Runner := do
  if (r.accounts.lookup c.account).isSome then
    .fail (.alreadyExists (.accountAlias c.account))
  else do
    let kind ← .ofExcept (kindOf c.detail)
    let a ← Ledger.openAccount settings ⟨r.customer, kind, none, none⟩
    return { r with accounts := Sorted.insert c.account a.id r.accounts }

/-- Sets money aside for an alias that is free. The alias goes into the hold. -/
def createHold (r : Runner) (c : Command) : Program Runner := do
  let id ← .ofExcept (r.account c.account)
  let amount ← .ofExcept (amountOf c)
  let name ← .ofExcept (required c.reference .noHoldAlias)
  if (r.holds.lookup name).isSome then .fail (.alreadyExists (.holdAlias name))
  else do
    let reason ← .ofExcept (required c.detail .noReason)
    let h ← Ledger.createHold ⟨id, amount, reason, some name, none⟩
    return { r with holds := Sorted.insert name h.id r.holds }

/-- Gives money back that was set aside for an alias. -/
def releaseHold (r : Runner) (c : Command) : Program Runner := do
  let name ← .ofExcept (required c.reference .noReleaseAlias)
  let id ← .ofExcept (r.hold name)
  let _ ← Ledger.releaseHold id
  return r

/-- Freezes, unfreezes or closes the account of an alias. -/
def changeStatus (action : Action) (r : Runner) (c : Command) : Program Runner := do
  let id ← .ofExcept (r.account c.account)
  let _ ← Ledger.changeStatus action id
  return r

/-- Carries a command out: the runner afterwards. -/
def apply (settings : Settings) (r : Runner) (c : Command) : Program Runner :=
  match c.op with
  | .open => openAccount settings r c
  | .credit => do
      let id ← .ofExcept (r.account c.account)
      let _ ← Ledger.credit id (← .ofExcept (amountOf c))
      return r
  | .debit => do
      let id ← .ofExcept (r.account c.account)
      let _ ← Ledger.debit id (← .ofExcept (amountOf c))
      return r
  | .hold => createHold r c
  | .release => releaseHold r c
  | .freeze => changeStatus .freeze r c
  | .unfreeze => changeStatus .unfreeze r c
  | .close => changeStatus .close r c

/-- Looks up the accounts of some aliases. -/
def reportRows : List (String × AccountId) → Program (List Report.Row)
  | [] => return []
  | (name, id) :: rest => do
      let a ← Ledger.account id
      return (name, a) :: (← reportRows rest)

/-- The accounts of all aliases, in the order of the aliases. -/
def report (r : Runner) : Program (List Report.Row) := reportRows r.accounts

end Runner

/-- A runner with its ledger. -/
structure Batch where
  settings : Settings
  runner : Runner
  world : World

namespace Batch

/-- A batch that has not begun, over a ledger with nothing in it. -/
def start (settings : Settings) (numbers : NumberSource) (clock : Instant) : Batch :=
  let (customer, world) := (World.start settings.queueCapacity numbers clock).fresh
  ⟨settings, .new ⟨customer⟩, world⟩

/-- Carries the command of a record out. A record that is no command changes nothing, and neither
    does a command that fails. -/
def next (b : Batch) (record : Except LedgerError Command) : Except LedgerError Unit × Batch :=
  match record with
  | .error e => (.error e, b)
  | .ok c =>
      match (b.runner.apply b.settings c).runAlone b.world with
      | (.ok runner, world) => (.ok (), { b with runner := runner, world := world })
      | (.error e, world) => (.error e, { b with world := world })

/-- Takes the events that wait. -/
def drain (b : Batch) : List Event × Batch :=
  let (events, outbox) := b.world.outbox.drain
  (events, { b with world := { b.world with outbox := outbox } })

/-- The rows of the report. -/
def report (b : Batch) : Except LedgerError (List Report.Row) :=
  (b.runner.report.runAlone b.world).1

end Batch

end BankLedger
