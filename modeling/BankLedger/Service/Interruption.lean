import BankLedger.Service.Program

/-!
# Interruptions

An interruption is planned for one call of a program: the call of a certain kind, counted among the
calls of that kind. Before it other calls reach the store, and then the call itself may be refused:
because the store does not answer in time, because it fails, or because it claims that the row is
there already.

## Main definitions

* `Interruption`: A planned interference.
* `Interruption.surrounding`: The surrounding in which plans are carried out.
-/

namespace BankLedger

/-- The name of a call of the store. -/
def Call.name : Call → String
  | .createAccount _ => "create_account"
  | .getAccount _ => "get_account_by_id"
  | .getByNumber _ => "get_account_by_number"
  | .accountsOf _ => "get_accounts_by_customer"
  | .amend _ _ _ => "update_status_and_rate"
  | .changeStatus _ _ _ => "change_status"
  | .applyDelta _ _ => "apply_balance_delta"
  | .createHold _ => "create_hold"
  | .releaseHold _ _ => "release_hold"
  | .getHold _ => "get_hold"
  | .activeHolds _ => "active_holds"

/-- A planned interference. -/
structure Interruption where
  /-- The name of the call before which it happens. -/
  name : String
  /-- Which one of the calls of that name, counted from one. -/
  nth : Nat
  before : List Call
  /-- Why the store does not answer, if it does not. -/
  refusal : Option LedgerError

namespace Interruption

/-- The plan is for this call, given the calls made before it. -/
def applies (i : Interruption) (made : List Call) (c : Call) : Bool :=
  i.name == c.name && i.nth == (made.filter (·.name == c.name)).length + 1

/-- Carries out the plans for each call, in their order; of several refusals the first counts. -/
def surrounding (plans : List Interruption) : Program.Surrounding := fun made c =>
  let due := plans.filter (·.applies made c)
  ⟨due.flatMap (·.before), due.findSome? (·.refusal)⟩

end Interruption

end BankLedger
