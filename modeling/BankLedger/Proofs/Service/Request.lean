import BankLedger.Service.Ledger

/-!
# Requests

What the users of the ledger can ask of it, as one type. Each request stands for the program that
serves it, so that what holds of all requests can be said once, and requests can be counted, ordered
and put next to each other.

## Main definitions

* `Request`: What can be asked of the ledger.
* `Answer`: What it answers.
* `Request.program`: The program that serves a request.
-/

namespace BankLedger

/-- What the ledger answers. -/
inductive Answer where
  | account (a : Account)
  | accounts (l : List Account)
  | balances (b : Balances)
  | verdict (b : Bool)
  /-- Money has moved, and these are the balances afterwards, if they could be read. -/
  | moved (b : Option Balances)
  | hold (h : Hold)
  | holds (l : List Hold)
deriving DecidableEq

/-- What can be asked of the ledger. -/
inductive Request where
  | openAccount (request : OpenRequest)
  | account (id : AccountId)
  | accountByNumber (s : String)
  | accountsOf (customer : CustomerId)
  | balances (id : AccountId)
  /-- To say whether an account belongs to a customer. -/
  | owns (id : AccountId) (customer : CustomerId)
  /-- To freeze, unfreeze or close an account. -/
  | changeStatus (action : Action) (id : AccountId)
  | update (id : AccountId) (status : Option Status) (rate : Option Decimal)
  | credit (id : AccountId) (amount : Decimal)
  | debit (id : AccountId) (amount : Decimal)
  | createHold (request : HoldRequest)
  /-- To give money back that was set aside. -/
  | releaseHold (id : HoldId)
  | hold (id : HoldId)
  /-- To list the holds of an account that are not released. -/
  | activeHolds (id : AccountId)

/-- The program that serves a request. -/
def Request.program (settings : Settings) : Request → Program Answer
  | .openAccount request => return .account (← Ledger.openAccount settings request)
  | .account id => return .account (← Ledger.account id)
  | .accountByNumber s => return .account (← Ledger.accountByNumber s)
  | .accountsOf customer => return .accounts (← Ledger.accountsOf customer)
  | .balances id => return .balances (← Ledger.balances id)
  | .owns id customer => return .verdict (← Ledger.owns id customer)
  | .changeStatus action id => return .account (← Ledger.changeStatus action id)
  | .update id status rate => return .account (← Ledger.update id status rate)
  | .credit id amount => return .moved (← Ledger.credit id amount)
  | .debit id amount => return .moved (← Ledger.debit id amount)
  | .createHold request => return .hold (← Ledger.createHold request)
  | .releaseHold id => return .hold (← Ledger.releaseHold id)
  | .hold id => return .hold (← Ledger.hold id)
  | .activeHolds id => return .holds (← Ledger.activeHolds id)

/-- The request moves money or sets it aside: a credit, a debit, a hold or its release. -/
def Request.isPosting : Request → Bool
  | .credit _ _ => true
  | .debit _ _ => true
  | .createHold _ => true
  | .releaseHold _ => true
  | _ => false

end BankLedger
