import BankLedger.Uuid

/-!
# Identifiers of ledger rows

Accounts, customers and holds are named by universally unique identifiers. What an identifier names
is part of its type, so the identifier of a hold cannot be looked up among the accounts.

## Main definitions

* `Id`: An identifier of an account, a customer or a hold.
* `AccountId`, `CustomerId`, `HoldId`: The three kinds.
-/

namespace BankLedger

/-- What an identifier names. -/
inductive Subject where
  /-- An account. -/
  | account
  /-- The owner of accounts. -/
  | customer
  /-- A reservation of money. -/
  | hold
deriving DecidableEq

/-- The name of a kind of identifier. -/
def Subject.idName : Subject → String
  | .account => "AccountId"
  | .customer => "CustomerId"
  | .hold => "HoldId"

/-- An identifier of a row. -/
structure Id (subject : Subject) where
  /-- The identifier without its kind. -/
  uuid : Uuid
deriving DecidableEq

/-- The identifier of an account. -/
abbrev AccountId := Id .account

/-- The identifier of a customer. -/
abbrev CustomerId := Id .customer

/-- The identifier of a hold. -/
abbrev HoldId := Id .hold

namespace Id

variable {subject : Subject}

instance : Inhabited (Id subject) := ⟨⟨default⟩⟩

/-- Identifiers are ordered by their bytes. -/
def compare (a b : Id subject) : Ordering := a.uuid.compare b.uuid

/-- The written form. -/
def toText (a : Id subject) : String := a.uuid.toText

end Id

end BankLedger
