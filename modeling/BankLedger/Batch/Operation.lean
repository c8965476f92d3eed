/-!
# Operations of a batch

Each record of a batch asks for one operation on an account.

## Main definitions

* `Operation`: What a record asks for.
* `Operation.name`: How the operation is written in a batch.
-/

namespace BankLedger

/-- What a record of a batch asks for. -/
inductive Operation where
  | «open»
  | credit
  | debit
  | hold
  | release
  | freeze
  | unfreeze
  | close
deriving DecidableEq

namespace Operation

/-- The operations in the order in which they are listed to a user. -/
def all : List Operation :=
  [.open, .credit, .debit, .hold, .release, .freeze, .unfreeze, .close]

/-- How the operation is written in a batch. -/
def name : Operation → String
  | .open => "open"
  | .credit => "credit"
  | .debit => "debit"
  | .hold => "hold"
  | .release => "release"
  | .freeze => "freeze"
  | .unfreeze => "unfreeze"
  | .close => "close"

/-- How the operation is named in a message. -/
def title : Operation → String
  | .open => "Open"
  | .credit => "Credit"
  | .debit => "Debit"
  | .hold => "Hold"
  | .release => "Release"
  | .freeze => "Freeze"
  | .unfreeze => "Unfreeze"
  | .close => "Close"

/-- The operation of a name. -/
def ofName? (s : String) : Option Operation := all.find? (·.name == s)

end Operation

end BankLedger
