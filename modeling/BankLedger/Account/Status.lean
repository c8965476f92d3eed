/-!
# Status and kind of an account

An account is active, frozen, closed or pending. Three actions change the status on request:
freezing, unfreezing and closing. Two kinds of account differ in the interest they bear.

## Main definitions

* `Status`: The status of an account.
* `AccountKind`: Checking or savings.
* `Action`: A requested change of status.
-/

namespace BankLedger

/-- The status of an account. -/
inductive Status where
  /-- Money moves. -/
  | active
  /-- Money is stopped until the account is unfrozen. -/
  | frozen
  /-- The account has ended. -/
  | closed
  /-- The account has not begun. -/
  | pending
deriving DecidableEq

/-- The name of a status. -/
def Status.name : Status → String
  | .active => "ACTIVE"
  | .frozen => "FROZEN"
  | .closed => "CLOSED"
  | .pending => "PENDING"

/-- The statuses by name. -/
def Status.byName : List (String × Status) :=
  [.active, .frozen, .closed, .pending].map fun s => (s.name, s)

/-- The kind of an account. -/
inductive AccountKind where
  /-- For everyday payments. -/
  | checking
  /-- For money put aside. -/
  | savings
deriving DecidableEq

/-- The name of a kind of account. -/
def AccountKind.name : AccountKind → String
  | .checking => "CHECKING"
  | .savings => "SAVINGS"

/-- The kinds of account by name. -/
def AccountKind.byName : List (String × AccountKind) :=
  [.checking, .savings].map fun k => (k.name, k)

/-- A second name under which a kind of account is asked for. -/
def AccountKind.aliases : List (String × AccountKind) := [("CURRENT", .checking)]

/-- A requested change of status. -/
inductive Action where
  /-- Stops the money of an active account. -/
  | freeze
  /-- Lets the money of a frozen account move again. -/
  | unfreeze
  /-- Ends an account. -/
  | close
deriving DecidableEq

end BankLedger
