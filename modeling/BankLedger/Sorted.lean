/-!
# Sorted lists of named values

Values with names, in the rising order of the names. Names are compared character by character.

## Main definitions

* `Sorted.insert`: Puts a value under a name.
* `Sorted.ofList`: The named values of a list, of which the last one of a name counts.
-/

namespace BankLedger

namespace Sorted

/-- Puts a value under a name. A value that the name had before is given up. -/
def insert {α : Type} (name : String) (value : α) : List (String × α) → List (String × α)
  | [] => [(name, value)]
  | (n, v) :: rest =>
      if name < n then (name, value) :: (n, v) :: rest
      else if name = n then (name, value) :: rest
      else (n, v) :: insert name value rest

/-- The named values of a list, sorted. The last value of a name counts. -/
def ofList {α : Type} (values : List (String × α)) : List (String × α) :=
  values.foldl (fun sorted v => insert v.1 v.2 sorted) []

end Sorted

end BankLedger
