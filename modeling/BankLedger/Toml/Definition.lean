import BankLedger.Toml.Value

/-!
# Definitions of settings files

A settings file defines its tables bit by bit: a header opens a table for the lines that follow, and
a line may name a table inside that table with points between the names. Nothing may be defined
twice, and a table that was opened in one way may not be added to in another.

So the tables of a file that is being read remember more than their entries: whether a table is only
there because something inside it was named, and whether that was done with points in a line. A
table with a header of its own may not get that header again; one that is only implied may.

## Main definitions

* `Toml.Node`: What a name stands for while the file is being read.
* `Toml.Node.openTable`, `Toml.Node.openItem`: The two kinds of headers.
* `Toml.Node.define`: A line with a name and a value.
* `Toml.Node.toValue`: The value of all definitions.
-/

namespace BankLedger

namespace Toml

/-- What a name stands for while the file is being read. -/
inductive Node where
  | value (v : Value)
  /-- A table: whether it is only implied, whether it was named with points, and its entries. -/
  | table (implied dotted : Bool) (entries : List (String × Node))
  /-- A list of tables, the last one first; each has its entries. -/
  | tables (items : List (List (String × Node)))

namespace Node

/-- The table with no entries that a file begins with. -/
def root : Node := .table false false []

/-- Gives a name a meaning. -/
def put (name : String) (n : Node) (entries : List (String × Node)) : List (String × Node) :=
  if (entries.lookup name).isSome then entries.map fun e => if e.1 = name then (name, n) else e
  else entries ++ [(name, n)]

/-- The entries of a table. -/
def entries : Node → List (String × Node)
  | .table _ _ es => es
  | _ => []

/-- A table with other entries. -/
def withEntries (es : List (String × Node)) : Node → Node
  | .table implied dotted _ => .table implied dotted es
  | n => n

/-- Changes what a path leads to. Tables on the way that are not there yet are implied. `dotted`
    says that the path stands in a line, and then it may not lead through a table that has a header;
    a list of tables is followed into its last table. -/
def update (dotted : Bool) (f : Node → Option Node) : List String → Node → Option Node
  | [], n => f n
  | name :: path, n =>
      let change := fun child => (update dotted f path child).map fun child =>
        withEntries (put name child n.entries) n
      match n.entries.lookup name with
      | none => change (.table true dotted [])
      | some (.value _) => none
      | some (.table implied d es) =>
          if dotted && !implied then none else change (.table implied d es)
      | some (.tables []) => none
      | some (.tables (last :: before)) =>
          (update dotted f path (.table false false last)).map fun child =>
            withEntries (put name (.tables (child.entries :: before)) n.entries) n

/-- Opens a table by its header. It must be new, or only implied by headers before. -/
def openTable (name : String) (n : Node) : Option Node :=
  match n.entries.lookup name with
  | none => some (withEntries (put name (.table false false []) n.entries) n)
  | some (.table true false es) =>
      some (withEntries (put name (.table false false es) n.entries) n)
  | some _ => none

/-- Adds a table to a list of tables by its header. -/
def openItem (name : String) (n : Node) : Option Node :=
  match n.entries.lookup name with
  | none => some (withEntries (put name (.tables [[]]) n.entries) n)
  | some (.tables items) => some (withEntries (put name (.tables ([] :: items)) n.entries) n)
  | some _ => none

/-- Gives a name a value in the table that a path of names leads to. The name must be new, and a
    table is added to with points only if it was made with points. -/
def define (path : List String) (name : String) (v : Value) (n : Node) : Option Node :=
  update true (fun t => match t with
    | .table _ dotted es =>
        if dotted == path.isEmpty || (es.lookup name).isSome then none
        else some (withEntries (put name (.value v) es) t)
    | _ => none) path n

mutual
/-- The value of all definitions. -/
def toValue : Node → Value
  | .value v => v
  | .table _ _ es => .table (entryValues es)
  | .tables items => .list (tableValues items).reverse
/-- The values of the entries of a table. -/
def entryValues : List (String × Node) → List (String × Value)
  | [] => []
  | e :: es => (e.1, toValue e.2) :: entryValues es
/-- The values of the tables of a list. -/
def tableValues : List (List (String × Node)) → List Value
  | [] => []
  | es :: rest => .table (entryValues es) :: tableValues rest
end

end Node

end Toml

end BankLedger
