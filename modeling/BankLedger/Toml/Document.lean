import BankLedger.Toml.Definition
import BankLedger.Toml.Scalar
import BankLedger.Toml.Text

/-!
# Settings files

A settings file is a sequence of lines, each with a name and a value, a header, or nothing but a
comment. Names may be quoted, and points between names lead into tables. Lists and tables may also
be written within a line; a list may then go over several lines, a table may not.

Lists and tables within each other are limited in depth, and so are paths of names.

## Main definitions

* `Toml.readPath`: Reads names with points between them.
* `Toml.readValue`: Reads a value.
* `Toml.parse?`: The table that a file defines.
-/

namespace BankLedger

namespace Toml

/-- How many levels of lists and tables there may be, and how many names in a path. -/
def maxDepth : Nat := 79

/-- A character of a name without quotes. -/
def isNameChar (c : Char) : Bool := c.isAlphanum || c == '_' || c == '-'

/-- Reads a name. -/
def readName : Reader String := fun cs =>
  if (quotesOf? cs).isSome then readLineText cs
  else
    let name := cs.takeWhile isNameChar
    if name.isEmpty then none else some (String.ofList name, cs.drop name.length)

/-- Reads names with points between them; blanks may stand around each. -/
def readPathRest : (fuel : Nat) → Reader (List String)
  | 0, _ => none
  | fuel + 1, cs => do
      let (name, rest) ← readName (skipSpace cs)
      match skipSpace rest with
      | '.' :: rest => do
          let (names, rest) ← readPathRest fuel rest
          return (name :: names, rest)
      | rest => return ([name], rest)

/-- Reads a path of names: those that lead to a table, and the last one. -/
def readPath : Reader (List String × String) := fun cs => do
  let (names, rest) ← readPathRest cs.length cs
  if maxDepth < names.length then none
  else match names.getLast? with
    | some name => some ((names.dropLast, name), rest)
    | none => none

/-- Reads the items of a list behind its bracket or behind a comma. -/
def readItems (item : Reader Value) : (fuel : Nat) → Reader (List Value)
  | 0, _ => none
  | fuel + 1, cs =>
      match skipLines cs.length cs with
      | ']' :: rest => some ([], rest)
      | body => do
          let (v, rest) ← item body
          match skipLines rest.length rest with
          | ',' :: rest => do
              let (vs, rest) ← readItems item fuel rest
              return (v :: vs, rest)
          | ']' :: rest => return ([v], rest)
          | _ => none

/-- Reads a path, an equals sign and a value. -/
def readEntry (item : Reader Value) : Reader ((List String × String) × Value) := fun cs => do
  let (path, rest) ← readPath cs
  let rest ← readChar '=' rest
  let (v, rest) ← item (skipSpace rest)
  return ((path, v), rest)

/-- Reads the entries of a table within a line, and adds them to the ones before. -/
def readEntries (item : Reader Value) (table : Node) : (fuel : Nat) → Reader Value
  | 0, _ => none
  | fuel + 1, cs => do
      let ((path, v), rest) ← readEntry item cs
      let table ← table.define path.1 path.2 v
      match skipSpace rest with
      | ',' :: rest => readEntries item table fuel rest
      | '\x7d' :: rest => return (table.toValue, rest)
      | _ => none

/-- Reads a value, with so many levels of lists and tables left. -/
def readValue : (depth : Nat) → Reader Value
  | 0, cs =>
      if (quotesOf? cs).isSome then (readText cs).map fun (s, rest) => (.text s, rest)
      else readScalar cs
  | depth + 1, cs =>
      match cs with
      | '[' :: rest =>
          (readItems (readValue depth) cs.length rest).map fun (vs, rest) => (.list vs, rest)
      | '\x7b' :: rest =>
          match skipSpace rest with
          | '\x7d' :: rest => some (.table [], rest)
          | body => readEntries (readValue depth) .root cs.length body
      | _ =>
          if (quotesOf? cs).isSome then (readText cs).map fun (s, rest) => (.text s, rest)
          else readScalar cs

/-- Reads the rest of a line that must hold nothing more: a comment at most. The end of the file
    ends a line too. -/
def readLineRemainder (cs : List Char) : Option (List Char) :=
  match skipComment (skipSpace cs) with
  | [] => some []
  | body => readLineEnd body

/-- What has been read of a file: all definitions, and the path of the table that is open. -/
structure Reading where
  tree : Node
  current : List String

/-- Nothing has been read. -/
def Reading.start : Reading := ⟨.root, []⟩

/-- Reads a header behind its first bracket. -/
def readHeader (r : Reading) : Reader Reading
  | '[' :: cs => do
      let ((path, name), rest) ← readPath cs
      let rest ← readChar ']' (← readChar ']' rest)
      let tree ← r.tree.update false (Node.openItem name) path
      return (⟨tree, path ++ [name]⟩, rest)
  | cs => do
      let ((path, name), rest) ← readPath cs
      let rest ← readChar ']' rest
      let tree ← r.tree.update false (Node.openTable name) path
      return (⟨tree, path ++ [name]⟩, rest)

/-- Reads a name and a value into the open table. -/
def readDefinition (r : Reading) : Reader Reading := fun cs => do
  let (((path, name), v), rest) ← readEntry (readValue maxDepth) cs
  let tree ← r.tree.update false (Node.define path name v) r.current
  return (⟨tree, r.current⟩, rest)

/-- Reads the lines of a file. -/
def readLines (r : Reading) : (fuel : Nat) → List Char → Option Node
  | 0, cs => if cs.isEmpty then some r.tree else none
  | fuel + 1, cs =>
      match skipSpace cs with
      | [] => some r.tree
      | '[' :: rest => do
          let (r, rest) ← readHeader r rest
          readLines r fuel (← readLineRemainder rest)
      | body =>
          match readLineRemainder body with
          | some rest => readLines r fuel rest
          | none => do
              let (r, rest) ← readDefinition r body
              readLines r fuel (← readLineRemainder rest)

/-- The mark with which a text may begin to show its encoding. -/
def byteOrderMark : Char := '\ufeff'

/-- The table that a file defines; `none` when the file is no such table. -/
def parse? (s : String) : Option Value :=
  let cs := s.toList
  let body := if cs.head? = some byteOrderMark then cs.tail else cs
  (readLines .start (body.length + 1) body).map Node.toValue

end Toml

end BankLedger
