import BankLedger.Json.Token
import BankLedger.Json.Value

/-!
# JSON texts as trees

The tree of a JSON text, as far as the text goes. A text that stops being JSON has a tree too: the
part that was read, with the break where the text goes wrong. A reader that wants a value of some
kind walks the tree in the order of the text, so of two problems it meets the first, be it a break
or a value of the wrong kind.

The tree is built from the tokens by a machine that remembers the lists and records that are still
open. What a break means depends on who meets it, because a reader that wants a name looks at the
first character only and a reader that skips minds less than one that wants the value.

## Main definitions

* `Json.Tree`: A value, possibly with a break in it.
* `Json.Break`: What is wrong at a break.
* `Json.treeOf`: The tree of a text, and whether the text ends with it.
* `Json.toTree`: The tree of a value, which has no break.
-/

namespace BankLedger

namespace Json

/-- What is wrong at a place where a text stops being JSON. -/
structure Break where
  /-- The fault for a reader that wants the value. -/
  used : Fault
  /-- The fault for a reader that skips the value. -/
  skipped : Fault
  /-- The fault for a reader that wants a name. -/
  named : Fault
deriving DecidableEq

/-- A break that is the same for every reader. -/
def Break.plain (f : Fault) : Break := ⟨f, f, f⟩

/-- The tree of a value. -/
inductive Tree where
  | null
  | bool (b : Bool)
  /-- A number; `none` when it is too large. -/
  | number (n : Option Number)
  /-- A string; `none` when it holds half a surrogate pair. -/
  | text (s : Option String)
  /-- Items, and the break behind them if the list is not closed. -/
  | list (items : List Tree) (ending : Option Break)
  /-- Members, and the break behind them if the record is not closed. A key is `none` when it holds
      half a surrogate pair. -/
  | record (members : List (Option String × Tree)) (ending : Option Break)
  | broken (b : Break)

instance : Inhabited Tree := ⟨.null⟩

/-- A list or a record that is waiting for a value; what it holds so far is last first. -/
inductive Frame where
  | list (done : List Tree)
  /-- A record, and the key of the value. -/
  | record (done : List (Option String × Tree)) (key : Option String)

/-- What a reader of tokens is waiting for. -/
inductive State where
  | value (frames : List Frame)
  /-- The first item of a list, or its end. -/
  | firstItem (frames : List Frame)
  /-- A comma, or the end of a list. -/
  | afterItem (done : List Tree) (frames : List Frame)
  /-- The first key of a record, or its end. -/
  | firstKey (frames : List Frame)
  | nextKey (done : List (Option String × Tree)) (frames : List Frame)
  | colon (done : List (Option String × Tree)) (key : Option String) (frames : List Frame)
  /-- A comma, or the end of a record. -/
  | afterMember (done : List (Option String × Tree)) (frames : List Frame)
  | finished (t : Tree)

/-- Puts a value where one was waited for. -/
def State.ofValue (t : Tree) : List Frame → State
  | [] => .finished t
  | .list done :: frames => .afterItem (t :: done) frames
  | .record done key :: frames => .afterMember ((key, t) :: done) frames

/-- The tree that ends with `t` and a break: everything still open stays open. -/
def abandon (b : Break) (t : Tree) : List Frame → Tree
  | [] => t
  | .list done :: frames => abandon b (.list (t :: done).reverse (some b)) frames
  | .record done key :: frames => abandon b (.record ((key, t) :: done).reverse (some b)) frames

/-- The tree when the text breaks while a reader is waiting. A comma behind a member is more than a
    reader of a name wants, whatever follows it. -/
def State.abandon (b : Break) : State → Tree
  | .value frames => Json.abandon b (.broken b) frames
  | .firstItem frames => Json.abandon b (.broken b) (.list [] :: frames)
  | .afterItem done frames => Json.abandon b (.list done.reverse (some b)) frames
  | .firstKey frames => Json.abandon b (.record [] (some b)) frames
  | .nextKey done frames =>
      Json.abandon b (.record done.reverse (some { b with named := .malformed })) frames
  | .colon done key frames => Json.abandon b (.broken b) (.record done key :: frames)
  | .afterMember done frames => Json.abandon b (.record done.reverse (some b)) frames
  | .finished t => t

/-- What is wrong with a token where a value is wanted. A reader that wants a name takes a string
    and nothing else. -/
def valueBreak : Token → Break
  | .broken used skipped quote => ⟨used, skipped, if quote then used else .malformed⟩
  | _ => .plain .malformed

/-- What is wrong with a token where a key is wanted: only what begins as a string is looked at. -/
def keyBreak : Token → Break
  | .broken used skipped true => ⟨used, skipped, used⟩
  | _ => .plain .malformed

/-- Takes a token where a value is wanted. -/
def takeValue (frames : List Frame) : Token → Except Break State
  | .null => .ok (.ofValue .null frames)
  | .bool b => .ok (.ofValue (.bool b) frames)
  | .number n => .ok (.ofValue (.number n.number?) frames)
  | .text s => .ok (.ofValue (.text s) frames)
  | .openList => .ok (.firstItem frames)
  | .openRecord => .ok (.firstKey frames)
  | t => .error (valueBreak t)

/-- Takes a token, or finds that the text breaks there. -/
def State.take : State → Token → Except Break State
  | .value frames, t => takeValue frames t
  | .firstItem frames, .closeList => .ok (.ofValue (.list [] none) frames)
  | .firstItem frames, t => takeValue (.list [] :: frames) t
  | .afterItem done frames, .comma => .ok (.value (.list done :: frames))
  | .afterItem done frames, .closeList => .ok (.ofValue (.list done.reverse none) frames)
  | .firstKey frames, .closeRecord => .ok (.ofValue (.record [] none) frames)
  | .firstKey frames, .text key => .ok (.colon [] key frames)
  | .firstKey _, t => .error (keyBreak t)
  | .nextKey done frames, .text key => .ok (.colon done key frames)
  | .nextKey _ _, t => .error (keyBreak t)
  | .colon done key frames, .colon => .ok (.value (.record done key :: frames))
  | .afterMember done frames, .comma => .ok (.nextKey done frames)
  | .afterMember done frames, .closeRecord => .ok (.ofValue (.record done.reverse none) frames)
  | _, _ => .error (.plain .malformed)

/-- Takes tokens until a value is finished or the text breaks: its tree, and whether nothing
    follows. -/
def State.run : State → List Token → Tree × Bool
  | .finished t, rest => (t, rest.isEmpty)
  | s, [] => (s.abandon (.plain .truncated), true)
  | s, t :: rest =>
      match s.take t with
      | .ok s' => s'.run rest
      | .error b => (s.abandon b, true)

/-- The tree of a text, and whether the text ends with it. -/
def treeOf (cs : List Char) : Tree × Bool := (State.value []).run (tokens cs)

mutual
/-- The tree of a value. -/
def toTree : Json → Tree
  | .null => .null
  | .bool b => .bool b
  | .number n => .number (some n)
  | .text s => .text (some s)
  | .list items => .list (itemTrees items) none
  | .record members => .record (memberTrees members) none
/-- The trees of the items of a list. -/
def itemTrees : List Json → List Tree
  | [] => []
  | v :: vs => toTree v :: itemTrees vs
/-- The trees of the members of a record. -/
def memberTrees : List (String × Json) → List (Option String × Tree)
  | [] => []
  | m :: ms => (some m.1, toTree m.2) :: memberTrees ms
end

end Json

end BankLedger
