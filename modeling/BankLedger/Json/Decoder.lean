import BankLedger.Json.Tree
import BankLedger.Sorted

/-!
# Decoding JSON

A decoder turns the tree of a JSON text into a value of some type, or finds the first fault in the
order of the text. How deep lists and records may be nested is limited, so a decoder is told how
many levels are left.

A record is decoded in two passes. The first one goes through the members in the order of the text:
a member with a known name is decoded, a second one of that name is a mismatch, and members with
other names are skipped. The second pass takes the fields by name and puts them together. A list is
taken for a record as well, with the fields in their own order and none left out.

## Main definitions

* `Json.Decoder`: A decoder of values of a type.
* `Json.Decoder.text`, `Json.Decoder.name`, `Json.Decoder.json`: Strings, names out of a list, and
  any value at all.
* `Json.RecordDecoder`: A decoder of some fields of a record.
* `Json.RecordDecoder.toDecoder`: The decoder of a record with these fields.
* `Json.decodeText`: Decodes a text.
-/

namespace BankLedger

namespace Json

/-- A decoder: what a tree means, with so many levels of nesting left. -/
abbrev Decoder (α : Type) := Nat → Tree → Except Fault α

/-- How many levels of lists and records a text may have. -/
def maxDepth : Nat := 127

mutual
/-- Skips a value. A number may be too large and a string may be spoilt, and nesting does not
    count. -/
def skip : Tree → Except Fault Unit
  | .broken b => .error b.skipped
  | .list items ending => skipItems ending items
  | .record members ending => skipMembers ending members
  | _ => .ok ()
/-- Skips the items of a list, up to the break if there is one. -/
def skipItems (ending : Option Break) : List Tree → Except Fault Unit
  | [] => match ending with
    | none => .ok ()
    | some b => .error b.skipped
  | t :: ts => match skip t with
    | .ok _ => skipItems ending ts
    | .error f => .error f
/-- Skips the members of a record, up to the break if there is one. -/
def skipMembers (ending : Option Break) : List (Option String × Tree) → Except Fault Unit
  | [] => match ending with
    | none => .ok ()
    | some b => .error b.skipped
  | m :: ms => match skip m.2 with
    | .ok _ => skipMembers ending ms
    | .error f => .error f
end

namespace Decoder

/-- The fault of a value that is not of the wanted kind. The value is looked at before it is
    refused, so its own faults come first. -/
def refuse : Tree → Fault
  | .broken b => b.used
  | .number none => .malformed
  | .text none => .malformed
  | _ => .mismatch

/-- Decodes a string. -/
def text : Decoder String
  | _, .text (some s) => .ok s
  | _, t => .error (refuse t)

/-- Decodes the absent value. -/
def null : Decoder Unit
  | _, .null => .ok ()
  | _, t => .error (refuse t)

/-- Decodes what may be absent. -/
def optional {α : Type} (d : Decoder α) : Decoder (Option α)
  | _, .null => .ok none
  | depth, t => (d depth t).map some

/-- Decodes and converts; a value that cannot be converted is a mismatch. -/
def convert {α β : Type} (d : Decoder α) (f : α → Option β) : Decoder β := fun depth t =>
  match d depth t with
  | .error e => .error e
  | .ok a => match f a with
    | some b => .ok b
    | none => .error .mismatch

/-- The value of a name. -/
def ofName {α : Type} (names : List (String × α)) (s : String) : Except Fault α :=
  match names.lookup s with
  | some a => .ok a
  | none => .error .mismatch

/-- The end of a record, with what is wrong there for a reader that wants a name. -/
def nameEnd (members : List (Option String × Tree)) : Option Break → Except Fault Unit
  | none => if members.isEmpty then .ok () else .error .malformed
  | some b => if members.isEmpty then .error b.named else .error .malformed

/-- Decodes one of some names: a string, or a record whose only member has the name for its key and
    nothing for its value. Anything else is not even looked at. -/
def name {α : Type} (names : List (String × α)) : Decoder α
  | _, .text (some s) => ofName names s
  | 0, .record _ _ => .error .malformed
  | _, .record [] none => .error .malformed
  | _, .record [] (some b) => .error b.named
  | _, .record ((none, _) :: _) _ => .error .malformed
  | depth + 1, .record ((some key, value) :: rest) ending =>
      match ofName names key with
      | .error e => .error e
      | .ok a => match null depth value with
        | .error e => .error e
        | .ok _ => (nameEnd rest ending).map fun _ => a
  | _, .broken b => .error b.named
  | _, _ => .error .malformed

mutual
/-- Decodes any value, with so many levels of nesting left. -/
def jsonAt : Tree → Nat → Except Fault Json
  | .null, _ => .ok .null
  | .bool b, _ => .ok (.bool b)
  | .number (some n), _ => .ok (.number n)
  | .number none, _ => .error .malformed
  | .text (some s), _ => .ok (.text s)
  | .text none, _ => .error .malformed
  | .broken b, _ => .error b.used
  | .list _ _, 0 => .error .malformed
  | .list items ending, depth + 1 => (jsonItems ending items depth).map .list
  | .record _ _, 0 => .error .malformed
  | .record members ending, depth + 1 =>
      (jsonMembers ending members depth).map fun ms => .record (Sorted.ofList ms)
/-- Decodes the items of a list, up to the break if there is one. -/
def jsonItems (ending : Option Break) : List Tree → Nat → Except Fault (List Json)
  | [], _ => match ending with
    | none => .ok []
    | some b => .error b.used
  | t :: ts, depth => match jsonAt t depth with
    | .error e => .error e
    | .ok v => (jsonItems ending ts depth).map (v :: ·)
/-- Decodes the members of a record, up to the break if there is one. -/
def jsonMembers (ending : Option Break) :
    List (Option String × Tree) → Nat → Except Fault (List (String × Json))
  | [], _ => match ending with
    | none => .ok []
    | some b => .error b.used
  | m :: ms, depth => match m.1 with
    | none => .error .malformed
    | some key => match jsonAt m.2 depth with
      | .error e => .error e
      | .ok v => (jsonMembers ending ms depth).map ((key, v) :: ·)
end

/-- Decodes any value. The members of its records come out sorted by key, and the last member of a
    key counts. -/
def json : Decoder Json := fun depth t => jsonAt t depth

end Decoder

/-- A decoder of some fields of a record. -/
structure RecordDecoder (α : Type) where
  /-- The names of the fields in their own order, and how each is checked. -/
  fields : List (String × Decoder Unit)
  /-- Puts the fields together, given the tree of each name and the levels left. -/
  build : (String → Option Tree) → Nat → Except Fault α

namespace RecordDecoder

/-- The decoder of no field. -/
def done {α : Type} (a : α) : RecordDecoder α := ⟨[], fun _ _ => .ok a⟩

/-- Gives the value of one more field to what has been put together. `d` decodes the field, and
    `missing` is its value when it is left out. -/
def andField {α β : Type} (r : RecordDecoder (α → β)) (name : String) (d : Decoder α)
    (missing : Except Fault α) : RecordDecoder β where
  fields := r.fields ++ [(name, fun depth t => (d depth t).map fun _ => ())]
  build get depth :=
    match r.build get depth with
    | .error e => .error e
    | .ok f => match get name with
      | some t => (d depth t).map f
      | none => missing.map f

/-- One more field that must be there. -/
def field {α β : Type} (r : RecordDecoder (α → β)) (name : String) (d : Decoder α) :
    RecordDecoder β := r.andField name d (.error .mismatch)

/-- One more field that may be absent or left out. -/
def optionalField {α β : Type} (r : RecordDecoder (Option α → β)) (name : String)
    (d : Decoder α) : RecordDecoder β := r.andField name d.optional (.ok none)

/-- Checks the members of a record in the order of the text; `seen` are the known names so far. -/
def checkMembers (fields : List (String × Decoder Unit)) (depth : Nat) (seen : List String) :
    List (Option String × Tree) → Except Fault Unit
  | [] => .ok ()
  | (none, _) :: _ => .error .malformed
  | (some name, t) :: rest =>
      match fields.lookup name with
      | none => match skip t with
        | .error e => .error e
        | .ok _ => checkMembers fields depth seen rest
      | some check =>
          if seen.contains name then .error .mismatch
          else match check depth t with
            | .error e => .error e
            | .ok _ => checkMembers fields depth (name :: seen) rest

/-- Checks the items of a list that is taken for a record. -/
def checkItems (depth : Nat) (ending : Option Break) :
    List (String × Decoder Unit) → List Tree → Except Fault Unit
  | [], [] => match ending with
    | none => .ok ()
    | some b => .error b.used
  | [], _ :: _ => .error .malformed
  | _ :: _, [] => match ending with
    | none => .error .mismatch
    | some b => .error b.used
  | f :: fs, t :: ts => match f.2 depth t with
    | .error e => .error e
    | .ok _ => checkItems depth ending fs ts

/-- The decoder of a record with the given fields. -/
def toDecoder {α : Type} (r : RecordDecoder α) : Decoder α
  | depth + 1, .record members ending =>
      match checkMembers r.fields depth [] members, ending with
      | .error e, _ => .error e
      | .ok _, some b => .error b.used
      | .ok _, none => r.build (fun name => members.lookup (some name)) depth
  | depth + 1, .list items ending =>
      match checkItems depth ending r.fields items with
      | .error e => .error e
      | .ok _ => r.build (fun name => ((r.fields.map Prod.fst).zip items).lookup name) depth
  | 0, .record _ _ => .error .malformed
  | 0, .list _ _ => .error .malformed
  | _, t => .error (Decoder.refuse t)

end RecordDecoder

/-- Decodes a text. Nothing but blanks may follow the value. -/
def decodeText {α : Type} (d : Decoder α) (s : String) : Except Fault α :=
  let (t, ended) := treeOf s.toList
  match d maxDepth t with
  | .error e => .error e
  | .ok a => if ended then .ok a else .error .malformed

/-- Decodes a value that has been read already. -/
def decodeValue {α : Type} (d : Decoder α) (v : Json) : Except Fault α := d maxDepth (toTree v)

end Json

end BankLedger
