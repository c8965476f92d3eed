import BankLedger.Json.Decoder
import BankLedger.Proofs.Attempt
import BankLedger.Proofs.Sorted
import Mathlib.Data.List.Nodup

/-!
# Decoding Whole Trees

What the decoders make of a tree that has no break in it, and what is known of a value that they
have made of any tree.

A record that has just the fields of its decoder, each of them once and in their order, is decoded
when each field is. This is followed one field at a time, in the way the decoder is put together:
`RecordDecoder.Reads` says what is known of the fields so far, and one more field gives the next
value to what they build. The order matters to no reader, but the records that are written have it,
and with it the names need to be compared once only.

Any value at all is read from its tree as it is, if its records have their keys in order, because
that is the order in which they come out, and if there are enough levels for it.

## Main definitions

* `Json.RecordDecoder.Reads`: The members of a record are the fields of a decoder, and build a
  value.
* `Json.RecordDecoder.fieldValue`: What a field amounts to.
* `Json.isOrdered`: The keys of all records rise.
* `Json.nesting`: How many lists and records stand inside each other.

## Theorems

* `Json.RecordDecoder.Reads.field`, `Json.RecordDecoder.Reads.optionalField`: One more field.
* `Json.RecordDecoder.Reads.decodeValue`: The record is decoded.
* `Json.RecordDecoder.exists_build`, `Json.RecordDecoder.build_andField_iff`: A value that was
  decoded is built from its fields.
* `Json.Decoder.name_eq`, `Json.Decoder.optional_ofOption`: Names, and what may be absent.
* `Json.Decoder.json_toTree`: A value is read from its tree.
* `Json.Decoder.isOrdered_of_jsonAt`: A value that is read is in order.
-/

namespace BankLedger

namespace Json

/-- A text is read when the tree of it is decoded and nothing is left behind the value. -/
theorem decodeText_eq_ok_iff {α : Type} {d : Decoder α} {s : String} {a : α} :
    decodeText d s = .ok a ↔
      d maxDepth (treeOf s.toList).1 = .ok a ∧ (treeOf s.toList).2 = true := by
  unfold decodeText
  rcases treeOf s.toList with ⟨t, ended⟩
  dsimp only
  cases d maxDepth t with
  | error e => simp only [reduceCtorEq, false_and]
  | ok b => cases ended <;> simp

/-- What is read from a text is decoded from some tree. -/
theorem exists_of_decodeText {α : Type} {d : Decoder α} {s : String} {a : α}
    (h : decodeText d s = .ok a) : ∃ t, d maxDepth t = .ok a :=
  ⟨_, (decodeText_eq_ok_iff.mp h).1⟩

namespace RecordDecoder

variable {α β : Type} {members : List (String × Json)} {depth : Nat}

/-- The members are the fields of the decoder, in their order, each can be decoded, and together
    they build `a`. -/
structure Reads (r : RecordDecoder α) (members : List (String × Json)) (depth : Nat) (a : α) :
    Prop where
  names : r.fields.map Prod.fst = members.map Prod.fst
  distinct : (members.map Prod.fst).Nodup
  checks : ∀ m ∈ members, ∃ check, r.fields.lookup m.1 = some check ∧
    check depth (toTree m.2) = .ok ()
  build : ∀ get : String → Option Tree, (∀ m ∈ members, get m.1 = some (toTree m.2)) →
    r.build get depth = .ok a

theorem reads_done (a : α) (depth : Nat) : (done a).Reads [] depth a :=
  ⟨rfl, List.nodup_nil, nofun, fun _ _ => rfl⟩

/-- A name is found in the second list if it is not in the first. -/
theorem lookup_append {name : String} {l l' : List (String × Decoder Unit)}
    (h : name ∉ l.map Prod.fst) : (l ++ l').lookup name = l'.lookup name := by
  rw [List.lookup_append, List.lookup_eq_none_iff.mpr, Option.none_or]
  intro entry hentry
  rw [bne_iff_ne]
  rintro rfl
  exact h (List.mem_map_of_mem hentry)

namespace Reads

variable {r : RecordDecoder (α → β)} {f : α → β} {d : Decoder α} {v : Json} {a : α}

/-- One more field gives its value to what the others build. -/
theorem andField (h : r.Reads members depth f) (name : String) (hnew : name ∉ members.map Prod.fst)
    (ha : d depth (toTree v) = .ok a) (missing : Except Fault α) :
    (r.andField name d missing).Reads (members ++ [(name, v)]) depth (f a) := by
  constructor
  · simp only [RecordDecoder.andField, List.map_append, h.names, List.map_cons, List.map_nil]
  · rw [List.map_append]
    exact h.distinct.append (List.nodup_singleton name) (by simpa using hnew)
  · intro m hm
    rcases List.mem_append.mp hm with hold | hlast
    · rcases h.checks m hold with ⟨check, hcheck, hok⟩
      refine ⟨check, ?_, hok⟩
      simp only [RecordDecoder.andField, List.lookup_append, hcheck, Option.some_or]
    · rw [List.mem_singleton.mp hlast]
      refine ⟨_, (lookup_append (h.names ▸ hnew)).trans List.lookup_cons_self, ?_⟩
      simp only [ha, Except.map]
  · intro get hget
    have hbuild := h.build get fun m hm => hget m (List.mem_append_left _ hm)
    have hlast := hget (name, v) List.mem_concat_self
    simp only [RecordDecoder.andField, hbuild, hlast, ha, Except.map]

theorem field (h : r.Reads members depth f) (name : String) (hnew : name ∉ members.map Prod.fst)
    (ha : d depth (toTree v) = .ok a) :
    (r.field name d).Reads (members ++ [(name, v)]) depth (f a) :=
  h.andField name hnew ha _

theorem optionalField {r : RecordDecoder (Option α → β)} {f : Option α → β} {a : Option α}
    (h : r.Reads members depth f) (name : String) (hnew : name ∉ members.map Prod.fst)
    (ha : d.optional depth (toTree v) = .ok a) :
    (r.optionalField name d).Reads (members ++ [(name, v)]) depth (f a) :=
  h.andField name hnew ha _

end Reads

-- By induction on the members; none of the names seen so far comes again.
/-- Members with known names, each of them once, pass if their values do. -/
theorem checkMembers_eq_ok {fields : List (String × Decoder Unit)} {seen : List String}
    (hchecks : ∀ m ∈ members, ∃ check, fields.lookup m.1 = some check ∧
      check depth (toTree m.2) = .ok ())
    (hdistinct : (members.map Prod.fst).Nodup) (hseen : ∀ m ∈ members, m.1 ∉ seen) :
    checkMembers fields depth seen (memberTrees members) = .ok () := by
  induction members generalizing seen with
  | nil => rfl
  | cons m ms ih =>
      rcases hchecks m List.mem_cons_self with ⟨check, hcheck, hok⟩
      have hnew : ¬ seen.contains m.1 = true := by
        simpa using hseen m List.mem_cons_self
      rcases List.nodup_cons.mp hdistinct with ⟨hfirst, hrest⟩
      simp only [memberTrees, checkMembers, hcheck, hok]
      rw [if_neg hnew]
      refine ih (fun m' hm' => hchecks m' (List.mem_cons_of_mem _ hm')) hrest fun m' hm' => ?_
      rw [List.mem_cons, not_or]
      refine ⟨fun heq => hfirst (heq ▸ List.mem_map_of_mem hm'), ?_⟩
      exact hseen m' (List.mem_cons_of_mem _ hm')

/-- A member is found by its name if no other has that name. -/
theorem lookup_memberTrees (hdistinct : (members.map Prod.fst).Nodup) {m : String × Json}
    (hm : m ∈ members) : (memberTrees members).lookup (some m.1) = some (toTree m.2) := by
  induction members with
  | nil => cases hm
  | cons m' ms ih =>
      rcases List.nodup_cons.mp hdistinct with ⟨hfirst, hrest⟩
      rcases List.mem_cons.mp hm with rfl | hlater
      · exact List.lookup_cons_self
      · have hne : (some m.1 == some m'.1) = false := by
          refine beq_false_of_ne fun heq => hfirst ?_
          rw [← Option.some.inj heq]
          exact List.mem_map_of_mem hlater
        rw [memberTrees, List.lookup_cons, hne]
        exact ih hrest hlater

/-- A record that has the fields of its decoder is decoded. -/
theorem Reads.toDecoder {r : RecordDecoder α} {a : α} (h : r.Reads members depth a) :
    r.toDecoder (depth + 1) (toTree (.record members)) = .ok a := by
  have hcheck := checkMembers_eq_ok h.checks h.distinct fun m _ => List.not_mem_nil (a := m.1)
  rw [toTree]
  unfold RecordDecoder.toDecoder
  simp only [hcheck]
  exact h.build _ fun m hm => lookup_memberTrees h.distinct hm

/-- A record of a text leaves one level less for its members. -/
theorem Reads.decodeValue {r : RecordDecoder α} {a : α} (h : r.Reads members (maxDepth - 1) a) :
    decodeValue r.toDecoder (.record members) = .ok a := by
  have hdepth : maxDepth = maxDepth - 1 + 1 := rfl
  unfold Json.decodeValue
  rw [hdepth]
  exact h.toDecoder

section Build

variable {r : RecordDecoder (α → β)} {name : String} {d : Decoder α} {get : String → Option Tree}

/-- What a field amounts to: its value if it is there, and otherwise what it is when left out. -/
def fieldValue (d : Decoder α) (missing : Except Fault α) (depth : Nat) :
    Option Tree → Except Fault α
  | some t => d depth t
  | none => missing

/-- A value that is built from one more field has the value of that field in it. -/
theorem build_andField_iff {missing : Except Fault α} {b : β} :
    (r.andField name d missing).build get depth = .ok b ↔
      ∃ a f, fieldValue d missing depth (get name) = .ok a ∧ f a = b ∧
        r.build get depth = .ok f := by
  cases hbuild : r.build get depth with
  | error e => simp [andField, hbuild]
  | ok f =>
      cases hget : get name with
      | none => simp [andField, hbuild, hget, fieldValue, Attempt.map_eq_ok_iff]
      | some t => simp [andField, hbuild, hget, fieldValue, Attempt.map_eq_ok_iff]

theorem build_done_iff {a b : α} : (done a).build get depth = .ok b ↔ a = b := by
  simp [done]

/-- A field that must be there was decoded. -/
theorem exists_of_fieldValue {e : Fault} {t : Option Tree} {a : α}
    (h : fieldValue d (.error e) depth t = .ok a) : ∃ t, d depth t = .ok a := by
  cases t with
  | none => cases h
  | some t => exact ⟨t, h⟩

/-- A field that may be left out was decoded if it has a value. -/
theorem exists_of_optionalValue {t : Option Tree} {a : Option α}
    (h : fieldValue d.optional (.ok none) depth t = .ok a) : ∀ b ∈ a, ∃ t, d depth t = .ok b := by
  rintro b rfl
  cases t with
  | none => cases h
  | some t =>
      have hmap : (d depth t).map some = .ok (some b) := by
        cases t <;> first | exact h | cases h
      rcases (Attempt.map_eq_ok_iff _ _ _).mp hmap with ⟨b', hread, heq⟩
      cases heq
      exact ⟨t, hread⟩

/-- A value that is decoded was built from fields. -/
theorem exists_build {r : RecordDecoder α} {t : Tree} {a : α} (h : r.toDecoder depth t = .ok a) :
    ∃ get left, r.build get left = .ok a := by
  unfold RecordDecoder.toDecoder at h
  split at h
  · split at h
    · cases h
    · cases h
    · exact ⟨_, _, h⟩
  · split at h
    · cases h
    · exact ⟨_, _, h⟩
  all_goals cases h

end Build

end RecordDecoder

namespace Decoder

variable {α : Type} {depth : Nat}

theorem text_eq (s : String) : text depth (toTree (.text s)) = .ok s := rfl

/-- A name is read as what it names. -/
theorem name_eq {names : List (String × α)} {s : String} {a : α} (h : names.lookup s = some a) :
    name names depth (toTree (.text s)) = .ok a := by
  simp only [toTree, name, ofName, h]

theorem convert_eq_ok_iff {β : Type} {d : Decoder α} {f : α → Option β} {t : Tree} {b : β} :
    d.convert f depth t = .ok b ↔ ∃ a, d depth t = .ok a ∧ f a = some b := by
  cases ha : d depth t with
  | error e => simp [convert, ha]
  | ok a => cases hb : f a <;> simp [convert, ha, hb]

/-- What is converted is read from the same texts, as far as it can be converted. -/
theorem decodeText_convert_iff {β : Type} {d : Decoder α} {f : α → Option β} {s : String} {b : β} :
    decodeText (d.convert f) s = .ok b ↔ ∃ a, decodeText d s = .ok a ∧ f a = some b := by
  simp only [decodeText_eq_ok_iff, convert_eq_ok_iff]
  constructor
  · rintro ⟨⟨a, ha, hb⟩, hended⟩
    exact ⟨a, ⟨ha, hended⟩, hb⟩
  · rintro ⟨a, ⟨ha, hended⟩, hb⟩
    exact ⟨⟨a, ha, hb⟩, hended⟩

/-- What may be absent is read as it is, if its text is read when it is there. -/
theorem optional_ofOption {d : Decoder α} (toText : α → String) {a : Option α}
    (h : ∀ b ∈ a, d depth (toTree (.text (toText b))) = .ok b) :
    d.optional depth (toTree (Json.ofOption (fun b => .text (toText b)) a)) = .ok a := by
  cases a with
  | none => rfl
  | some b => exact congrArg (Except.map some) (h b rfl)

end Decoder

mutual
/-- The keys of all records in the value rise. -/
def isOrdered : Json → Bool
  | .list items => itemsOrdered items
  | .record members =>
      decide (members.Pairwise (·.1 < ·.1)) && membersOrdered members
  | _ => true
/-- The keys of all records in the items do. -/
def itemsOrdered : List Json → Bool
  | [] => true
  | v :: vs => isOrdered v && itemsOrdered vs
/-- The keys of all records in the values of the members do. -/
def membersOrdered : List (String × Json) → Bool
  | [] => true
  | m :: ms => isOrdered m.2 && membersOrdered ms
end

mutual
/-- How many lists and records stand inside each other. -/
def nesting : Json → Nat
  | .list items => itemsNesting items + 1
  | .record members => membersNesting members + 1
  | _ => 0
/-- The deepest nesting of the items. -/
def itemsNesting : List Json → Nat
  | [] => 0
  | v :: vs => max (nesting v) (itemsNesting vs)
/-- The deepest nesting of the values of the members. -/
def membersNesting : List (String × Json) → Nat
  | [] => 0
  | m :: ms => max (nesting m.2) (membersNesting ms)
end

namespace Decoder

-- The three follow the value in the way the decoder does; a level is used up at each bracket.
mutual
/-- A value is read from its tree, if there are enough levels. -/
theorem jsonAt_toTree (v : Json) (hv : v.isOrdered = true) {depth : Nat}
    (hdepth : v.nesting ≤ depth) : jsonAt (toTree v) depth = .ok v := by
  match v, depth with
  | .null, _ => rfl
  | .bool b, _ => rfl
  | .number n, _ => rfl
  | .text s, _ => rfl
  | .list items, depth + 1 =>
      have hread := jsonItems_itemTrees items hv (Nat.le_of_succ_le_succ hdepth)
      rw [toTree, jsonAt, hread]
      rfl
  | .record members, depth + 1 =>
      rcases Bool.and_eq_true_iff.mp hv with ⟨hrising, hvalues⟩
      have hread := jsonMembers_memberTrees members hvalues (Nat.le_of_succ_le_succ hdepth)
      rw [toTree, jsonAt, hread, Except.map, Sorted.ofList_eq_self (of_decide_eq_true hrising)]
/-- The items of a list are read. -/
theorem jsonItems_itemTrees (vs : List Json) (hvs : itemsOrdered vs = true) {depth : Nat}
    (hdepth : itemsNesting vs ≤ depth) : jsonItems none (itemTrees vs) depth = .ok vs := by
  match vs with
  | [] => rfl
  | v :: vs =>
      rcases Bool.and_eq_true_iff.mp hvs with ⟨hfirst, hrest⟩
      rcases max_le_iff.mp hdepth with ⟨hdepthFirst, hdepthRest⟩
      rw [itemTrees, jsonItems, jsonAt_toTree v hfirst hdepthFirst,
        jsonItems_itemTrees vs hrest hdepthRest]
      rfl
/-- The members of a record are read. -/
theorem jsonMembers_memberTrees (ms : List (String × Json)) (hms : membersOrdered ms = true)
    {depth : Nat} (hdepth : membersNesting ms ≤ depth) :
    jsonMembers none (memberTrees ms) depth = .ok ms := by
  match ms with
  | [] => rfl
  | m :: ms =>
      rcases Bool.and_eq_true_iff.mp hms with ⟨hfirst, hrest⟩
      rcases max_le_iff.mp hdepth with ⟨hdepthFirst, hdepthRest⟩
      rw [memberTrees, jsonMembers]
      simp only [jsonAt_toTree m.2 hfirst hdepthFirst,
        jsonMembers_memberTrees ms hrest hdepthRest]
      rfl
end

/-- A value is read, if there are enough levels. -/
theorem json_toTree {v : Json} {depth : Nat} (hv : v.isOrdered = true)
    (hdepth : v.nesting ≤ depth) : json depth (toTree v) = .ok v := jsonAt_toTree v hv hdepth

end Decoder

theorem membersOrdered_iff (ms : List (String × Json)) :
    membersOrdered ms = true ↔ ∀ m ∈ ms, m.2.isOrdered = true := by
  induction ms with
  | nil => simp [membersOrdered]
  | cons m ms ih => simp [membersOrdered, ih]

namespace Decoder

mutual
/-- A value that is read has its keys in order, whatever the order in the text. -/
theorem isOrdered_of_jsonAt (t : Tree) {depth : Nat} {v : Json} (h : jsonAt t depth = .ok v) :
    v.isOrdered = true := by
  match t, depth with
  | .null, _ => cases h; rfl
  | .bool b, _ => cases h; rfl
  | .number (some n), _ => cases h; rfl
  | .text (some s), _ => cases h; rfl
  | .list items ending, depth + 1 =>
      rcases (Attempt.map_eq_ok_iff _ _ _).mp h with ⟨vs, hvs, rfl⟩
      exact itemsOrdered_of_jsonItems items hvs
  | .record members ending, depth + 1 =>
      rcases (Attempt.map_eq_ok_iff _ _ _).mp h with ⟨ms, hms, rfl⟩
      have hvalues := (membersOrdered_iff ms).mp (membersOrdered_of_jsonMembers members hms)
      refine Bool.and_eq_true_iff.mpr ⟨decide_eq_true (Sorted.pairwise_ofList ms), ?_⟩
      exact (membersOrdered_iff _).mpr fun m hm => hvalues m (Sorted.mem_of_mem_ofList hm)
/-- So have the items of a list. -/
theorem itemsOrdered_of_jsonItems {ending : Option Break} (ts : List Tree) {depth : Nat}
    {vs : List Json} (h : jsonItems ending ts depth = .ok vs) : itemsOrdered vs = true := by
  match ts with
  | [] =>
      cases ending with
      | none => cases h; rfl
      | some b => cases h
  | t :: ts =>
      rw [jsonItems] at h
      cases hfirst : jsonAt t depth with
      | error e => rw [hfirst] at h; cases h
      | ok v =>
          rw [hfirst] at h
          rcases (Attempt.map_eq_ok_iff _ _ _).mp h with ⟨vs, hvs, rfl⟩
          exact Bool.and_eq_true_iff.mpr
            ⟨isOrdered_of_jsonAt t hfirst, itemsOrdered_of_jsonItems ts hvs⟩
/-- So have the values of the members of a record. -/
theorem membersOrdered_of_jsonMembers {ending : Option Break}
    (ts : List (Option String × Tree)) {depth : Nat} {ms : List (String × Json)}
    (h : jsonMembers ending ts depth = .ok ms) : membersOrdered ms = true := by
  match ts with
  | [] =>
      cases ending with
      | none => cases h; rfl
      | some b => cases h
  | (none, t) :: ts => cases h
  | (some key, t) :: ts =>
      rw [jsonMembers] at h
      dsimp only at h
      cases hfirst : jsonAt t depth with
      | error e => rw [hfirst] at h; cases h
      | ok v =>
          rw [hfirst] at h
          rcases (Attempt.map_eq_ok_iff _ _ _).mp h with ⟨ms, hms, rfl⟩
          exact Bool.and_eq_true_iff.mpr
            ⟨isOrdered_of_jsonAt t hfirst, membersOrdered_of_jsonMembers ts hms⟩
end

end Decoder

end Json

end BankLedger
