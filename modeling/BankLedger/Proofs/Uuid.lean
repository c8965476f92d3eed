import BankLedger.Account.Arguments
import Mathlib.Algebra.Group.Nat.Defs

/-!
# Identifiers Read Back

An identifier is written with hyphens between its groups of digits, and this is the first of the
spellings that are tried when it is read. None of the others gets in the way: a text of that length
keeps its braces and marks, and there are no characters in it but digits and hyphens.

## Theorems

* `Text.ofDigits_fixedDigits`: The digits of a number write it, as far as there are enough.
* `Uuid.parse_toText`, `Id.parse_toText`: What is written is read back.
-/

namespace BankLedger

namespace Text

/-- The sixteen digits have their values. -/
theorem digitValue_digitChar {d : Nat} (h : d < 16) : digitValue (Nat.digitChar d) = d := by
  have hall : ∀ d < 16, digitValue (Nat.digitChar d) = d := by decide
  exact hall d h

theorem isHexDigit_digitChar {d : Nat} (h : d < 16) : isHexDigit (Nat.digitChar d) = true := by
  have hall : ∀ d < 16, isHexDigit (Nat.digitChar d) = true := by decide
  exact hall d h

@[simp] theorem length_fixedDigits (base width n : Nat) :
    (fixedDigits base width n).length = width := by
  induction width generalizing n with
  | zero => rfl
  | succ w ih => simp [fixedDigits, ih]

/-- What holds of all digits of a base holds of those of a number. -/
theorem forall_mem_fixedDigits {base : Nat} {P : Char → Prop} (hbase : 0 < base)
    (h : ∀ d < base, P (Nat.digitChar d)) (width n : Nat) :
    ∀ c ∈ fixedDigits base width n, P c := by
  induction width generalizing n with
  | zero => simp [fixedDigits]
  | succ w ih =>
      intro c hc
      rcases List.mem_append.mp hc with hbefore | hlast
      · exact ih _ c hbefore
      · rw [List.mem_singleton.mp hlast]
        exact h _ (Nat.mod_lt n hbase)

theorem isHexDigit_fixedDigits (width n : Nat) :
    ∀ c ∈ fixedDigits 16 width n, isHexDigit c = true :=
  forall_mem_fixedDigits (by decide) (fun _ => isHexDigit_digitChar) width n

/-- The digits of a number write it, as far as there are enough of them. -/
theorem ofDigits_fixedDigits (width n : Nat) :
    ofDigits 16 (fixedDigits 16 width n) = n % 16 ^ width := by
  induction width generalizing n with
  | zero => simp [fixedDigits, ofDigits, Nat.mod_one]
  | succ w ih =>
      have hlast := digitValue_digitChar (Nat.mod_lt n (by decide : 0 < 16))
      have hfirst := ih (n / 16)
      unfold ofDigits at hfirst ⊢
      rw [fixedDigits, List.foldl_append, hfirst, List.foldl_cons, List.foldl_nil, hlast,
        Nat.pow_succ', Nat.mod_mul]
      omega

/-- A hexadecimal digit takes one byte. -/
theorem utf8Size_of_isHexDigit {c : Char} (h : isHexDigit c = true) : c.utf8Size = 1 := by
  rw [Char.utf8Size_eq_one_iff]
  simp only [isHexDigit, Char.isDigit, Bool.or_eq_true, Bool.and_eq_true, decide_eq_true_eq,
    Char.le_def, UInt32.le_iff_toNat_le] at h ⊢
  simp at h ⊢
  omega

theorem ne_hyphen_of_isHexDigit {c : Char} (h : isHexDigit c = true) : c ≠ '-' := by
  rintro rfl
  cases h

/-- Text of one byte for each character. -/
theorem utf8Length_eq_length {cs : List Char} (h : ∀ c ∈ cs, c.utf8Size = 1) :
    utf8Length cs = cs.length := by
  induction cs with
  | nil => rfl
  | cons c cs ih =>
      rw [utf8Length, h c List.mem_cons_self, ih fun d hd => h d (List.mem_cons_of_mem _ hd),
        List.length_cons, Nat.add_comm]

end Text

namespace Uuid

section Hyphenate

variable {ds : List Char}

theorem mem_hyphenate {c : Char} (h : c ∈ hyphenate ds) : c ∈ ds ∨ c = '-' := by
  simp only [hyphenate, List.mem_append, List.mem_cons] at h
  rcases h with h | h | h | h | h | h | h | h | h
  · exact Or.inl (List.mem_of_mem_take h)
  · exact Or.inr h
  · exact Or.inl (List.mem_of_mem_drop (List.mem_of_mem_take h))
  · exact Or.inr h
  · exact Or.inl (List.mem_of_mem_drop (List.mem_of_mem_take h))
  · exact Or.inr h
  · exact Or.inl (List.mem_of_mem_drop (List.mem_of_mem_take h))
  · exact Or.inr h
  · exact Or.inl (List.mem_of_mem_drop h)

theorem length_hyphenate (h : ds.length = 32) : (hyphenate ds).length = hyphenatedLength := by
  simp [hyphenate, h, hyphenatedLength]

variable (hds : ∀ c ∈ ds, c ≠ '-')

include hds

/-- Without the hyphens the digits are left. -/
theorem filter_hyphenate : (hyphenate ds).filter (· != '-') = ds := by
  have hkeep : ∀ l : List Char, l.Sublist ds → l.filter (· != '-') = l := by
    intro l hl
    refine List.filter_eq_self.mpr fun c hc => ?_
    simpa using hds c (hl.subset hc)
  have hgroup : ∀ k m, ((ds.drop k).take m).filter (· != '-') = (ds.drop k).take m := fun k m =>
    hkeep _ ((List.take_sublist _ _).trans (List.drop_sublist _ _))
  unfold hyphenate
  rw [List.filter_append, hkeep _ (List.take_sublist _ _), List.filter_cons_of_neg (by simp),
    List.filter_append, hgroup, List.filter_cons_of_neg (by simp), List.filter_append, hgroup,
    List.filter_cons_of_neg (by simp), List.filter_append, hgroup,
    List.filter_cons_of_neg (by simp), hkeep _ (List.drop_sublist _ _)]
  -- The groups are put together from the last one on.
  have hrest : ∀ k, (ds.drop k).take 4 ++ ds.drop (k + 4) = ds.drop k := by
    intro k
    rw [← List.drop_drop, List.take_append_drop]
  rw [hrest 16, hrest 12, hrest 8, List.take_append_drop]

/-- The hyphens divide the text into the groups again. -/
theorem isHyphenated_hyphenate (h : ds.length = 32) : isHyphenated (hyphenate ds) = true := by
  have hgroup : ∀ k m, '-' ∉ (ds.drop k).take m := fun k m hmem =>
    hds _ (List.mem_of_mem_drop (List.mem_of_mem_take hmem)) rfl
  have hfirst : '-' ∉ ds.take 8 := fun hmem => hds _ (List.mem_of_mem_take hmem) rfl
  have hlast : '-' ∉ ds.drop 20 := fun hmem => hds _ (List.mem_of_mem_drop hmem) rfl
  unfold isHyphenated hyphenate
  rw [List.splitOn_append_cons_self_of_not_mem hfirst,
    List.splitOn_append_cons_self_of_not_mem (hgroup 8 4),
    List.splitOn_append_cons_self_of_not_mem (hgroup 12 4),
    List.splitOn_append_cons_self_of_not_mem (hgroup 16 4), List.splitOn_eq_singleton hlast]
  simp [h, groupLengths]

end Hyphenate

theorem strayCharacter?_eq_none {cs : List Char} (h : ∀ c ∈ cs, Text.isHexDigit c = true ∨ c = '-')
    (position : Nat) : strayCharacter? position cs = none := by
  induction cs generalizing position with
  | nil => rfl
  | cons c cs ih =>
      have hc : (Text.isHexDigit c || c == '-') = true := by
        simpa using h c List.mem_cons_self
      rw [strayCharacter?, if_pos hc]
      exact ih (fun d hd => h d (List.mem_cons_of_mem _ hd)) _

/-- An identifier that is written is read back. -/
theorem parse_toText (u : Uuid) : parse u.toText = .ok u := by
  have hhex := Text.isHexDigit_fixedDigits 32 u.value
  have hhyphen : ∀ c ∈ u.plainDigits, c ≠ '-' := fun c hc =>
    Text.ne_hyphen_of_isHexDigit (hhex c hc)
  have hlength : u.plainDigits.length = 32 := Text.length_fixedDigits 16 32 u.value
  have hchars : ∀ c ∈ u.toChars, Text.isHexDigit c = true ∨ c = '-' := fun c hc =>
    (mem_hyphenate hc).imp_left (hhex c)
  have hsize : Text.utf8Length u.toChars = hyphenatedLength := by
    rw [Text.utf8Length_eq_length, toChars, length_hyphenate hlength]
    intro c hc
    rcases hchars c hc with hdigit | rfl
    · exact Text.utf8Size_of_isHexDigit hdigit
    · rfl
  have hvalue : ofNat (Text.ofDigits 16 u.plainDigits) = u := by
    have hlt : u.value < 16 ^ 32 := u.value_lt
    have hmod : u.value % limit = u.value := Nat.mod_eq_of_lt u.value_lt
    unfold plainDigits ofNat
    simp only [Text.ofDigits_fixedDigits, Nat.mod_eq_of_lt hlt, hmod]
  have hundress : undress u.toChars hyphenatedLength = ⟨u.toChars, 0, true⟩ := if_pos rfl
  have hlimits : ¬ (hyphenatedLength = 0 || 45 < hyphenatedLength) = true := by decide
  unfold parse parseChars toText
  rw [String.toList_ofList, hsize]
  simp only [hundress, strayCharacter?_eq_none hchars]
  have hshape : isHyphenated u.toChars = true := isHyphenated_hyphenate hhyphen hlength
  have hdigits : u.toChars.filter (· != '-') = u.plainDigits := filter_hyphenate hhyphen
  rw [if_neg hlimits, hshape, Bool.or_true, if_pos rfl, hdigits, hvalue]

end Uuid

/-- An identifier that is written is read back as one of its kind. -/
theorem Id.parse_toText {subject : Subject} (a : Id subject) :
    Id.parse subject a.toText = .ok a := by
  unfold Id.parse Id.toText
  rw [Uuid.parse_toText]

end BankLedger
