import BankLedger.Account.Arguments

/-!
# The Form of Numbers and Codes

Account numbers and currency codes are texts, and each of them is looked at once, when it comes in.
The look divides a number at its hyphens and counts, and takes the letters of a code by their class.
What it comes down to is written out here: which characters stand where.

## Main definitions

* `AccountNumber.Grouped`: Two, four and four digits with hyphens between them.
* `Currency.ThreeCapitals`: Three letters from `A` to `Z`.

## Theorems

* `AccountNumber.isWellFormed_iff`: The texts that are account numbers.
* `Currency.isCode_iff`: The texts that are currency codes.
-/

namespace BankLedger

/-- The digits are those of ASCII. -/
theorem isDigit_iff (c : Char) : c.isDigit = true ↔ '0' ≤ c ∧ c ≤ '9' := by
  unfold Char.isDigit
  rw [Bool.and_eq_true, decide_eq_true_iff, decide_eq_true_iff]
  rfl

/-- So are the capital letters. -/
theorem isUpper_iff (c : Char) : c.isUpper = true ↔ 'A' ≤ c ∧ c ≤ 'Z' := by
  unfold Char.isUpper
  rw [decide_eq_true_iff]
  rfl

namespace AccountNumber

/-- Two digits, four digits and four digits, with hyphens between them. -/
def Grouped (cs : List Char) : Prop :=
  ∃ first second third : List Char, first.length = 2 ∧ second.length = 4 ∧ third.length = 4 ∧
    (∀ d ∈ first ++ (second ++ third), '0' ≤ d ∧ d ≤ '9') ∧
    cs = first ++ '-' :: (second ++ '-' :: third)

theorem hyphen_not_digit {d : Char} (h : '0' ≤ d ∧ d ≤ '9') : d ≠ '-' := by
  rintro rfl
  exact absurd h (by decide)

/-- The hyphens divide a text of the form into its groups. -/
theorem splitOn_grouped {first second third : List Char}
    (h : ∀ d ∈ first ++ (second ++ third), '0' ≤ d ∧ d ≤ '9') :
    (first ++ '-' :: (second ++ '-' :: third)).splitOn '-' = [first, second, third] := by
  have hnone (group : List Char) (hsub : ∀ d ∈ group, d ∈ first ++ (second ++ third)) :
      '-' ∉ group := fun hmem => hyphen_not_digit (h _ (hsub _ hmem)) rfl
  rw [List.splitOn_append_cons_self_of_not_mem
      (hnone first fun d hd => List.mem_append_left _ hd),
    List.splitOn_append_cons_self_of_not_mem
      (hnone second fun d hd => List.mem_append_right _ (List.mem_append_left _ hd)),
    List.splitOn_eq_singleton
      (hnone third fun d hd => List.mem_append_right _ (List.mem_append_right _ hd))]

-- A text is put together again from the groups that its hyphens divide it into.
/-- The account numbers are the texts of two, four and four digits with hyphens between them. -/
theorem isWellFormed_iff (s : String) : isWellFormed s = true ↔ Grouped s.toList := by
  unfold isWellFormed
  rw [Bool.and_eq_true, beq_iff_eq, List.all_eq_true]
  constructor
  · rintro ⟨hlengths, hdigits⟩
    have hjoined : ['-'].intercalate (s.toList.splitOn '-') = s.toList :=
      List.intercalate_splitOn '-'
    generalize s.toList.splitOn '-' = groups at hlengths hdigits hjoined
    rcases groups with _ | ⟨first, _ | ⟨second, _ | ⟨third, _ | ⟨fourth, rest⟩⟩⟩⟩ <;>
      simp only [groupLengths, List.map_cons, List.map_nil, List.cons.injEq, and_true,
        and_false, List.nil_eq, List.cons_ne_nil] at hlengths
    refine ⟨first, second, third, hlengths.1, hlengths.2.1, hlengths.2.2, ?_, hjoined.symm.trans ?_⟩
    · simp only [List.mem_cons, List.not_mem_nil, or_false, forall_eq_or_imp, forall_eq,
        List.all_eq_true, isDigit_iff] at hdigits
      rcases hdigits with ⟨hfirst, hsecond, hthird⟩
      exact List.forall_mem_append.mpr ⟨hfirst, List.forall_mem_append.mpr ⟨hsecond, hthird⟩⟩
    · simp only [List.intercalate, List.intersperse_cons_cons, List.intersperse_singleton,
        List.flatten_cons, List.flatten_nil, List.append_nil, List.cons_append, List.nil_append]
  · rintro ⟨first, second, third, hfirst, hsecond, hthird, hdigits, heq⟩
    rw [heq, splitOn_grouped hdigits]
    simp only [List.forall_mem_append] at hdigits
    refine ⟨by simp only [List.map_cons, List.map_nil, hfirst, hsecond, hthird, groupLengths], ?_⟩
    simpa only [List.mem_cons, List.not_mem_nil, or_false, forall_eq_or_imp, forall_eq,
      List.all_eq_true, isDigit_iff] using hdigits

end AccountNumber

namespace Currency

/-- Three letters from `A` to `Z`. -/
def ThreeCapitals (s : String) : Prop := s.toList.length = 3 ∧ ∀ c ∈ s.toList, 'A' ≤ c ∧ c ≤ 'Z'

/-- The currency codes are the texts of three capital letters. -/
theorem isCode_iff (s : String) : isCode s = true ↔ ThreeCapitals s := by
  unfold isCode ThreeCapitals
  simp only [Bool.and_eq_true, beq_iff_eq, List.all_eq_true, isUpper_iff, String.length_toList]

end Currency

end BankLedger
