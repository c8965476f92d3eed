import BankLedger.Encoding
import BankLedger.Proofs.Account.Form
import BankLedger.Proofs.Json.Decoder
import BankLedger.Proofs.Json.Text
import BankLedger.Service.Numbers
import Mathlib.Data.Set.Function

/-!
# Account Numbers and their Digits

An account number comes into the ledger in two ways. As a text it is divided at its hyphens and
looked at, and as ten digits it is put together by cutting them where the hyphens go. The two ways
know nothing of each other, and this module shows that they lead to the same numbers: taking the
digits out of a number undoes putting them in, and the other way round.

What joins them is the list of the digits of a number, `digits`. Filtering the hyphens out of a text
gives the digits back whatever their count, so no digits are lost on the way; and a text of the form
is what its own digits are hyphenated to, so no text is out of reach. That the digits are ten is
only used in the second half.

A source that looks random draws each digit by itself. Nothing is known of the digits that it draws,
so it is followed for all of them at once.

## Main definitions

* `AccountNumber.digits`: The digits of an account number, in order.
* `AccountNumber.IsTenDigits`: Ten numbers, none of them above nine.
* `NumberSource.drawn`: A source that draws digit by digit.

## Theorems

* `AccountNumber.parse_eq_ok_iff`: The texts that are read, and what becomes of them.
* `AccountNumber.filter_hyphenate`, `AccountNumber.hyphenate_filter`: Hyphens set and taken out.
* `AccountNumber.ofDigits_eq_ok_iff`: The digits that a number is built from.
* `NumberSource.scattered_eq_drawn`: The source that looks random draws digit by digit.
* `AccountNumber.read_iff_built`: What is read, what is built and what is drawn is the same.
-/

namespace BankLedger

namespace AccountNumber

open Json (Decoder decodeText)

/-- The digits of an account number, in order. -/
def digits (n : AccountNumber) : List Nat :=
  (n.text.toList.filter Char.isDigit).map Text.digitValue

/-- Ten numbers, none of them above nine. -/
def IsTenDigits (ds : List Nat) : Prop := ds.length = digitCount ∧ ∀ d ∈ ds, d ≤ 9

/-- A text of the form is an account number, and is kept as it is. -/
theorem ofText?_eq_some_iff (s : String) (n : AccountNumber) :
    ofText? s = some n ↔ Grouped s.toList ∧ n.text = s := by
  unfold ofText?
  rw [← isWellFormed_iff]
  constructor
  · intro h
    by_cases hform : isWellFormed s = true
    · rw [dif_pos hform] at h
      rw [← Option.some.inj h]
      exact ⟨hform, rfl⟩
    · rw [dif_neg hform] at h
      cases h
  · rintro ⟨hform, rfl⟩
    rw [dif_pos hform]

/-- What the type holds is of the form. -/
theorem ofText?_text (n : AccountNumber) : ofText? n.text = some n :=
  (ofText?_eq_some_iff n.text n).mpr ⟨(isWellFormed_iff n.text).mp n.wellFormed, rfl⟩

theorem parse_eq_ok_iff (s : String) (n : AccountNumber) :
    parse s = .ok n ↔ Grouped s.toList ∧ n.text = s := by
  rw [← ofText?_eq_some_iff]
  unfold parse
  cases ofText? s with
  | none => simp only [reduceCtorEq]
  | some m => simp only [Except.ok.injEq, Option.some.injEq]

section Digits

variable {c : Char} {d : Nat}

theorem isDigit_digitChar (h : d ≤ 9) : (digitChar d).isDigit = true := by
  have hall : ∀ d < 10, (digitChar d).isDigit = true := by decide
  exact hall d (Nat.lt_succ_of_le h)

theorem digitValue_digitChar (h : d ≤ 9) : Text.digitValue (digitChar d) = d := by
  have hall : ∀ d < 10, Text.digitValue (digitChar d) = d := by decide
  exact hall d (Nat.lt_succ_of_le h)

theorem digitValue_le (h : c.isDigit = true) : Text.digitValue c ≤ 9 := by
  have hrange := (isDigit_iff c).mp h
  have hlast : c.toNat ≤ '9'.toNat := hrange.2
  have hnine : '9'.toNat = '0'.toNat + 9 := rfl
  unfold Text.digitValue
  rw [if_pos h]
  omega

theorem digitChar_digitValue (h : c.isDigit = true) : digitChar (Text.digitValue c) = c := by
  have hrange := (isDigit_iff c).mp h
  have hzero : '0'.toNat ≤ c.toNat := hrange.1
  unfold digitChar Text.digitValue
  rw [if_pos h, Nat.add_sub_cancel' hzero, Char.ofNat_toNat]

end Digits

section Hyphens

variable {cs : List Char}

/-- The digits come out as they were, however many there are. -/
theorem filter_hyphenate (h : ∀ c ∈ cs, c.isDigit = true) :
    (hyphenate cs).filter Char.isDigit = cs := by
  have hkeep (part : List Char) (hsub : part ⊆ cs) : part.filter Char.isDigit = part :=
    List.filter_eq_self.mpr fun c hc => h c (hsub hc)
  have hhyphen : ¬ '-'.isDigit = true := by decide
  unfold hyphenate
  rw [List.filter_append, List.filter_cons_of_neg hhyphen, List.filter_append,
    List.filter_cons_of_neg hhyphen, hkeep _ (List.take_subset 2 cs),
    hkeep _ (List.drop_subset 6 cs),
    hkeep _ (List.Subset.trans (List.take_subset 4 _) (List.drop_subset 2 cs))]
  have hdrop : cs.drop 6 = (cs.drop 2).drop 4 := by rw [List.drop_drop]
  rw [hdrop, List.take_append_drop, List.take_append_drop]

/-- Groups of the right lengths are divided where they meet. -/
theorem hyphenate_append {first second third : List Char} (hfirst : first.length = 2)
    (hsecond : second.length = 4) :
    hyphenate (first ++ (second ++ third)) = first ++ '-' :: (second ++ '-' :: third) := by
  have hsix : 6 = first.length + 4 := by omega
  unfold hyphenate
  rw [hsix, ← List.drop_drop, ← hfirst, List.take_left, List.drop_left, ← hsecond, List.take_left,
    List.drop_left]

/-- A text of the form is made up of its digits, which are ten. -/
theorem hyphenate_filter (h : Grouped cs) :
    (cs.filter Char.isDigit).length = digitCount ∧ hyphenate (cs.filter Char.isDigit) = cs := by
  rcases h with ⟨first, second, third, hfirst, hsecond, hthird, hdigits, rfl⟩
  have hall : ∀ c ∈ first ++ (second ++ third), c.isDigit = true := fun c hc =>
    (isDigit_iff c).mpr (hdigits c hc)
  rw [← hyphenate_append hfirst hsecond, filter_hyphenate hall]
  refine ⟨?_, rfl⟩
  simp only [List.length_append, hfirst, hsecond, hthird]
  rfl

/-- Ten digits are divided into groups of the right lengths. -/
theorem grouped_hyphenate (hlength : cs.length = digitCount) (h : ∀ c ∈ cs, c.isDigit = true) :
    Grouped (hyphenate cs) := by
  have hten : cs.length = 10 := hlength
  refine ⟨cs.take 2, (cs.drop 2).take 4, cs.drop 6, ?_, ?_, ?_, ?_, rfl⟩
  · rw [List.length_take]
    omega
  · rw [List.length_take, List.length_drop]
    omega
  · rw [List.length_drop]
    omega
  · intro c hc
    rw [← isDigit_iff]
    refine h c ?_
    simp only [List.mem_append] at hc
    rcases hc with hfirst | hsecond | hthird
    · exact List.mem_of_mem_take hfirst
    · exact List.mem_of_mem_drop (List.mem_of_mem_take hsecond)
    · exact List.mem_of_mem_drop hthird

end Hyphens

/-- The digits of a number are ten. -/
theorem isTenDigits_digits (n : AccountNumber) : IsTenDigits n.digits := by
  have hgrouped := (isWellFormed_iff n.text).mp n.wellFormed
  constructor
  · rw [digits, List.length_map]
    exact (hyphenate_filter hgrouped).1
  · intro d hd
    rcases List.mem_map.mp hd with ⟨c, hc, rfl⟩
    exact digitValue_le (List.mem_filter.mp hc).2

/-- What is built from digits that are not above nine is the text with the hyphens set. -/
theorem ofDigits_eq_ok_iff_of_le {ds : List Nat} (hle : ∀ d ∈ ds, d ≤ 9) (n : AccountNumber) :
    ofDigits ds = .ok n ↔ ofText? (String.ofList (hyphenate (ds.map digitChar))) = some n := by
  have hsmall : ds.all (· ≤ 9) = true :=
    List.all_eq_true.mpr fun d hd => decide_eq_true (hle d hd)
  unfold ofDigits ofDigits?
  rw [if_pos hsmall]
  cases ofText? (String.ofList (hyphenate (ds.map digitChar))) with
  | none => simp only [reduceCtorEq]
  | some m => simp only [Except.ok.injEq, Option.some.injEq]

/-- A digit above nine is refused. -/
theorem le_of_ofDigits {ds : List Nat} {n : AccountNumber} (h : ofDigits ds = .ok n) :
    ∀ d ∈ ds, d ≤ 9 := by
  intro d hd
  by_contra hlarge
  have hall : ¬ ds.all (· ≤ 9) = true := fun hall =>
    hlarge (of_decide_eq_true (List.all_eq_true.mp hall d hd))
  unfold ofDigits ofDigits? at h
  rw [if_neg hall] at h
  cases h

theorem isDigit_map_digitChar {ds : List Nat} (hle : ∀ d ∈ ds, d ≤ 9) :
    ∀ c ∈ ds.map digitChar, c.isDigit = true := by
  intro c hc
  rcases List.mem_map.mp hc with ⟨d, hd, rfl⟩
  exact isDigit_digitChar (hle d hd)

/-- A number is built from its own digits, and from no others. -/
theorem ofDigits_eq_ok_iff (ds : List Nat) (n : AccountNumber) :
    ofDigits ds = .ok n ↔ ds = n.digits := by
  constructor
  · intro h
    have hle := le_of_ofDigits h
    have htext := ((ofText?_eq_some_iff _ n).mp ((ofDigits_eq_ok_iff_of_le hle n).mp h)).2
    rw [digits, htext, String.toList_ofList, filter_hyphenate (isDigit_map_digitChar hle),
      List.map_map]
    refine (List.map_id ds).symm.trans (List.map_congr_left fun d hd => ?_)
    exact (digitValue_digitChar (hle d hd)).symm
  · rintro rfl
    have hchars : n.digits.map digitChar = n.text.toList.filter Char.isDigit := by
      rw [digits, List.map_map]
      refine (List.map_congr_left fun c hc => ?_).trans (List.map_id _)
      exact digitChar_digitValue (List.mem_filter.mp hc).2
    have htext := (hyphenate_filter ((isWellFormed_iff n.text).mp n.wellFormed)).2
    rw [ofDigits_eq_ok_iff_of_le n.isTenDigits_digits.2, hchars, htext, String.ofList_toList]
    exact n.ofText?_text

/-- Ten digits build a number, and nothing else does. -/
theorem exists_ofDigits_iff (ds : List Nat) : (∃ n, ofDigits ds = .ok n) ↔ IsTenDigits ds := by
  constructor
  · rintro ⟨n, h⟩
    rw [(ofDigits_eq_ok_iff ds n).mp h]
    exact n.isTenDigits_digits
  · rintro ⟨hlength, hle⟩
    have hgrouped : Grouped (hyphenate (ds.map digitChar)) :=
      grouped_hyphenate ((List.length_map _).trans hlength) (isDigit_map_digitChar hle)
    have hform : isWellFormed (String.ofList (hyphenate (ds.map digitChar))) = true := by
      rw [isWellFormed_iff, String.toList_ofList]
      exact hgrouped
    exact ⟨⟨_, hform⟩, (ofDigits_eq_ok_iff_of_le hle _).mpr (ofText?_text ⟨_, hform⟩)⟩

/-- A number in JSON is a string of the form. -/
theorem decodeText_eq_ok_iff (t : String) (n : AccountNumber) :
    decodeText Decode.accountNumber t = .ok n ↔
      ∃ s, decodeText Decoder.text t = .ok s ∧ Grouped s.toList ∧ n.text = s := by
  simp only [← ofText?_eq_some_iff]
  exact Decoder.decodeText_convert_iff

end AccountNumber

namespace NumberSource

/-- A source that draws the ten digits of each number, one after the other. -/
def drawn (digit : Nat → Fin 10) : NumberSource := fun k =>
  AccountNumber.ofDigits <| (List.range AccountNumber.digitCount).map fun i =>
    (digit (k * AccountNumber.digitCount + i)).val

/-- The source that looks random draws digit by digit. -/
theorem scattered_eq_drawn (seed : UInt64) :
    scattered seed = drawn fun j => Fin.ofNat 10 (mixed seed (j + 1)).toNat := rfl

theorem exists_drawn (digit : Nat → Fin 10) (k : Nat) : ∃ n, drawn digit k = .ok n := by
  refine (AccountNumber.exists_ofDigits_iff _).mpr ⟨?_, fun d hd => ?_⟩
  · rw [List.length_map, List.length_range]
  · rcases List.mem_map.mp hd with ⟨i, -, rfl⟩
    omega

/-- Every number is drawn when its digits come one after the other. -/
theorem exists_drawn_eq (n : AccountNumber) : ∃ digit, drawn digit 0 = .ok n := by
  refine ⟨fun j => Fin.ofNat 10 (n.digits.getD j 0), ?_⟩
  rcases n.isTenDigits_digits with ⟨hlength, hle⟩
  refine (AccountNumber.ofDigits_eq_ok_iff _ n).mpr (List.ext_getElem ?_ fun i hi hi' => ?_)
  · rw [List.length_map, List.length_range, hlength]
  · have hdigit := hle _ (List.getElem_mem hi')
    simp only [List.getElem_map, List.getElem_range, Nat.zero_mul, Nat.zero_add, Fin.val_ofNat,
      List.getD_eq_getElem?_getD, List.getElem?_eq_getElem hi', Option.getD_some]
    omega

end NumberSource

namespace AccountNumber

open Json (Decoder decodeText)

/-- Account numbers are the texts of two, four and four digits with hyphens between them: these are
    read, from plain texts and from the strings of JSON, and kept as they are. They are also what
    ten digits are put together to, different numbers from different digits and each number from its
    own ten digits in their order, and what a source comes up with that draws digit by digit. -/
theorem read_iff_built :
    (∀ s n, parse s = .ok n ↔ Grouped s.toList ∧ n.text = s) ∧
    (∀ t n, decodeText Decode.accountNumber t = .ok n ↔
      ∃ s, decodeText Decoder.text t = .ok s ∧ Grouped s.toList ∧ n.text = s) ∧
    (∀ s, decodeText Decoder.text (Json.text s).toText = .ok s) ∧
    (∀ ds, (∃ n, ofDigits ds = .ok n) ↔ IsTenDigits ds) ∧
    Set.InjOn ofDigits {ds | IsTenDigits ds} ∧
    (∀ n : AccountNumber, parse n.text = .ok n ∧ ofDigits n.digits = .ok n) ∧
    (∀ digit k, ∃ n, NumberSource.drawn digit k = .ok n) ∧
    (∀ s, (∃ n, parse s = .ok n) ↔
      ∃ digit k n, NumberSource.drawn digit k = .ok n ∧ n.text = s) := by
  have hparse (n : AccountNumber) : parse n.text = .ok n :=
    (parse_eq_ok_iff n.text n).mpr ⟨(isWellFormed_iff n.text).mp n.wellFormed, rfl⟩
  refine ⟨parse_eq_ok_iff, decodeText_eq_ok_iff, fun s => ?_, exists_ofDigits_iff, ?_,
    fun n => ⟨hparse n, (ofDigits_eq_ok_iff _ n).mpr rfl⟩, NumberSource.exists_drawn,
    fun s => ⟨?_, ?_⟩⟩
  · rw [Json.decodeText_toText Decoder.text rfl]
    rfl
  · intro ds hds es _ heq
    rcases (exists_ofDigits_iff ds).mpr hds with ⟨n, hn⟩
    rw [(ofDigits_eq_ok_iff ds n).mp hn, (ofDigits_eq_ok_iff es n).mp (heq ▸ hn)]
  · rintro ⟨n, hn⟩
    rcases NumberSource.exists_drawn_eq n with ⟨digit, hdrawn⟩
    exact ⟨digit, 0, n, hdrawn, ((parse_eq_ok_iff s n).mp hn).2⟩
  · rintro ⟨_, _, n, _, rfl⟩
    exact ⟨n, hparse n⟩

-- A letter of two bytes is no group of two digits.
example : (parse "é-2030-4050").toOption = none := by decide

end AccountNumber

end BankLedger
