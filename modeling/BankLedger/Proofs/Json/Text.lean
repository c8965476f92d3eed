import BankLedger.Json.Decoder
import BankLedger.Proofs.Uuid

/-!
# JSON Text Read Back

The text of a value is cut into tokens again and built up to the tree of the value, with no break in
it. So what is read from the text is what the decoders make of the value itself, and it is enough to
look at trees from then on.

The cut is made one token at a time, and what follows a token matters only for a numeral, which goes
on for as long as digits, a point or an exponent come. In the text of a value a comma or a closing
bracket comes instead, or nothing. The machine that builds the tree is taken through a value as a
whole: wherever it waits for a value, the tokens of one bring it to where it is with the tree of the
value. Fractions are left out, because they are read fast and not to the last bit.

## Main definitions

* `Json.Ends`: What may follow a value in a text.
* `Json.isExact`: All numbers are whole and have 64 bits.

## Theorems

* `Json.tokens_stringChars`, `Json.tokens_integerChars`: The tokens of a string and of a number.
* `Json.run_toChars`: The text of a value takes the machine to its tree.
* `Json.treeOf_toChars`, `Json.decodeText_toText`: Decoding the text is decoding the tree.
-/

namespace BankLedger

namespace Json

/-- What may follow a value in a text. -/
def Ends (rest : List Char) : Prop :=
  rest = [] ∨ ∃ c cs, rest = c :: cs ∧ (c = ',' ∨ c = ']' ∨ c = '\x7d')

theorem ends_cons {c : Char} (h : c = ',' ∨ c = ']' ∨ c = '\x7d') (cs : List Char) :
    Ends (c :: cs) := Or.inr ⟨c, cs, rfl, h⟩

theorem tokens_cons {c : Char} (h : isSpace c = false) (rest : List Char) :
    tokens (c :: rest) = (nextToken c rest).1 :: tokens (nextToken c rest).2 := by
  rw [tokens, if_neg (by rw [h]; exact Bool.false_ne_true)]

section Strings

/-- Four digits name the character of their number. -/
theorem hexUnit?_fixedDigits {n : Nat} (h : n < 16 ^ 4) :
    ∃ a b c d, Text.fixedDigits 16 4 n = [a, b, c, d] ∧ hexUnit? a b c d = some n := by
  have hhex := Text.isHexDigit_fixedDigits 4 n
  have hvalue := Text.ofDigits_fixedDigits 4 n
  rw [Nat.mod_eq_of_lt h] at hvalue
  refine ⟨_, _, _, _, rfl, (if_pos ?_).trans (congrArg some hvalue)⟩
  exact List.all_eq_true.mpr hhex

-- One case for each kind of character. Characters with a short name and those with four digits are
-- read from the backslash on, all others as they are.
/-- A character inside a string is read back. -/
theorem scanText_escapeChar (done : List Char) (c : Char) (rest : List Char) :
    scanText done none false (escapeChar c ++ rest) = scanText (c :: done) none false rest := by
  unfold escapeChar
  split
  · next h => subst h; rfl
  split
  · next h => subst h; rfl
  split
  · next h => subst h; rfl
  split
  · next h => subst h; rfl
  split
  · next h => subst h; rfl
  split
  · next h => subst h; rfl
  split
  · next h => subst h; rfl
  split
  · next hcontrol =>
      rcases hexUnit?_fixedDigits (n := c.toNat) (by omega) with ⟨a, b, d, e, hdigits, hunit⟩
      have hlead : isLead c.toNat = false := by simp [isLead]; omega
      have htrail : isTrail c.toNat = false := by simp [isTrail]; omega
      rw [hdigits]
      simp only [List.cons_append, List.nil_append]
      rw [scanText]
      simp only [hunit, joinUnit, hlead, htrail, Bool.false_eq_true, if_false, Char.ofNat_toNat]
      rfl
  · next hquote hslash _ _ _ _ _ hvisible =>
      rw [List.singleton_append, scanText]
      · rw [if_neg hvisible]
        rfl
      · exact fun h => hquote h
      all_goals simp [hslash]

/-- The characters of a string are read back, up to the closing quote. -/
theorem scanText_flatMap (cs done rest : List Char) :
    scanText done none false (cs.flatMap escapeChar ++ '"' :: rest)
      = (.text (some (String.ofList (done.reverse ++ cs))), rest) := by
  induction cs generalizing done with
  | nil => simp [scanText]
  | cons c cs ih =>
      rw [List.flatMap_cons, List.append_assoc, scanText_escapeChar, ih, List.reverse_cons,
        List.append_assoc, List.singleton_append]

/-- A string is one token. -/
theorem tokens_stringChars (s : String) (rest : List Char) :
    tokens (stringChars s ++ rest) = .text (some s) :: tokens rest := by
  have hnext : nextToken '"' (s.toList.flatMap escapeChar ++ '"' :: rest)
      = (.text (some s), rest) := by
    have hscan := scanText_flatMap s.toList [] rest
    rw [List.reverse_nil, List.nil_append, String.ofList_toList] at hscan
    exact hscan
  unfold stringChars
  rw [List.cons_append, List.append_assoc, tokens_cons (by decide), List.singleton_append, hnext]

end Strings

section Numbers

/-- A number above zero does not start with a zero. -/
theorem exists_toDigits {n : Nat} (h : 0 < n) :
    ∃ c cs, Nat.toDigits 10 n = c :: cs ∧ c ≠ '0' := by
  induction n using Nat.strongRecOn with
  | ind n ih =>
      by_cases hn : n < 10
      · have hdigits : ∀ n < 10, 0 < n → Nat.digitChar n ≠ '0' := by decide
        exact ⟨_, [], Nat.toDigits_of_lt_base hn, hdigits n hn h⟩
      · rcases ih (n / 10) (by omega) (by omega) with ⟨c, cs, hcs, hc⟩
        refine ⟨c, cs ++ [Nat.digitChar (n % 10)], ?_, hc⟩
        rw [Nat.toDigits_of_base_le (by decide) (Nat.le_of_not_lt hn), hcs, List.cons_append]

/-- The digits of a number stop where the number stops. -/
theorem takeWhile_toDigits (n : Nat) {rest : List Char} (h : Ends rest) :
    (Nat.toDigits 10 n ++ rest).takeWhile Char.isDigit = Nat.toDigits 10 n := by
  rw [List.takeWhile_append_of_pos fun c => Nat.isDigit_of_mem_toDigits (by decide) (by decide)]
  rcases h with rfl | ⟨c, cs, rfl, rfl | rfl | rfl⟩
  · exact List.append_nil _
  · exact List.append_nil _
  · exact List.append_nil _
  · exact List.append_nil _

/-- No fraction and no exponent follow a number. -/
theorem scanFraction_of_ends (negative : Bool) (whole : List Char) {rest : List Char}
    (h : Ends rest) :
    scanFraction negative whole rest = (.number ⟨negative, whole, none, none⟩, rest) := by
  rcases h with rfl | ⟨c, cs, rfl, rfl | rfl | rfl⟩
  · rfl
  · rfl
  · rfl
  · rfl

/-- A number is read back digit by digit. -/
theorem scanNumber_toDigits (negative : Bool) (n : Nat) {rest : List Char} (h : Ends rest) :
    scanNumber negative (Nat.toDigits 10 n ++ rest)
      = (.number ⟨negative, Nat.toDigits 10 n, none, none⟩, rest) := by
  have hnonempty : (Nat.toDigits 10 n).isEmpty = false :=
    List.isEmpty_eq_false_iff.mpr Nat.toDigits_ne_nil
  have hleading : ((Nat.toDigits 10 n).head? = some '0' && 1 < (Nat.toDigits 10 n).length)
      = false := by
    rcases Nat.eq_zero_or_pos n with rfl | hpos
    · rfl
    · rcases exists_toDigits hpos with ⟨c, cs, hcs, hc⟩
      simp [hcs, hc]
  unfold scanNumber
  simp only [takeWhile_toDigits n h, hnonempty, hleading, Bool.false_eq_true, if_false,
    List.drop_left]
  exact scanFraction_of_ends negative _ h

/-- A character that starts a number is no other token. -/
theorem nextToken_digit {c : Char} (h : c.isDigit = true) (rest : List Char) :
    isSpace c = false ∧ nextToken c rest = scanNumber false (c :: rest) := by
  have hne {d : Char} (hd : d.isDigit = false) : c ≠ d := by
    rintro rfl
    rw [h] at hd
    cases hd
  have hmark : mark? c = none := by
    unfold mark?
    rw [if_neg (hne (by decide)), if_neg (hne (by decide)), if_neg (hne (by decide)),
      if_neg (hne (by decide)), if_neg (hne (by decide)), if_neg (hne (by decide))]
  constructor
  · simp only [isSpace, Bool.or_eq_false_iff, beq_eq_false_iff_ne]
    exact ⟨⟨⟨hne (by decide), hne (by decide)⟩, hne (by decide)⟩, hne (by decide)⟩
  · unfold nextToken
    rw [hmark]
    simp only
    rw [if_neg (hne (by decide)), if_neg (hne (by decide)), if_pos h]

/-- A whole number is one token. -/
theorem tokens_integerChars (n : Int) {rest : List Char} (h : Ends rest) :
    tokens (integerChars n ++ rest)
      = .number ⟨decide (n < 0), Nat.toDigits 10 n.natAbs, none, none⟩ :: tokens rest := by
  unfold integerChars
  by_cases hn : n < 0
  · have hnext : nextToken '-' (Nat.toDigits 10 n.natAbs ++ rest)
        = scanNumber true (Nat.toDigits 10 n.natAbs ++ rest) := rfl
    rw [if_pos hn, List.singleton_append, List.cons_append, tokens_cons (by decide), hnext,
      scanNumber_toDigits true _ h, decide_eq_true hn]
  · rw [if_neg hn, List.nil_append, decide_eq_false hn]
    rcases hdigits : Nat.toDigits 10 n.natAbs with _ | ⟨c, cs⟩
    · exact absurd hdigits Nat.toDigits_ne_nil
    · have hc : c.isDigit = true :=
        Nat.isDigit_of_mem_toDigits (by decide) (by decide) (hdigits ▸ List.mem_cons_self)
      have hscan := scanNumber_toDigits false n.natAbs h
      rw [hdigits] at hscan
      rcases nextToken_digit hc (cs ++ rest) with ⟨hspace, hnext⟩
      rw [List.cons_append, tokens_cons hspace, hnext, ← List.cons_append, hscan]

/-- A whole number of 64 bits is the number of its digits. -/
theorem number?_toDigits {n : Int} (hmin : -0x8000_0000_0000_0000 ≤ n) (hmax : n < UInt64.size) :
    Numeral.number? ⟨decide (n < 0), Nat.toDigits 10 n.natAbs, none, none⟩ = some (.whole n) := by
  have hwhole : Numeral.whole? ⟨decide (n < 0), Nat.toDigits 10 n.natAbs, none, none⟩ = some n := by
    have hsize : UInt64.size = 0x1_0000_0000_0000_0000 := rfl
    unfold Numeral.whole?
    simp only [Nat.ofDigitChars_ten_toDigits, Option.isSome_none, Bool.or_self, Bool.false_eq_true,
      if_false, decide_eq_true_eq, Bool.and_eq_true]
    by_cases hn : n < 0
    · rw [if_pos hn, if_pos (by omega)]
      exact congrArg some (by omega)
    · rw [if_neg hn, if_pos (by omega)]
      exact congrArg some (by omega)
  unfold Numeral.number?
  rw [hwhole]

end Numbers

mutual
/-- All numbers in the value are whole and have 64 bits, with a sign or without. -/
def isExact : Json → Bool
  | .null => true
  | .bool _ => true
  | .number (.whole n) => decide (-0x8000_0000_0000_0000 ≤ n) && decide (n < UInt64.size)
  | .number (.fraction _) => false
  | .text _ => true
  | .list items => itemsExact items
  | .record members => membersExact members
/-- All numbers in the items are. -/
def itemsExact : List Json → Bool
  | [] => true
  | v :: vs => isExact v && itemsExact vs
/-- All numbers in the members are. -/
def membersExact : List (String × Json) → Bool
  | [] => true
  | m :: ms => isExact m.2 && membersExact ms
end

section Machine

variable {frames : List Frame} {rest : List Char}

/-- A bracket, a comma or a colon is one token. -/
theorem tokens_mark {c : Char} {t : Token} (h : mark? c = some t) (hspace : isSpace c = false)
    (rest : List Char) : tokens (c :: rest) = t :: tokens rest := by
  rw [tokens_cons hspace]
  unfold nextToken
  rw [h]

/-- The text of a value begins with a token, and a list does not end there. -/
theorem exists_tokens_toChars {v : Json} (hv : v.isExact = true) (hends : Ends rest) :
    ∃ t ts, tokens (v.toChars ++ rest) = t :: ts ∧ t ≠ .closeList := by
  cases v with
  | null => exact ⟨.null, _, tokens_cons (by decide) _, nofun⟩
  | bool b =>
      cases b with
      | false => exact ⟨.bool false, _, tokens_cons (by decide) _, nofun⟩
      | true => exact ⟨.bool true, _, tokens_cons (by decide) _, nofun⟩
  | number n =>
      cases n with
      | whole n => exact ⟨_, _, tokens_integerChars n hends, nofun⟩
      | fraction x => cases hv
  | text s => exact ⟨_, _, tokens_stringChars s rest, nofun⟩
  | list items =>
      cases items with
      | nil => exact ⟨.openList, _, tokens_mark rfl rfl _, nofun⟩
      | cons v vs => exact ⟨.openList, _, tokens_mark rfl rfl _, nofun⟩
  | record members =>
      cases members with
      | nil => exact ⟨.openRecord, _, tokens_mark rfl rfl _, nofun⟩
      | cons m ms => exact ⟨.openRecord, _, tokens_mark rfl rfl _, nofun⟩

theorem ends_itemChars (vs : List Json) (rest : List Char) :
    Ends (itemChars vs ++ ']' :: rest) := by
  cases vs with
  | nil => exact ends_cons (Or.inr (Or.inl rfl)) _
  | cons v vs => exact ends_cons (Or.inl rfl) _

theorem ends_memberChars (ms : List (String × Json)) (rest : List Char) :
    Ends (memberChars ms ++ '\x7d' :: rest) := by
  cases ms with
  | nil => exact ends_cons (Or.inr (Or.inr rfl)) _
  | cons m ms => exact ends_cons (Or.inl rfl) _

/-- A list that is open waits for its first item as for any other value. -/
theorem run_firstItem {t : Token} (ht : t ≠ .closeList) (ts : List Token) :
    (State.firstItem frames).run (t :: ts) = (State.value (.list [] :: frames)).run (t :: ts) := by
  have htake : (State.firstItem frames).take t = takeValue (.list [] :: frames) t := by
    cases t <;> first | rfl | exact absurd rfl ht
  simp only [State.run, htake]
  rfl

mutual
/-- Where a value is waited for, the text of one leads to its tree. -/
theorem run_toChars (v : Json) (hv : v.isExact = true) (frames : List Frame) (rest : List Char)
    (hends : Ends rest) : (State.value frames).run (tokens (v.toChars ++ rest))
      = (State.ofValue (toTree v) frames).run (tokens rest) := by
  match v with
  | .null =>
      have htokens : tokens (Json.null.toChars ++ rest) = .null :: tokens rest :=
        tokens_cons (by decide) _
      rw [htokens]
      rfl
  | .bool true =>
      have htokens : tokens ((Json.bool true).toChars ++ rest) = .bool true :: tokens rest :=
        tokens_cons (by decide) _
      rw [htokens]
      rfl
  | .bool false =>
      have htokens : tokens ((Json.bool false).toChars ++ rest) = .bool false :: tokens rest :=
        tokens_cons (by decide) _
      rw [htokens]
      rfl
  | .number (.whole n) =>
      have hrange := Bool.and_eq_true_iff.mp hv
      have hnumber := number?_toDigits (of_decide_eq_true hrange.1) (of_decide_eq_true hrange.2)
      rw [toChars, Number.toChars, tokens_integerChars n hends, toTree, ← hnumber]
      rfl
  | .number (.fraction x) => cases hv
  | .text s =>
      rw [toChars, tokens_stringChars]
      rfl
  | .list [] =>
      have htokens : tokens ((Json.list []).toChars ++ rest)
          = .openList :: .closeList :: tokens rest :=
        (tokens_mark rfl rfl _).trans (congrArg _ (tokens_mark rfl rfl _))
      rw [htokens]
      rfl
  | .list (v :: vs) =>
      have hexact := Bool.and_eq_true_iff.mp hv
      have hchars : (Json.list (v :: vs)).toChars ++ rest
          = '[' :: (v.toChars ++ (itemChars vs ++ ']' :: rest)) := by
        simp only [toChars, List.cons_append, List.append_assoc, List.nil_append]
      have hbehind := ends_itemChars vs rest
      rcases exists_tokens_toChars hexact.1 hbehind with ⟨t, ts, hts, ht⟩
      have hfirst := run_toChars v hexact.1 (.list [] :: frames) _ hbehind
      rw [hts, ← run_firstItem ht, ← hts] at hfirst
      rw [hchars, tokens_mark rfl rfl]
      exact hfirst.trans (run_itemChars vs hexact.2 [toTree v] frames rest)
  | .record [] =>
      have htokens : tokens ((Json.record []).toChars ++ rest)
          = .openRecord :: .closeRecord :: tokens rest :=
        (tokens_mark rfl rfl _).trans (congrArg _ (tokens_mark rfl rfl _))
      rw [htokens]
      rfl
  | .record (m :: ms) =>
      have hexact := Bool.and_eq_true_iff.mp hv
      have hchars : (Json.record (m :: ms)).toChars ++ rest = '\x7b' :: (stringChars m.1
          ++ ':' :: (m.2.toChars ++ (memberChars ms ++ '\x7d' :: rest))) := by
        simp only [toChars, List.cons_append, List.append_assoc, List.nil_append]
      have hbehind := ends_memberChars ms rest
      rw [hchars, tokens_mark rfl rfl, tokens_stringChars, tokens_mark rfl rfl]
      exact (run_toChars m.2 hexact.1 (.record [] (some m.1) :: frames) _ hbehind).trans
        (run_memberChars ms hexact.2 [(some m.1, toTree m.2)] frames rest)
/-- Behind an item of a list, the other items and the bracket lead to the tree of the list. -/
theorem run_itemChars (vs : List Json) (hvs : itemsExact vs = true) (done : List Tree)
    (frames : List Frame) (rest : List Char) :
    (State.afterItem done frames).run (tokens (itemChars vs ++ ']' :: rest))
      = (State.ofValue (.list (done.reverse ++ itemTrees vs) none) frames).run (tokens rest) := by
  match vs with
  | [] =>
      rw [itemChars, List.nil_append, tokens_mark rfl rfl, itemTrees, List.append_nil]
      rfl
  | v :: vs =>
      have hexact := Bool.and_eq_true_iff.mp hvs
      have hbehind := ends_itemChars vs rest
      have hlater := run_itemChars vs hexact.2 (toTree v :: done) frames rest
      rw [List.reverse_cons, List.append_assoc, List.singleton_append] at hlater
      rw [itemChars, List.cons_append, List.append_assoc, tokens_mark rfl rfl]
      exact (run_toChars v hexact.1 (.list done :: frames) _ hbehind).trans hlater
/-- Behind a member of a record, the other members and the bracket lead to the tree of the
    record. -/
theorem run_memberChars (ms : List (String × Json)) (hms : membersExact ms = true)
    (done : List (Option String × Tree)) (frames : List Frame) (rest : List Char) :
    (State.afterMember done frames).run (tokens (memberChars ms ++ '\x7d' :: rest))
      = (State.ofValue (.record (done.reverse ++ memberTrees ms) none) frames).run
        (tokens rest) := by
  match ms with
  | [] =>
      rw [memberChars, List.nil_append, tokens_mark rfl rfl, memberTrees, List.append_nil]
      rfl
  | m :: ms =>
      have hexact := Bool.and_eq_true_iff.mp hms
      have hbehind := ends_memberChars ms rest
      have hlater := run_memberChars ms hexact.2 ((some m.1, toTree m.2) :: done) frames rest
      rw [List.reverse_cons, List.append_assoc, List.singleton_append] at hlater
      have hchars : memberChars (m :: ms) ++ '\x7d' :: rest = ',' :: (stringChars m.1
          ++ ':' :: (m.2.toChars ++ (memberChars ms ++ '\x7d' :: rest))) := by
        simp only [memberChars, List.cons_append, List.append_assoc]
      rw [hchars, tokens_mark rfl rfl, tokens_stringChars, tokens_mark rfl rfl]
      exact (run_toChars m.2 hexact.1 (.record done (some m.1) :: frames) _ hbehind).trans hlater
end

end Machine

/-- The text of a value is read as its tree, to the end. -/
theorem treeOf_toChars {v : Json} (hv : v.isExact = true) :
    treeOf v.toChars = (toTree v, true) := by
  have hrun := run_toChars v hv [] [] (Or.inl rfl)
  rw [List.append_nil] at hrun
  exact hrun.trans (by rw [tokens]; rfl)

/-- To decode the text of a value is to decode the value. -/
theorem decodeText_toText {α : Type} (d : Decoder α) {v : Json} (hv : v.isExact = true) :
    decodeText d v.toText = decodeValue d v := by
  unfold decodeText toText decodeValue
  rw [String.toList_ofList, treeOf_toChars hv]
  simp only
  cases d maxDepth (toTree v) with
  | error e => rfl
  | ok a => rfl

end Json

end BankLedger
