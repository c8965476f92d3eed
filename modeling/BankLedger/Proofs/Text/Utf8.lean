import BankLedger.Text.Utf8
import Mathlib.Data.UInt

/-!
# Bytes of a Text

A text is turned into bytes and read back as it was. A table is read byte by byte and its cells are
turned into text afterwards, so besides this it has to be known which bytes there can be: those that
divide cells and records are below 128, and such a byte stands for the character of the same number
and is never a part of any other one.

The reader takes one character at a time off the front, and what it has read so far only waits in
reversed order. So one lemma says what it does with the bytes of one character in front of any
others, with one case for each number of bytes that a character may take.

## Theorems

* `Text.toBytes_eq`: The bytes of a text are those of its characters.
* `Text.mem_encodeChar`: A byte below 128 stands for itself.
* `Text.decodeUtf8From_encodeChar`: One character is read.
* `Text.decodeUtf8_toBytes`: What was a text is read back.
-/

namespace BankLedger

namespace Text

section Bytes

-- By the steps of the loop that takes bytes off an array; `done` is what it has taken, reversed.
theorem loop_eq_drop (bs : ByteArray) (i : Nat) (done : List UInt8) :
    ByteArray.toList.loop bs i done = done.reverse ++ bs.data.toList.drop i := by
  fun_induction ByteArray.toList.loop bs i done with
  | case1 i done hlt ih =>
      have hlength : i < bs.data.toList.length := by simpa using hlt
      have hget : bs.get! i = bs.data.toList[i] := by
        cases bs
        exact getElem!_pos _ i hlt
      rw [ih, List.drop_eq_getElem_cons hlength, hget, List.reverse_cons, List.append_assoc]
      rfl
  | case2 i done hlt =>
      rw [List.drop_eq_nil_of_le (by simpa using hlt), List.append_nil]

/-- The bytes of a text are those of its characters, one after the other. -/
theorem toBytes_eq (s : String) : toBytes s = s.toList.flatMap String.utf8EncodeChar := by
  have hs : s.toByteArray = s.toList.utf8Encode := by
    rw [← String.toByteArray_ofList, String.ofList_toList]
  unfold toBytes ByteArray.toList
  rw [loop_eq_drop, String.toUTF8_eq_toByteArray, hs, List.utf8Encode,
    List.toList_data_toByteArray, List.drop_zero]
  rfl

theorem toBytes_append (s t : String) : toBytes (s ++ t) = toBytes s ++ toBytes t := by
  simp only [toBytes_eq, String.toList_append, List.flatMap_append]

/-- A byte of a character is the character itself if it is below 128. -/
theorem mem_encodeChar {c : Char} {b : UInt8} (h : b ∈ String.utf8EncodeChar c) :
    b.toNat = c.toNat ∨ 128 ≤ b.toNat := by
  have hc : c.toNat = c.val.toNat := rfl
  unfold String.utf8EncodeChar at h
  dsimp only at h
  split_ifs at h with hone htwo hthree <;>
    simp only [List.mem_cons, List.not_mem_nil, or_false] at h
  · left
    rw [h, UInt8.toNat_ofNat_of_lt' (by simp only [UInt8.size]; omega), hc]
  · right
    rcases h with rfl | rfl <;> rw [UInt8.toNat_ofNat'] <;> omega
  · right
    rcases h with rfl | rfl | rfl <;> rw [UInt8.toNat_ofNat'] <;> omega
  · right
    rcases h with rfl | rfl | rfl | rfl <;> rw [UInt8.toNat_ofNat'] <;> omega

end Bytes

section Tails

variable {a b : UInt8}

theorem isTailByte_iff : isTailByte b = true ↔ 128 ≤ b.toNat ∧ b.toNat ≤ 191 := by
  unfold isTailByte
  rw [Bool.and_eq_true, decide_eq_true_iff, decide_eq_true_iff, UInt8.le_iff_toNat_le,
    UInt8.le_iff_toNat_le]
  rfl

/-- The second byte of a character is a tail, and above the one bound or below the other if the
    first byte asks for it. -/
theorem second_of_bounds {first last low high : UInt8} (hlow : 128 ≤ b.toNat)
    (hhigh : b.toNat ≤ 191) (hfirst : a.toNat = first.toNat → low.toNat ≤ b.toNat)
    (hlast : a.toNat = last.toNat → b.toNat ≤ high.toNat) :
    (if a == first then decide (low ≤ b) && decide (b ≤ 0xBF)
      else if a == last then decide (0x80 ≤ b) && decide (b ≤ high) else isTailByte b) = true := by
  split_ifs with hisFirst hisLast
  · have hbound := hfirst (congrArg UInt8.toNat (beq_iff_eq.mp hisFirst))
    simp only [Bool.and_eq_true, decide_eq_true_iff, UInt8.le_iff_toNat_le]
    exact ⟨hbound, hhigh⟩
  · have hbound := hlast (congrArg UInt8.toNat (beq_iff_eq.mp hisLast))
    simp only [Bool.and_eq_true, decide_eq_true_iff, UInt8.le_iff_toNat_le]
    exact ⟨hlow, hbound⟩
  · exact isTailByte_iff.mpr ⟨hlow, hhigh⟩

theorem isSecondOfThree_of_bounds (hlow : 128 ≤ b.toNat) (hhigh : b.toNat ≤ 191)
    (hshort : a.toNat = 224 → 160 ≤ b.toNat) (hgap : a.toNat = 237 → b.toNat ≤ 159) :
    isSecondOfThree a b = true := second_of_bounds hlow hhigh hshort hgap

theorem isSecondOfFour_of_bounds (hlow : 128 ≤ b.toNat) (hhigh : b.toNat ≤ 191)
    (hshort : a.toNat = 240 → 144 ≤ b.toNat) (hlimit : a.toNat = 244 → b.toNat ≤ 143) :
    isSecondOfFour a b = true := second_of_bounds hlow hhigh hshort hlimit

end Tails

section Decode

/-- The first bytes of the longer forms are above the limits of the shorter ones. -/
theorem not_le_limit {a limit : UInt8} {low : Nat} (h : low ≤ a.toNat)
    (hlimit : limit.toNat < low) : ¬ a ≤ limit := by
  rw [UInt8.le_iff_toNat_le]
  exact not_le.mpr (lt_of_lt_of_le hlimit h)

/-- So they are no characters of their own. -/
theorem not_lt_ascii {a : UInt8} {low : Nat} (h : low ≤ a.toNat) (hlow : 128 ≤ low) :
    ¬ a < 0x80 := by
  rw [UInt8.lt_iff_toNat_lt]
  exact not_lt.mpr (le_trans hlow h)

variable (start : Nat) (done : List Char) (rest : List UInt8)

/-- A byte that is no character of its own is looked at together with those behind it. -/
theorem decodeUtf8From_two {a b : UInt8} (hlow : 194 ≤ a.toNat) (hhigh : a.toNat ≤ 223)
    (hb : isTailByte b = true) :
    decodeUtf8From start done (a :: b :: rest) = decodeUtf8From (start + 2)
      (Char.ofNat ((a.toNat - 0xC0) * 64 + tailBits b) :: done) rest := by
  have hone : ¬ a < 0x80 := not_lt_ascii hlow (by decide)
  have htwo : 0xC2 ≤ a ∧ a ≤ 0xDF := by
    rw [UInt8.le_iff_toNat_le, UInt8.le_iff_toNat_le]
    exact ⟨hlow, hhigh⟩
  rw [decodeUtf8From.eq_def]
  simp only [if_neg hone, htwo.1, htwo.2, decide_true, Bool.and_self, if_true, hb]

theorem decodeUtf8From_three {a b c : UInt8} (hlow : 224 ≤ a.toNat) (hhigh : a.toNat ≤ 239)
    (hb : isSecondOfThree a b = true) (hc : isTailByte c = true) :
    decodeUtf8From start done (a :: b :: c :: rest) = decodeUtf8From (start + 3)
      (Char.ofNat (((a.toNat - 0xE0) * 64 + tailBits b) * 64 + tailBits c) :: done) rest := by
  have hone : ¬ a < 0x80 := not_lt_ascii hlow (by decide)
  have htwo : ¬ a ≤ 0xDF := not_le_limit hlow (by decide)
  have hthree : 0xE0 ≤ a ∧ a ≤ 0xEF := by
    rw [UInt8.le_iff_toNat_le, UInt8.le_iff_toNat_le]
    exact ⟨hlow, hhigh⟩
  rw [decodeUtf8From.eq_def]
  simp only [if_neg hone, htwo, decide_false, Bool.and_false, hthree.1, hthree.2, decide_true,
    Bool.and_self, if_true, hb, hc]
  rfl

theorem decodeUtf8From_four {a b c d : UInt8} (hlow : 240 ≤ a.toNat) (hhigh : a.toNat ≤ 244)
    (hb : isSecondOfFour a b = true) (hc : isTailByte c = true) (hd : isTailByte d = true) :
    decodeUtf8From start done (a :: b :: c :: d :: rest) = decodeUtf8From (start + 4)
      (Char.ofNat ((((a.toNat - 0xF0) * 64 + tailBits b) * 64 + tailBits c) * 64 + tailBits d)
        :: done) rest := by
  have hone : ¬ a < 0x80 := not_lt_ascii hlow (by decide)
  have htwo : ¬ a ≤ 0xDF := not_le_limit hlow (by decide)
  have hthree : ¬ a ≤ 0xEF := not_le_limit hlow (by decide)
  have hfour : 0xF0 ≤ a ∧ a ≤ 0xF4 := by
    rw [UInt8.le_iff_toNat_le, UInt8.le_iff_toNat_le]
    exact ⟨hlow, hhigh⟩
  rw [decodeUtf8From.eq_def]
  simp only [if_neg hone, htwo, hthree, decide_false, Bool.and_false, hfour.1, hfour.2, decide_true,
    Bool.and_self, if_true, hb, hc, hd]
  rfl

/-- A byte below 128 is a character of its own. -/
theorem decodeUtf8From_one {a : UInt8} (h : a.toNat < 128) :
    decodeUtf8From start done (a :: rest) =
      decodeUtf8From (start + 1) (Char.ofNat a.toNat :: done) rest := by
  have hone : a < 0x80 := by
    rw [UInt8.lt_iff_toNat_lt]
    exact h
  rw [decodeUtf8From.eq_def]
  simp only [if_pos hone]

-- One case for each number of bytes. The bounds of the second byte leave out what would have been
-- written shorter, the gap of the surrogates, and what is above the last character.
/-- The bytes of a character are read as this character. -/
theorem decodeUtf8From_encodeChar (c : Char) :
    ∃ n, decodeUtf8From start done (String.utf8EncodeChar c ++ rest) =
      decodeUtf8From n (c :: done) rest := by
  have hvalid : c.val.toNat < 55296 ∨ 57343 < c.val.toNat ∧ c.val.toNat < 1114112 := c.valid
  have hc {n : Nat} (hn : n = c.val.toNat) : Char.ofNat n = c := by
    rw [hn]
    exact c.ofNat_toNat
  have hbyte {n : Nat} (hn : n < 256) : (UInt8.ofNat n).toNat = n :=
    UInt8.toNat_ofNat_of_lt' hn
  have htail (n : Nat) : isTailByte (UInt8.ofNat (n % 64 + 128)) = true := by
    rw [isTailByte_iff, hbyte (by omega)]
    omega
  have hbits (n : Nat) : tailBits (UInt8.ofNat (n % 64 + 128)) = n % 64 := by
    unfold tailBits
    rw [hbyte (by omega)]
    omega
  unfold String.utf8EncodeChar
  dsimp only
  generalize c.val.toNat = v at hvalid hc
  split_ifs with hone htwo hthree
  · refine ⟨start + 1, ?_⟩
    have hfirst : (UInt8.ofNat v).toNat = v := hbyte (by omega)
    rw [List.singleton_append, decodeUtf8From_one _ _ _ (by omega), hc hfirst]
  · have hfirst : (UInt8.ofNat (v / 64 % 32 + 192)).toNat = v / 64 % 32 + 192 := hbyte (by omega)
    refine ⟨start + 2, ?_⟩
    rw [List.cons_append, List.singleton_append,
      decodeUtf8From_two _ _ _ (by omega) (by omega) (htail v), hbits, hfirst, hc (by omega)]
  · have hfirst : (UInt8.ofNat (v / 4096 % 16 + 224)).toNat = v / 4096 % 16 + 224 :=
      hbyte (by omega)
    have hsecond : (UInt8.ofNat (v / 64 % 64 + 128)).toNat = v / 64 % 64 + 128 := hbyte (by omega)
    refine ⟨start + 3, ?_⟩
    rw [List.cons_append, List.cons_append, List.singleton_append,
      decodeUtf8From_three _ _ _ (by omega) (by omega)
        (isSecondOfThree_of_bounds (by omega) (by omega) (by omega) (by omega)) (htail v),
      hbits, hbits, hfirst, hc (by omega)]
  · have hfirst : (UInt8.ofNat (v / 262144 % 8 + 240)).toNat = v / 262144 % 8 + 240 :=
      hbyte (by omega)
    have hsecond : (UInt8.ofNat (v / 4096 % 64 + 128)).toNat = v / 4096 % 64 + 128 :=
      hbyte (by omega)
    refine ⟨start + 4, ?_⟩
    rw [List.cons_append, List.cons_append, List.cons_append, List.singleton_append,
      decodeUtf8From_four _ _ _ (by omega) (by omega)
        (isSecondOfFour_of_bounds (by omega) (by omega) (by omega) (by omega)) (htail _) (htail v),
      hbits, hbits, hbits, hfirst, hc (by omega)]

end Decode

/-- What was a text is read back. -/
theorem decodeUtf8_toBytes (s : String) : decodeUtf8 (toBytes s) = .ok s := by
  have hread (start : Nat) (done cs : List Char) :
      decodeUtf8From start done (cs.flatMap String.utf8EncodeChar) = .ok (done.reverse ++ cs) := by
    induction cs generalizing start done with
    | nil => simp only [List.flatMap_nil, decodeUtf8From, List.append_nil]
    | cons c cs ih =>
        rcases decodeUtf8From_encodeChar start done (cs.flatMap String.utf8EncodeChar) c with
          ⟨n, hn⟩
        rw [List.flatMap_cons, hn, ih, List.reverse_cons, List.append_assoc, List.singleton_append]
  unfold decodeUtf8
  rw [toBytes_eq, hread 0 [] s.toList, List.reverse_nil, List.nil_append, Except.map,
    String.ofList_toList]

end Text

end BankLedger
