import BankLedger.Proofs.Calendar
import BankLedger.Proofs.Uuid
import Mathlib.Data.List.TakeWhile

/-!
# Instants Read Back

The parts of a written instant have fixed widths, all but the year, which has a hyphen behind it. So
each part is read to its end and no further, whatever comes behind it. The date and the time of day
that are read are those that were written, and they give the second again, because a day is found
again from its date.

A leap second is written as a sixtieth second, and so it can be read at the end of a minute only. No
other instants than those that are read back are ever read, in any of the spellings, since an offset
moves the second of a minute by nothing.

## Main definitions

* `Instant.InCalendar`: The calendar covers the year, and a leap second ends a minute.

## Theorems

* `Text.ofDigitChars_fixedDigits`: The digits of a number write it, as far as there are enough.
* `Instant.readNumber_fixedDigits`, `Instant.readYear_yearChars`,
  `Instant.readFraction_fractionChars`: The parts of a written form.
* `Instant.ofParts?_eq_some`: Date and time of day give the instant.
* `Instant.ofText?_toText`: What is written is read back.
* `Instant.inCalendar_of_ofText?`: What is read can be written.
-/

namespace BankLedger

namespace Text

theorem isDigit_fixedDigits (width n : Nat) : ∀ c ∈ fixedDigits 10 width n, c.isDigit = true := by
  refine forall_mem_fixedDigits (by decide) (fun d hd => ?_) width n
  rw [Nat.isDigit_digitChar]
  exact decide_eq_true hd

/-- The digits of a number write it, as far as there are enough of them. -/
theorem ofDigitChars_fixedDigits (width n : Nat) :
    Nat.ofDigitChars 10 (fixedDigits 10 width n) 0 = n % 10 ^ width := by
  induction width generalizing n with
  | zero => simp [fixedDigits, Nat.mod_one]
  | succ w ih =>
      have hlast : (n % 10).digitChar.toNat - '0'.toNat = n % 10 :=
        Nat.toNat_digitChar_sub_48_of_lt_ten (Nat.mod_lt n (by decide))
      rw [fixedDigits, Nat.ofDigitChars_append, ih, Nat.ofDigitChars_cons, Nat.ofDigitChars_nil,
        hlast, Nat.pow_succ', Nat.mod_mul, Nat.add_comm]

theorem isBlank_of_isDigit {c : Char} (h : c.isDigit = true) : isBlank c = false := by
  simp only [Char.isDigit, Bool.and_eq_true, decide_eq_true_eq, UInt32.le_iff_toNat_le] at h
  simp [isBlank]
  simp at h
  omega

/-- A number has no more digits than it is written with. -/
theorem ofDigitChars_lt {ds : List Char} (h : ∀ c ∈ ds, c.isDigit = true) :
    Nat.ofDigitChars 10 ds 0 < 10 ^ ds.length := by
  induction ds with
  | nil => decide
  | cons c ds ih =>
      have hrest := ih fun d hd => h d (List.mem_cons_of_mem _ hd)
      have hdigit : c.toNat - '0'.toNat ≤ 9 := by
        have hc := h c List.mem_cons_self
        simp only [Char.isDigit, Bool.and_eq_true, decide_eq_true_eq, UInt32.le_iff_toNat_le] at hc
        exact Nat.sub_le_sub_right hc.2 _
      have hfirst := Nat.mul_le_mul_left (10 ^ ds.length) hdigit
      rw [Nat.ofDigitChars_cons, Nat.ofDigitChars_eq_ofDigitChars_zero, List.length_cons,
        Nat.pow_succ, Nat.mul_zero, Nat.zero_add]
      omega

/-- Digits of some width begin with a digit. -/
theorem exists_fixedDigits {width : Nat} (hwidth : 0 < width) (n : Nat) :
    ∃ c cs, fixedDigits 10 width n = c :: cs ∧ c.isDigit = true := by
  have hlength := length_fixedDigits 10 width n
  have hdigit := isDigit_fixedDigits width n
  rcases hdigits : fixedDigits 10 width n with _ | ⟨c, cs⟩
  · rw [hdigits] at hlength
    exact absurd hlength (Nat.ne_of_lt hwidth)
  · exact ⟨c, cs, rfl, hdigit c (hdigits ▸ List.mem_cons_self)⟩

theorem isEmpty_fixedDigits {width : Nat} (hwidth : 0 < width) (n : Nat) :
    (fixedDigits 10 width n).isEmpty = false := by
  rcases exists_fixedDigits hwidth n with ⟨c, cs, hdigits, -⟩
  rw [hdigits, List.isEmpty_cons]

theorem trimStart_cons {c : Char} (h : isBlank c = false) (cs : List Char) :
    trimStart (c :: cs) = c :: cs :=
  List.dropWhile_cons_of_neg (by rw [h]; exact Bool.false_ne_true)

end Text

namespace Instant

section Parts

variable {rest : List Char}

/-- A number of fixed width is read to its end. -/
theorem readNumber_fixedDigits {width n : Nat} (hwidth : 0 < width) (hn : n < 10 ^ width) :
    readNumber width (Text.fixedDigits 10 width n ++ rest) = some (n, rest) := by
  rcases Text.exists_fixedDigits hwidth n with ⟨c, cs, hdigits, hc⟩
  have htrim : Text.trimStart (Text.fixedDigits 10 width n ++ rest)
      = Text.fixedDigits 10 width n ++ rest := by
    rw [hdigits]
    exact Text.trimStart_cons (Text.isBlank_of_isDigit hc) _
  have hread : ((Text.fixedDigits 10 width n ++ rest).take width).takeWhile Char.isDigit
      = Text.fixedDigits 10 width n := by
    rw [List.take_left' (Text.length_fixedDigits 10 width n), List.takeWhile_eq_self_iff]
    exact Text.isDigit_fixedDigits width n
  unfold readNumber
  simp only [htrim, hread, Text.isEmpty_fixedDigits hwidth, Text.ofDigitChars_fixedDigits,
    Nat.mod_eq_of_lt hn, List.drop_left, Bool.false_eq_true, if_false]

theorem readNumber_twoDigits {n : Nat} (hn : n < 100) :
    readNumber 2 (twoDigits n ++ rest) = some (n, rest) :=
  readNumber_fixedDigits (by decide) hn

theorem readMark_cons {c : Char} (h : Text.isBlank c = false) :
    readMark c (c :: rest) = some rest := by
  unfold readMark
  rw [Text.trimStart_cons h]
  exact if_pos rfl

/-- The digits behind the sign of a year are read as far as they go. -/
theorem signed_eq (sign : Int) (zeros n : Nat) :
    readYear.signed sign ((List.replicate zeros '0' ++ Nat.toDigits 10 n) ++ '-' :: rest)
      = some (sign * n, '-' :: rest) := by
  have hdigits : ∀ c ∈ List.replicate zeros '0' ++ Nat.toDigits 10 n, c.isDigit = true := by
    intro c hc
    rcases List.mem_append.mp hc with hzero | hdigit
    · rw [List.eq_of_mem_replicate hzero]
      rfl
    · exact Nat.isDigit_of_mem_toDigits (by decide) (by decide) hdigit
  have hrun : ((List.replicate zeros '0' ++ Nat.toDigits 10 n) ++ '-' :: rest).takeWhile
      Char.isDigit = List.replicate zeros '0' ++ Nat.toDigits 10 n := by
    rw [List.takeWhile_append_of_pos hdigits]
    exact List.append_nil _
  have hvalue : Nat.ofDigitChars 10 (List.replicate zeros '0' ++ Nat.toDigits 10 n) 0 = n := by
    rw [Nat.ofDigitChars_append, Nat.ofDigitChars_replicate_zero, Nat.mul_zero,
      Nat.ofDigitChars_ten_toDigits]
  have hnonempty : (List.replicate zeros '0' ++ Nat.toDigits 10 n).isEmpty = false :=
    List.isEmpty_eq_false_iff.mpr (List.append_ne_nil_of_right_ne_nil _ Nat.toDigits_ne_nil)
  unfold readYear.signed
  simp only [hrun, hnonempty, hvalue, List.drop_left, Bool.false_eq_true, if_false]

/-- A year is read to its end, which the hyphen behind it marks if it has a sign. -/
theorem readYear_yearChars (year : Int) :
    readYear (yearChars year ++ '-' :: rest) = some (year, '-' :: rest) := by
  by_cases hplain : 0 ≤ year ∧ year ≤ 9999
  · have hchars : yearChars year = Text.fixedDigits 10 4 year.toNat := by
      simp [yearChars, hplain]
    have hread : readNumber 4 (Text.fixedDigits 10 4 year.toNat ++ '-' :: rest)
        = some (year.toNat, '-' :: rest) := readNumber_fixedDigits (by decide) (by omega)
    rcases Text.exists_fixedDigits (by decide : 0 < 4) year.toNat with ⟨c, cs, hdigits, hc⟩
    rw [hchars]
    rw [hdigits, List.cons_append] at hread ⊢
    unfold readYear
    rw [Text.trimStart_cons (Text.isBlank_of_isDigit hc)]
    simp only
    split
    · next h => rw [(List.cons.inj h).1] at hc; cases hc
    · next h => rw [(List.cons.inj h).1] at hc; cases hc
    · rw [hread, Option.map_some, Int.toNat_of_nonneg hplain.1]
  · have hsigned : (decide (0 ≤ year) && decide (year ≤ 9999)) = false := by
      simpa using hplain
    unfold yearChars
    simp only [hsigned, Bool.false_eq_true, if_false]
    by_cases hnegative : year < 0
    · have habs : -1 * (year.natAbs : Int) = year := by omega
      rw [if_pos hnegative]
      exact (signed_eq (-1) _ year.natAbs).trans (by rw [habs])
    · have habs : 1 * (year.natAbs : Int) = year := by omega
      rw [if_neg hnegative]
      exact (signed_eq 1 _ year.natAbs).trans (by rw [habs])

/-- Digits behind a point are read to their end, as many nanoseconds as they stand for. -/
theorem readFraction_fixedDigits {width n : Nat} (hpos : 0 < width) (hwidth : width ≤ 9)
    (hn : n < 10 ^ width) :
    readFraction ('.' :: (Text.fixedDigits 10 width n ++ ['Z']))
      = some (n * 10 ^ (9 - width), ['Z']) := by
  have hlength := Text.length_fixedDigits 10 width n
  have hrun : (Text.fixedDigits 10 width n ++ ['Z']).takeWhile Char.isDigit
      = Text.fixedDigits 10 width n := by
    rw [List.takeWhile_append_of_pos (Text.isDigit_fixedDigits width n)]
    exact List.append_nil _
  have hkept : (Text.fixedDigits 10 width n).take 9 = Text.fixedDigits 10 width n :=
    List.take_of_length_le (hlength.trans_le hwidth)
  have hrest : (Text.fixedDigits 10 width n ++ ['Z']).drop width = ['Z'] :=
    List.drop_left' hlength
  unfold readFraction
  simp only [hrun, Text.isEmpty_fixedDigits hpos, hkept, hlength, hrest,
    Text.ofDigitChars_fixedDigits, Nat.mod_eq_of_lt hn, Bool.false_eq_true, if_false, Nat.pow_eq]

/-- The nanoseconds are read back. -/
theorem readFraction_fractionChars {nanos : Nat} (h : nanos < nanosPerSecond) :
    readFraction (fractionChars nanos ++ ['Z']) = some (nanos, ['Z']) := by
  unfold nanosPerSecond at h
  unfold fractionChars
  split
  · next hzero => rw [hzero]; rfl
  split
  · next hmilli =>
      rw [List.cons_append, readFraction_fixedDigits (by decide) (by decide) (by omega)]
      congr 2
      omega
  split
  · next hmicro =>
      rw [List.cons_append, readFraction_fixedDigits (by decide) (by decide) (by omega)]
      congr 2
      omega
  · rw [List.cons_append, readFraction_fixedDigits (by decide) (by decide) (by omega)]
    congr 2
    omega

end Parts

/-- The calendar covers the year. A nanosecond of a billion or more is within a leap second, and
    that comes at the end of a minute. -/
structure InCalendar (a : Instant) : Prop where
  year : isYear (Calendar.ofDayNumber (a.seconds / 86400)).1 = true
  nanos_lt : a.nanos < nanosPerSecond ∨ a.nanos < 2 * nanosPerSecond ∧ a.seconds % 60 = 59

/-- Date and time of day give the instant. -/
theorem ofParts?_eq_some {n year : Int} {month day s nanos : Nat}
    (hdate : Calendar.IsDate n year month day) (hyear : isYear year = true)
    (hsame : (Calendar.ofDayNumber n).1 = year) (hs : s < 86400)
    (hnanos : nanos < nanosPerSecond ∨ nanos < 2 * nanosPerSecond ∧ s % 60 = 59) :
    ofParts? year month day (s / 3600) (s / 60 % 60)
      (s % 60 + if nanosPerSecond ≤ nanos then 1 else 0)
      (if nanosPerSecond ≤ nanos then nanos - nanosPerSecond else nanos) 0
      = some ⟨n * 86400 + s, nanos⟩ := by
  have hsplit : n * 86400 + (s / 3600 * 3600 + s / 60 % 60 * 60 : Nat) + (s % 60 : Nat) - 0
      = n * 86400 + s := by omega
  have hday : (n * 86400 + s) / 86400 = n := by omega
  have hvalid : (isYear year && decide (1 ≤ month) && decide (month ≤ 12) && decide (1 ≤ day)
      && decide (day ≤ Calendar.daysInMonth year month) && decide (s / 3600 < 24)
      && decide (s / 60 % 60 < 60)) = true := by
    simp only [Bool.and_eq_true, decide_eq_true_eq]
    exact ⟨⟨⟨⟨⟨⟨hyear, hdate.month_pos⟩, hdate.month_le⟩, hdate.day_pos⟩, hdate.day_le⟩,
      by omega⟩, by omega⟩
  unfold ofParts?
  simp only [hvalid, Bool.true_and, hdate.dayNumber_eq]
  by_cases hleap : nanosPerSecond ≤ nanos
  · have hsecond : s % 60 = 59 := (hnanos.resolve_left (Nat.not_lt.mpr hleap)).2
    rw [hsecond] at hsplit ⊢
    simp only [if_pos hleap, Nat.reduceAdd, decide_true, if_true, hsplit, hday, hsame, hyear,
      Nat.sub_add_cancel hleap, Nat.le_refl]
  · have hsecond : ¬ s % 60 = 60 := by omega
    have hle : s % 60 ≤ 60 := by omega
    simp only [if_neg hleap, Nat.add_zero, hle, hsecond, decide_true, decide_false, if_true,
      Bool.false_eq_true, if_false, hsplit, hday, hsame, hyear]

-- The parts are read in their order; each leaves what comes behind it.
/-- The characters of an instant are read back. -/
theorem ofChars?_toChars {a : Instant} (h : a.InCalendar) : ofChars? a.toChars = some a := by
  have hdate := Calendar.isDate_ofDayNumber (a.seconds / 86400)
  rcases h with ⟨hyear, hnanos⟩
  unfold toChars
  generalize hofDay : Calendar.ofDayNumber (a.seconds / 86400) = date at *
  rcases date with ⟨year, month, day⟩
  dsimp only at hdate hyear ⊢
  have hmonth : month < 100 := Nat.lt_of_le_of_lt hdate.month_le (by decide)
  have hday : day < 100 :=
    Nat.lt_of_le_of_lt (hdate.day_le.trans (Calendar.daysInMonth_le year month)) (by decide)
  have hs : (a.seconds % 86400).toNat < 86400 := by omega
  have hleap : a.nanos < nanosPerSecond
      ∨ a.nanos < 2 * nanosPerSecond ∧ (a.seconds % 86400).toNat % 60 = 59 :=
    hnanos.imp_right fun h => ⟨h.1, by omega⟩
  have hparts := ofParts?_eq_some hdate hyear (by rw [hofDay]) hs hleap
  have hseconds : a.seconds / 86400 * 86400 + ((a.seconds % 86400).toNat : Int) = a.seconds := by
    omega
  rw [hseconds] at hparts
  generalize (a.seconds % 86400).toNat = s at *
  have hdash {cs : List Char} : readMark '-' ('-' :: cs) = some cs := readMark_cons (by decide)
  have hcolon {cs : List Char} : readMark ':' (':' :: cs) = some cs := readMark_cons (by decide)
  have hsecond : s % 60 + (if nanosPerSecond ≤ a.nanos then 1 else 0) < 100 := by
    split <;> omega
  have hfraction : (if nanosPerSecond ≤ a.nanos then a.nanos - nanosPerSecond else a.nanos)
      < nanosPerSecond := by
    split <;> omega
  have hoffset : readOffset (Text.trimStart ['Z']) = some (0, []) := rfl
  unfold timeChars
  simp only [decide_eq_true_eq, List.append_assoc, List.cons_append]
  unfold ofChars?
  refine Option.bind_eq_some_iff.mpr ⟨_, readYear_yearChars year, ?_⟩
  refine Option.bind_eq_some_iff.mpr ⟨_, hdash, ?_⟩
  refine Option.bind_eq_some_iff.mpr ⟨_, readNumber_twoDigits hmonth, ?_⟩
  refine Option.bind_eq_some_iff.mpr ⟨_, hdash, ?_⟩
  refine Option.bind_eq_some_iff.mpr ⟨_, readNumber_twoDigits hday, ?_⟩
  refine Option.bind_eq_some_iff.mpr ⟨_, rfl, ?_⟩
  refine Option.bind_eq_some_iff.mpr ⟨_, readNumber_twoDigits (by omega), ?_⟩
  refine Option.bind_eq_some_iff.mpr ⟨_, hcolon, ?_⟩
  refine Option.bind_eq_some_iff.mpr ⟨_, readNumber_twoDigits (by omega), ?_⟩
  refine Option.bind_eq_some_iff.mpr ⟨_, hcolon, ?_⟩
  refine Option.bind_eq_some_iff.mpr ⟨_, readNumber_twoDigits hsecond, ?_⟩
  refine Option.bind_eq_some_iff.mpr ⟨_, readFraction_fractionChars hfraction, ?_⟩
  refine Option.bind_eq_some_iff.mpr ⟨_, hoffset, ?_⟩
  exact hparts

/-- An instant that is written is read back as it was. -/
theorem ofText?_toText {a : Instant} (h : a.InCalendar) : ofText? a.toText = some a := by
  unfold ofText? toText
  rw [String.toList_ofList, ofChars?_toChars h]

section Read

/-- A fraction that is read is less than a second. -/
theorem readFraction_lt {cs rest : List Char} {nanos : Nat}
    (h : readFraction cs = some (nanos, rest)) : nanos < nanosPerSecond := by
  unfold readFraction at h
  split at h
  · next cs =>
      dsimp only at h
      split at h
      · cases h
      · cases h
        have hdigits : ∀ c ∈ (cs.takeWhile Char.isDigit).take 9, c.isDigit = true := fun c hc =>
          List.mem_takeWhile_imp (List.mem_of_mem_take hc)
        have hlength : ((cs.takeWhile Char.isDigit).take 9).length ≤ 9 := List.length_take_le _ _
        have hlt := Text.ofDigitChars_lt hdigits
        generalize (cs.takeWhile Char.isDigit).take 9 = kept at hlt hlength
        calc Nat.ofDigitChars 10 kept 0 * Nat.pow 10 (9 - kept.length)
            < 10 ^ kept.length * 10 ^ (9 - kept.length) :=
              Nat.mul_lt_mul_of_pos_right hlt (Nat.pow_pos (by decide))
          _ = nanosPerSecond := by
              rw [← Nat.pow_add, Nat.add_sub_cancel' hlength]
              rfl
  · cases h
    decide

/-- An offset has no seconds. -/
theorem readOffsetTime_mod {cs rest : List Char} {n : Nat}
    (h : readOffsetTime cs = some (n, rest)) : n % 60 = 0 := by
  unfold readOffsetTime at h
  rcases Option.bind_eq_some_iff.mp h with ⟨⟨hours, _⟩, -, h⟩
  rcases Option.bind_eq_some_iff.mp h with ⟨⟨minutes, _⟩, -, h⟩
  rcases Option.ite_none_right_eq_some.mp h with ⟨-, h⟩
  cases h
  omega

theorem readOffset_mod {cs rest : List Char} {offset : Int}
    (h : readOffset cs = some (offset, rest)) : offset % 60 = 0 := by
  -- A name stands for zero, and behind a sign there is a time.
  have hsigned {ds : List Char} {f : Nat × List Char → Int × List Char}
      (hf : ∀ n rest, (f (n, rest)).1 = n ∨ (f (n, rest)).1 = -n)
      (htime : (readOffsetTime ds).map f = some (offset, rest)) : offset % 60 = 0 := by
    rcases Option.map_eq_some_iff.mp htime with ⟨⟨n, ds'⟩, hread, heq⟩
    have hmod := readOffsetTime_mod hread
    have hvalue := hf n ds'
    rw [heq] at hvalue
    omega
  unfold readOffset at h
  split at h
  · cases h
    rfl
  · split at h
    · cases h
      rfl
    · cases h
      rfl
    · exact hsigned (fun _ _ => Or.inl rfl) h
    · exact hsigned (fun _ _ => Or.inr rfl) h
    · exact hsigned (fun _ _ => Or.inr rfl) h
    · cases h

/-- A date, a time of day and an offset without seconds give an instant in the calendar. -/
theorem inCalendar_of_ofParts? {year offset : Int} {month day hour minute second nanos : Nat}
    {a : Instant} (h : ofParts? year month day hour minute second nanos offset = some a)
    (hnanos : nanos < nanosPerSecond) (hoffset : offset % 60 = 0) : a.InCalendar := by
  unfold ofParts? at h
  rcases Option.ite_none_right_eq_some.mp h with ⟨-, h⟩
  rcases Option.ite_none_right_eq_some.mp h with ⟨hyear, h⟩
  cases h
  refine ⟨hyear, ?_⟩
  by_cases hleap : second = 60
  · rw [if_pos (decide_eq_true hleap), if_pos (decide_eq_true hleap)]
    refine Or.inr ⟨?_, ?_⟩
    · dsimp only
      omega
    · dsimp only
      omega
  · have hplain : ¬ decide (second = 60) = true := by simpa using hleap
    refine Or.inl ?_
    dsimp only
    rwa [if_neg hplain]

/-- An instant that is read is in the calendar, whatever the spelling. -/
theorem inCalendar_of_ofText? {s : String} {a : Instant} (h : ofText? s = some a) :
    a.InCalendar := by
  unfold ofText? ofChars? at h
  rcases Option.bind_eq_some_iff.mp h with ⟨⟨year, _⟩, -, h⟩
  rcases Option.bind_eq_some_iff.mp h with ⟨_, -, h⟩
  rcases Option.bind_eq_some_iff.mp h with ⟨⟨month, _⟩, -, h⟩
  rcases Option.bind_eq_some_iff.mp h with ⟨_, -, h⟩
  rcases Option.bind_eq_some_iff.mp h with ⟨⟨day, rest⟩, -, h⟩
  -- Three marks may stand between the date and the time of day, and the rest is read alike.
  have htime (cs : List Char) (h : ((readNumber 2 cs).bind fun hour =>
      (readMark ':' hour.2).bind fun cs => (readNumber 2 cs).bind fun minute =>
      (readMark ':' minute.2).bind fun cs => (readNumber 2 cs).bind fun second =>
      (readFraction second.2).bind fun nanos =>
      (readOffset (Text.trimStart nanos.2)).bind fun offset =>
        if offset.2.all Text.isBlank then
          ofParts? year month day hour.1 minute.1 second.1 nanos.1 offset.1
        else none) = some a) : a.InCalendar := by
    rcases Option.bind_eq_some_iff.mp h with ⟨_, -, h⟩
    rcases Option.bind_eq_some_iff.mp h with ⟨_, -, h⟩
    rcases Option.bind_eq_some_iff.mp h with ⟨_, -, h⟩
    rcases Option.bind_eq_some_iff.mp h with ⟨_, -, h⟩
    rcases Option.bind_eq_some_iff.mp h with ⟨_, -, h⟩
    rcases Option.bind_eq_some_iff.mp h with ⟨_, hfraction, h⟩
    rcases Option.bind_eq_some_iff.mp h with ⟨_, hoffset, h⟩
    rcases Option.ite_none_right_eq_some.mp h with ⟨-, hparts⟩
    exact inCalendar_of_ofParts? hparts (readFraction_lt hfraction) (readOffset_mod hoffset)
  dsimp only at h
  split at h
  · exact htime _ h
  · exact htime _ h
  · exact htime _ h
  · cases h

end Read

end Instant

end BankLedger
