import BankLedger.Instant

/-!
# Days and Dates

Every day has a date, and the number of the day is found again from the date.

The year of a day is computed in one step, and why that is right is seen when the day is taken
apart: a cycle has centuries, a century has terms of four years, and a term has years, and only the
last one of these may be a day longer than the others. The corrections that the computation makes
before it divides by 365 are then the numbers of leap days before the year. March is the first month
of a year here, so the leap day stands at the end, and the months begin alike in all years.

## Main definitions

* `Calendar.Place`: A day of a cycle, taken apart.
* `Calendar.monthNumber`, `Calendar.monthYear`: The months of a year that begins in March.
* `Calendar.IsDate`: The date of a day.

## Theorems

* `Calendar.exists_place`: Every day of a cycle can be taken apart.
* `Calendar.Place.yearOfCycle_eq`: The year of a day.
* `Calendar.exists_month`: The month of a day.
* `Calendar.isDate_ofDayNumber`: The date that is computed for a day exists, and is its date.
-/

namespace BankLedger

namespace Calendar

/-- The day `d` of a cycle: so many centuries, terms of four years and years come before its year,
    and so many days of its year before it. -/
structure Place (d century term year day : Int) : Prop where
  eq : d = 36524 * century + 1461 * term + 365 * year + day
  century_nonneg : 0 ≤ century
  century_le : century ≤ 3
  term_nonneg : 0 ≤ term
  term_le : term ≤ 24
  year_nonneg : 0 ≤ year
  year_le : year ≤ 3
  day_nonneg : 0 ≤ day
  day_le : day ≤ 365
  /-- A year with one more day is the last one of its term, and if the term is the last one of its
      century, the century is the last one too. -/
  leap : day = 365 → year = 3 ∧ (term = 24 → century = 3)

/-- Every day of a cycle has its place. -/
theorem exists_place {d : Int} (hmin : 0 ≤ d) (hmax : d < 146097) :
    ∃ century term year day, Place d century term year day := by
  -- The last century has a day more than the others, and so has the last year of a term.
  let century := min 3 (d / 36524)
  let inCentury := d - 36524 * century
  let inTerm := inCentury % 1461
  let year := min 3 (inTerm / 365)
  refine ⟨century, inCentury / 1461, year, inTerm - 365 * year, ?_⟩
  constructor <;> omega

namespace Place

variable {d century term year day : Int} (h : Place d century term year day)

include h

/-- The year of a day in its cycle. -/
theorem yearOfCycle_eq :
    (d - d / 1460 + d / 36524 - d / 146096) / 365 = 100 * century + 4 * term + year := by
  rcases h with ⟨hd, _, _, _, _, _, _, _, _, hleap⟩
  -- The last day of the cycle is the one for which the centuries come out too many.
  by_cases hlast : term = 24 ∧ day = 365
  · have : d = 146096 := by omega
    omega
  · have hcentury : d / 36524 = century := by omega
    have hcycle : d / 146096 = 0 := by omega
    have hterms : d / 1460 = 25 * century + term ∨ d / 1460 = 25 * century + term + 1 := by omega
    omega

/-- The days of the cycle before the year of a day. -/
theorem yearStart_eq :
    365 * (100 * century + 4 * term + year) + (100 * century + 4 * term + year) / 4
      - (100 * century + 4 * term + year) / 100 = d - day := by
  rcases h with ⟨rfl, _, _, _, _, _, _, _, _, _⟩
  omega

/-- The February behind a year with one more day is that of a leap year. -/
theorem isLeap_of_eq (hday : day = 365) (cycle : Int) :
    isLeap (100 * century + 4 * term + year + cycle * 400 + 1) = true := by
  rcases h with ⟨_, _, _, _, _, _, _, _, _, hleap⟩
  simp only [isLeap, Bool.and_eq_true, Bool.or_eq_true, decide_eq_true_eq]
  omega

end Place

theorem daysInMonth_le (year : Int) (month : Nat) : daysInMonth year month ≤ 31 := by
  unfold daysInMonth
  split
  · split <;> decide
  · split <;> decide

/-- The date exists, and is the one of the day `n`. -/
structure IsDate (n year : Int) (month day : Nat) : Prop where
  dayNumber_eq : dayNumber year month day = n
  month_pos : 1 ≤ month
  month_le : month ≤ 12
  day_pos : 1 ≤ day
  day_le : day ≤ daysInMonth year month

section March

/-- The months from March on, with the lengths they have in a leap year. -/
def marchLengths : List Nat := [31, 30, 31, 30, 31, 31, 30, 31, 30, 31, 31, 29]

/-- The number that the month with so many months since March has in its own year. -/
def monthNumber (m : Nat) : Nat := if m < 10 then m + 3 else m - 9

/-- The year of a month, when `year` is the year of the March before it. -/
def monthYear (year : Int) (m : Nat) : Int := if m < 10 then year else year + 1

/-- The month of a day that so many days of its year come before. -/
theorem exists_month {day : Int} (hmin : 0 ≤ day) (hmax : day ≤ 365) :
    ∃ m k : Nat, (5 * day + 2) / 153 = m ∧ day - (153 * (m : Int) + 2) / 5 + 1 = k ∧ m < 12 ∧
      1 ≤ k ∧ k ≤ marchLengths.getD m 0 := by
  have hall : ∀ d < 366, (5 * d + 2) / 153 < 12 ∧ (153 * ((5 * d + 2) / 153) + 2) / 5 ≤ d ∧
      d - (153 * ((5 * d + 2) / 153) + 2) / 5 + 1 ≤ marchLengths.getD ((5 * d + 2) / 153) 0 := by
    decide +kernel
  rcases Int.eq_ofNat_of_zero_le hmin with ⟨d, rfl⟩
  rcases hall d (by omega) with ⟨hm, hle, hlength⟩
  exact ⟨(5 * d + 2) / 153, d - (153 * ((5 * d + 2) / 153) + 2) / 5 + 1, by omega, by omega, hm,
    by omega, hlength⟩

variable {year : Int} {m k : Nat} (hm : m < 12)

include hm

/-- The number of the day of a date is found from the March before it. -/
theorem dayNumber_month :
    dayNumber (monthYear year m) (monthNumber m) k = year / 400 * 146097 + year % 400 * 365
      + year % 400 / 4 - year % 400 / 100 + ((153 * m + 2) / 5 + k - 1) - 719468 := by
  have hmonth : ((monthNumber m : Int) + 9) % 12 = m := by
    unfold monthNumber
    split <;> omega
  have hyear : (if monthNumber m ≤ 2 then monthYear year m - 1 else monthYear year m) = year := by
    by_cases h : m < 10
    · rw [monthNumber, if_pos h, monthYear, if_pos h, if_neg (by omega)]
    · rw [monthNumber, if_neg h, monthYear, if_neg h, if_pos (by omega)]
      omega
  simp only [dayNumber, hmonth, hyear]

/-- A day that is no leap day has its place in the month; a leap day needs a leap year. -/
theorem le_daysInMonth (hk : k ≤ marchLengths.getD m 0)
    (hleap : m = 11 → k = 29 → isLeap (year + 1) = true) :
    k ≤ daysInMonth (monthYear year m) (monthNumber m) := by
  by_cases hlast : m = 11
  · subst hlast
    have hlength : k ≤ 29 := hk
    have hmonth : daysInMonth (monthYear year 11) (monthNumber 11)
        = if isLeap (year + 1) then 29 else 28 := rfl
    rw [hmonth]
    by_cases hday : k = 29
    · rw [hleap rfl hday]
      exact hk
    · split <;> omega
  · have hall : ∀ m < 11, marchLengths.getD m 0 = daysInMonth 0 (monthNumber m) ∧
        monthNumber m ≠ 2 := by
      decide
    rcases hall m (by omega) with ⟨hlength, hfebruary⟩
    rw [hlength, daysInMonth, if_neg hfebruary] at hk
    rwa [daysInMonth, if_neg hfebruary]

end March

/-- The date of a day exists, and is its date. -/
theorem isDate_ofDayNumber (n : Int) :
    IsDate n (ofDayNumber n).1 (ofDayNumber n).2.1 (ofDayNumber n).2.2 := by
  rcases exists_place (d := (n + 719468) % 146097) (by omega) (by omega)
    with ⟨century, term, year, day, h⟩
  rcases exists_month h.day_nonneg h.day_le with ⟨m, k, hmonth, hday, hm, hk, hlength⟩
  have hdate : ofDayNumber n = (monthYear (100 * century + 4 * term + year
      + (n + 719468) / 146097 * 400) m, monthNumber m, k) := by
    unfold ofDayNumber
    simp only [h.yearOfCycle_eq, h.yearStart_eq, Int.sub_sub_self, hmonth, hday, Int.toNat_natCast]
    by_cases hfirst : m < 10
    · have hmarch : (m : Int) < 10 := by omega
      have hlater : ¬ (m : Int) + 3 ≤ 2 := by omega
      have hnumber : ((m : Int) + 3).toNat = m + 3 := by omega
      rw [if_pos hmarch, if_neg hlater, hnumber, monthYear, if_pos hfirst, monthNumber,
        if_pos hfirst]
    · have hmarch : ¬ (m : Int) < 10 := by omega
      have hlater : (m : Int) - 9 ≤ 2 := by omega
      have hnumber : ((m : Int) - 9).toNat = m - 9 := by omega
      rw [if_neg hmarch, if_pos hlater, hnumber, monthYear, if_neg hfirst, monthNumber,
        if_neg hfirst]
  rw [hdate]
  dsimp only
  constructor
  · have hstart := h.yearStart_eq
    rw [dayNumber_month hm]
    rcases h with ⟨_, _, _, _, _, _, _, _, _, _⟩
    have hyear : (100 * century + 4 * term + year + (n + 719468) / 146097 * 400) % 400
        = 100 * century + 4 * term + year := by omega
    rw [hyear]
    omega
  · unfold monthNumber
    split <;> omega
  · unfold monthNumber
    split <;> omega
  · exact hk
  · refine le_daysInMonth hm hlength fun hlast hleapDay => h.isLeap_of_eq ?_ _
    subst hlast hleapDay
    omega

end Calendar

end BankLedger
