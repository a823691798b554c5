import Tollgate.Time.Instant

/-!
# The calendar

Every day number is that of exactly one date: `Date.toDays` takes back what `Date.ofDays`
does, and what that gives is a date of the calendar. The proof goes the way of the
algorithm, from eras of four centuries down to years and months that begin in March.
-/

namespace Tollgate.Time

-- ---------------------------------------------------------------------------
-- Years of an era

def yearOfEra (dayOfEra : Int) : Int :=
  (dayOfEra - dayOfEra / 1460 + dayOfEra / 36524 - dayOfEra / 146096) / 365

def firstDayOfYear (year : Int) : Int :=
  365 * year + year / 4 - year / 100

/-- Day `r` of cycle `q` of four years in century `c` of an era. -/
theorem yearOfEra_eq {c q r : Int} (centuries : 0 ≤ c ∧ c ≤ 3) (cycles : 0 ≤ q)
    (days : 0 ≤ r ∧ r ≤ 1460) (inside : 1461 * q + r < 36524) :
    yearOfEra (36524 * c + (1461 * q + r)) = 100 * c + 4 * q + (r - r / 1460) / 365 := by
  generalize whole : 36524 * c + (1461 * q + r) = day
  have era : day / 146096 = 0 := by omega
  have century : day / 36524 = c := by omega
  have leapDays : day / 1460 = 25 * c + q + (24 * c + q + r) / 1460 := by
    have : day = 1460 * (25 * c + q) + (24 * c + q + r) := by omega
    rw [this, Int.mul_add_ediv_left _ _ (by decide)]
  -- The last days of a cycle may be counted as one leap day too many, which is not enough
  -- to change the year.
  have near : ∀ x, 0 ≤ x ∧ x ≤ 96 → (r - (x + r) / 1460) / 365 = (r - r / 1460) / 365 := by
    intro x bound
    by_cases last : r = 1460
    · subst last
      omega
    · have none : r / 1460 = 0 := by omega
      rw [none]
      omega
  have year : day - day / 1460 + day / 36524 - day / 146096 =
      365 * (100 * c + 4 * q) + (r - (24 * c + q + r) / 1460) := by
    rw [era, century, leapDays]
    omega
  rw [yearOfEra, year, Int.mul_add_ediv_left _ _ (by decide), near (24 * c + q) (by omega)]

theorem isLeapYear_add_eras (year era : Int) : isLeapYear (year + era * 400) = isLeapYear year := by
  have fourth : (year + era * 400) % 4 = year % 4 := by omega
  have century : (year + era * 400) % 100 = year % 100 := by omega
  have era : (year + era * 400) % 400 = year % 400 := by omega
  simp only [isLeapYear, fourth, century, era]

/-- A day of a year of an era. The years begin in March, so that the leap day is the last
one of its year. -/
structure IsDayOfYear (dayOfEra year day : Int) : Prop where
  counted : dayOfEra = firstDayOfYear year + day
  years : 0 ≤ year ∧ year < 400
  days : 0 ≤ day ∧ day ≤ 365
  leap : day = 365 → isLeapYear (year + 1)

theorem isDayOfYear_yearOfEra {day : Int} (era : 0 ≤ day ∧ day < 146097) :
    IsDayOfYear day (yearOfEra day) (day - firstDayOfYear (yearOfEra day)) := by
  by_cases last : day = 146096
  · subst last
    exact ⟨by decide, by decide, by decide, by decide⟩
  · obtain ⟨c, s, rfl, centuries, within⟩ :
        ∃ c s, day = 36524 * c + s ∧ (0 ≤ c ∧ c ≤ 3) ∧ 0 ≤ s ∧ s < 36524 :=
      ⟨day / 36524, day % 36524, by omega, by omega, by omega⟩
    obtain ⟨q, r, rfl, cycles, days⟩ :
        ∃ q r, s = 1461 * q + r ∧ 0 ≤ q ∧ 0 ≤ r ∧ r ≤ 1460 :=
      ⟨s / 1461, s % 1461, by omega, by omega, by omega⟩
    have year := yearOfEra_eq centuries cycles days within.2
    generalize yearOfEra (36524 * c + (1461 * q + r)) = y at year ⊢
    obtain ⟨a, same, years, inYear⟩ : ∃ a, (r - r / 1460) / 365 = a ∧ (0 ≤ a ∧ a ≤ 3) ∧
        0 ≤ r - 365 * a ∧ r - 365 * a ≤ 365 ∧ (r - 365 * a = 365 → a = 3) :=
      ⟨_, rfl, by omega, by omega⟩
    rw [same] at year
    have quarters : y / 4 = 25 * c + q := by omega
    have century : y / 100 = c := by omega
    have start : firstDayOfYear y = 36524 * c + 1461 * q + 365 * a := by
      rw [firstDayOfYear, quarters, century]
      omega
    refine ⟨by omega, by omega, by omega, fun leapDay => ?_⟩
    have cycle : (y + 1) % 4 = 0 := by omega
    have century : (y + 1) % 100 ≠ 0 := by omega
    simp [isLeapYear, cycle, century]

-- ---------------------------------------------------------------------------
-- Months of a year

namespace Date

/-- A day of a month, both counted from 0, of a year that begins in March. -/
def ofMarch (year month day : Int) : Date :=
  let calendarMonth := if month < 10 then month + 3 else month - 9
  ⟨if calendarMonth ≤ 2 then year + 1 else year, calendarMonth.toNat, (day + 1).toNat⟩

def firstDayOfMonth (month : Int) : Int :=
  (153 * month + 2) / 5

theorem toDays_ofMarch {era year month day : Int} (years : 0 ≤ year ∧ year < 400)
    (months : 0 ≤ month ∧ month ≤ 11) (days : 0 ≤ day) :
    (ofMarch (year + era * 400) month day).toDays =
      era * 146097 + (firstDayOfYear year + firstDayOfMonth month + day) - 719468 := by
  have eras : (year + era * 400).fdiv 400 = era := by
    rw [Int.fdiv_eq_ediv_of_nonneg _ (by decide)]
    omega
  by_cases early : month < 10
  · have late : ¬ month + 3 ≤ 2 := by omega
    have later : 2 < (month + 3).toNat := by omega
    simp only [toDays, ofMarch, if_pos early, if_neg late, Nat.not_le.mpr later, if_false, later,
      if_true, eras]
    simp only [firstDayOfYear, firstDayOfMonth]
    omega
  · have late : month - 9 ≤ 2 := by omega
    have later : ¬ 2 < (month - 9).toNat := by omega
    have year' : year + era * 400 + 1 - 1 = year + era * 400 := by omega
    simp only [toDays, ofMarch, if_neg early, if_pos late, Nat.not_lt.mp later, if_true, later,
      if_false, year', eras]
    simp only [firstDayOfYear, firstDayOfMonth]
    omega

theorem inMonth_ofMarch {year day month : Int} (days : 0 ≤ day ∧ day ≤ 365)
    (leap : day = 365 → isLeapYear (year + 1)) (inMonth : (5 * day + 2) / 153 = month) :
    let d := ofMarch year month (day - firstDayOfMonth month)
    (1 ≤ d.month ∧ d.month ≤ 12) ∧ 1 ≤ d.day ∧ d.day ≤ daysInMonth d.year d.month := by
  by_cases february : month = 11
  · subst february
    cases leapYear : isLeapYear (year + 1) with
    | true =>
      have length : daysInMonth (year + 1) 2 = 29 := by simp [daysInMonth, leapYear]
      simp [ofMarch, firstDayOfMonth, length]
      omega
    | false =>
      have length : daysInMonth (year + 1) 2 = 28 := by simp [daysInMonth, leapYear]
      have short : day ≠ 365 := fun last => by simp [leap last] at leapYear
      simp [ofMarch, firstDayOfMonth, length]
      omega
  · have months : month = 0 ∨ month = 1 ∨ month = 2 ∨ month = 3 ∨ month = 4 ∨ month = 5 ∨
        month = 6 ∨ month = 7 ∨ month = 8 ∨ month = 9 ∨ month = 10 := by omega
    rcases months with rfl | rfl | rfl | rfl | rfl | rfl | rfl | rfl | rfl | rfl | rfl <;>
      simp [ofMarch, firstDayOfMonth, daysInMonth] <;> omega

-- ---------------------------------------------------------------------------
-- Dates

theorem exists_ofMarch (n : Int) :
    ∃ era year day : Int, IsDayOfYear (n + 719468 - era * 146097) year day ∧
      ofDays n = ofMarch (year + era * 400) ((5 * day + 2) / 153)
        (day - firstDayOfMonth ((5 * day + 2) / 153)) := by
  have eras : 0 ≤ n + 719468 - (n + 719468).fdiv 146097 * 146097 ∧
      n + 719468 - (n + 719468).fdiv 146097 * 146097 < 146097 := by
    rw [Int.fdiv_eq_ediv_of_nonneg _ (by decide)]
    omega
  exact ⟨_, _, _, isDayOfYear_yearOfEra eras, rfl⟩

theorem toDays_ofDays (n : Int) : (ofDays n).toDays = n := by
  obtain ⟨era, year, day, h, date⟩ := exists_ofMarch n
  have days := h.days
  have months : 0 ≤ (5 * day + 2) / 153 ∧ (5 * day + 2) / 153 ≤ 11 := by omega
  have started : firstDayOfMonth ((5 * day + 2) / 153) ≤ day := by
    rw [firstDayOfMonth]
    omega
  rw [date, toDays_ofMarch h.years months (by omega)]
  have counted := h.counted
  omega

theorem isValid_ofDays {n : Int} (first : firstYear ≤ (ofDays n).year)
    (last : (ofDays n).year ≤ lastYear) : (ofDays n).isValid := by
  obtain ⟨era, year, day, h, date⟩ := exists_ofMarch n
  have leap : day = 365 → isLeapYear (year + era * 400 + 1) := by
    rw [Int.add_right_comm, isLeapYear_add_eras]
    exact h.leap
  obtain ⟨months, days⟩ := inMonth_ofMarch h.days leap rfl
  rw [← date] at months days
  simp [isValid, first, last, months, days]

theorem daysInMonth_le (year : Int) (month : Nat) : daysInMonth year month ≤ 31 := by
  simp only [daysInMonth]
  split
  next => split <;> decide
  next => split <;> decide

theorem inMonth_of_isValid {d : Date} (h : d.isValid) :
    (1 ≤ d.month ∧ d.month ≤ 12) ∧ 1 ≤ d.day ∧ d.day ≤ 31 := by
  have length := daysInMonth_le d.year d.month
  simp only [isValid, Bool.and_eq_true, decide_eq_true_eq] at h
  omega

end Date

end Tollgate.Time
