import NodeAdmin.Time.Calendar

/-!
# Days and dates

Every number of days is that of the date that it is converted to, and the date is on the
calendar.  The days of an era are counted in centuries, cycles of four years and years; only
the last year of a cycle has a leap day, and the last cycle of a century only in the last century
of the era.
-/

namespace NodeAdmin.Time

/-- A day of an era by its place in the calendar. -/
structure EraDay (dayOfEra : Int) where
  century : Int
  cycle : Int
  place : Int
  dayOfYear : Int
  inEra : 0 ≤ century ∧ century ≤ 3
  inCentury : 0 ≤ cycle ∧ cycle ≤ 24
  inCycle : 0 ≤ place ∧ place ≤ 3
  inYear : 0 ≤ dayOfYear ∧ dayOfYear ≤ 365
  leapDay : dayOfYear = 365 → place = 3 ∧ (cycle = 24 → century = 3)
  sum : dayOfEra = 36524 * century + 1461 * cycle + 365 * place + dayOfYear

namespace EraDay

variable {dayOfEra : Int}

theorem exists_of_lt (first : 0 ≤ dayOfEra) (last : dayOfEra < 146097) :
    Nonempty (EraDay dayOfEra) := by
  obtain ⟨century, inEra, left, within⟩ : ∃ century : Int, (0 ≤ century ∧ century ≤ 3) ∧
      0 ≤ dayOfEra - 36524 * century ∧
      (dayOfEra - 36524 * century < 36524 ∨
        century = 3 ∧ dayOfEra - 36524 * century = 36524) := by
    refine ⟨min 3 (dayOfEra / 36524), ?_⟩
    omega
  generalize remaining : dayOfEra - 36524 * century = dayOfCentury at left within
  obtain ⟨place, inCycle, inYear⟩ : ∃ place : Int, (0 ≤ place ∧ place ≤ 3) ∧
      0 ≤ dayOfCentury % 1461 - 365 * place ∧
      (dayOfCentury % 1461 - 365 * place < 365 ∨
        place = 3 ∧ dayOfCentury % 1461 - 365 * place = 365) := by
    refine ⟨min 3 (dayOfCentury % 1461 / 365), ?_⟩
    omega
  constructor
  refine ⟨century, dayOfCentury / 1461, place, dayOfCentury % 1461 - 365 * place, inEra, ?_,
    inCycle, ?_, ?_, ?_⟩ <;> omega

def year (day : EraDay dayOfEra) : Int := 100 * day.century + 4 * day.cycle + day.place

theorem year_bounds (day : EraDay dayOfEra) : 0 ≤ day.year ∧ day.year ≤ 399 := by
  have inEra := day.inEra
  have inCentury := day.inCentury
  have inCycle := day.inCycle
  unfold year
  omega

/-- The quotient that finds the year.  Every leap day in front of a day would move it on. -/
theorem year_eq (day : EraDay dayOfEra) :
    (dayOfEra - dayOfEra / 1460 + dayOfEra / 36524 - dayOfEra / 146096) / 365 = day.year := by
  obtain ⟨century, cycle, place, dayOfYear, inEra, inCentury, inCycle, inYear, leapDay, sum⟩ := day
  -- Only the last century of an era has a leap day of its own at the end.
  have within : 1461 * cycle + 365 * place + dayOfYear ≤ 36523 ∨
      century = 3 ∧ 1461 * cycle + 365 * place + dayOfYear = 36524 := by
    rcases Int.lt_or_le dayOfYear 365 with usual | last
    · omega
    · have ends := leapDay (by omega)
      omega
  unfold year
  dsimp only
  rcases within with within | ⟨rfl, final⟩
  · have centuries : dayOfEra / 36524 = century := by omega
    have lastDay : dayOfEra / 146096 = 0 := by omega
    have cycles : dayOfEra / 1460 = 25 * century + cycle +
        (24 * century + cycle + 365 * place + dayOfYear) / 1460 := by omega
    have carry : (24 * century + cycle + 365 * place + dayOfYear) / 1460 = 0 ∨
        (24 * century + cycle + 365 * place + dayOfYear) / 1460 = 1 := by omega
    have moved : dayOfYear = 365 →
        (24 * century + cycle + 365 * place + dayOfYear) / 1460 = 1 := by omega
    omega
  · obtain rfl : dayOfEra = 146096 := by omega
    omega

theorem dayOfYear_eq (day : EraDay dayOfEra) :
    dayOfEra - (365 * day.year + day.year / 4 - day.year / 100) = day.dayOfYear := by
  obtain ⟨century, cycle, place, dayOfYear, inEra, inCentury, inCycle, inYear, leapDay, sum⟩ := day
  unfold year
  dsimp only
  omega

/-- A leap day ends its year, so that it belongs to the year before the next March. -/
theorem isLeapYear_of_leapDay (day : EraDay dayOfEra) (era : Int) (leap : day.dayOfYear = 365) :
    isLeapYear (day.year + era * 400 + 1) = true := by
  obtain ⟨century, cycle, place, dayOfYear, inEra, inCentury, inCycle, inYear, leapDay, sum⟩ := day
  obtain ⟨last, final⟩ := leapDay leap
  simp only [isLeapYear, year, Bool.and_eq_true, Bool.or_eq_true, beq_iff_eq, bne_iff_ne]
  omega

end EraDay

/-! ## Months -/

namespace CivilDate

/-- The date of a day in a year that starts in March. -/
def ofMarch (year dayOfYear : Int) : CivilDate :=
  let fromMarch := (5 * dayOfYear + 2) / 153
  let month := if fromMarch < 10 then fromMarch + 3 else fromMarch - 9
  ⟨if month ≤ 2 then year + 1 else year, month.toNat,
    (dayOfYear - (153 * fromMarch + 2) / 5 + 1).toNat⟩

variable {year dayOfYear fromMarch : Int}

theorem ofMarch_same_year (found : (5 * dayOfYear + 2) / 153 = fromMarch)
    (first : 0 ≤ fromMarch) (early : fromMarch < 10) :
    ofMarch year dayOfYear = ⟨year, (fromMarch + 3).toNat,
      (dayOfYear - (153 * fromMarch + 2) / 5 + 1).toNat⟩ := by
  have later : ¬ fromMarch + 3 ≤ 2 := by omega
  simp only [ofMarch, found, if_pos early, if_neg later]

theorem ofMarch_next_year (found : (5 * dayOfYear + 2) / 153 = fromMarch)
    (late : 10 ≤ fromMarch) (last : fromMarch ≤ 11) :
    ofMarch year dayOfYear = ⟨year + 1, (fromMarch - 9).toNat,
      (dayOfYear - (153 * fromMarch + 2) / 5 + 1).toNat⟩ := by
  have early : fromMarch - 9 ≤ 2 := by omega
  simp only [ofMarch, found, if_neg (Int.not_lt.mpr late), if_pos early]

theorem isValid_ofMarch (inYear : 0 ≤ dayOfYear ∧ dayOfYear ≤ 365)
    (leap : dayOfYear = 365 → isLeapYear (year + 1) = true) :
    (ofMarch year dayOfYear).isValid = true := by
  rcases Int.lt_or_le ((5 * dayOfYear + 2) / 153) 10 with early | late
  · generalize found : (5 * dayOfYear + 2) / 153 = fromMarch at early
    rw [ofMarch_same_year found (by omega) early]
    have months : fromMarch = 0 ∨ fromMarch = 1 ∨ fromMarch = 2 ∨ fromMarch = 3 ∨ fromMarch = 4 ∨
        fromMarch = 5 ∨ fromMarch = 6 ∨ fromMarch = 7 ∨ fromMarch = 8 ∨ fromMarch = 9 := by omega
    rcases months with rfl | rfl | rfl | rfl | rfl | rfl | rfl | rfl | rfl | rfl <;>
      simp [isValid, daysInMonth] <;> omega
  · generalize found : (5 * dayOfYear + 2) / 153 = fromMarch at late
    rw [ofMarch_next_year found late (by omega)]
    obtain rfl | rfl : fromMarch = 10 ∨ fromMarch = 11 := by omega
    · simp [isValid, daysInMonth]
      omega
    · rcases Int.lt_or_le dayOfYear 365 with usual | leapDay
      · have least : 28 ≤ daysInMonth (year + 1) 2 := by
          rw [daysInMonth]
          split <;> decide
        simp [isValid]
        omega
      · have isLeap := leap (by omega)
        simp [isValid, daysInMonth, isLeap]
        omega

theorem toDays_ofMarch (inYear : 0 ≤ dayOfYear ∧ dayOfYear ≤ 365) :
    (ofMarch year dayOfYear).toDays = year / 400 * 146097 +
      (year % 400 * 365 + year % 400 / 4 - year % 400 / 100 + dayOfYear) - 719468 := by
  rcases Int.lt_or_le ((5 * dayOfYear + 2) / 153) 10 with early | late
  · generalize found : (5 * dayOfYear + 2) / 153 = fromMarch at early
    rw [ofMarch_same_year found (by omega) early]
    have counted : ¬ (fromMarch + 3).toNat ≤ 2 := by omega
    simp only [toDays, if_neg counted]
    omega
  · generalize found : (5 * dayOfYear + 2) / 153 = fromMarch at late
    rw [ofMarch_next_year found late (by omega)]
    have counted : (fromMarch - 9).toNat ≤ 2 := by omega
    simp only [toDays, if_pos counted, Int.add_sub_cancel]
    omega

theorem ofDays_eq {days : Int} (day : EraDay ((days + 719468) % 146097)) :
    ofDays days = ofMarch (day.year + (days + 719468) / 146097 * 400) day.dayOfYear := by
  simp only [ofDays, ofMarch, day.year_eq, day.dayOfYear_eq]

/-! ## Dates of days -/

theorem exists_eraDay (days : Int) : Nonempty (EraDay ((days + 719468) % 146097)) :=
  EraDay.exists_of_lt (by omega) (by omega)

theorem isValid_ofDays (days : Int) : (ofDays days).isValid = true := by
  obtain ⟨day⟩ := exists_eraDay days
  rw [ofDays_eq day]
  exact isValid_ofMarch day.inYear (day.isLeapYear_of_leapDay _)

/-- The date of a number of days has that number. -/
theorem toDays_ofDays (days : Int) : (ofDays days).toDays = days := by
  obtain ⟨day⟩ := exists_eraDay days
  have dayOfYear := day.dayOfYear_eq
  have bounds := day.year_bounds
  have era : (day.year + (days + 719468) / 146097 * 400) / 400 = (days + 719468) / 146097 := by
    omega
  have yearOfEra : (day.year + (days + 719468) / 146097 * 400) % 400 = day.year := by omega
  rw [ofDays_eq day, toDays_ofMarch day.inYear, era, yearOfEra]
  omega

end CivilDate

end NodeAdmin.Time
