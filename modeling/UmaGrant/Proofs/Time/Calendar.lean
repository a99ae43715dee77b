import UmaGrant.Time.Instant
/-! # The calendar is right

Days are counted in eras of 400 years, and years from March. In an era the year of a day is found by one
quotient. That is right on the first and on the last day of each of the 400 years, and it never goes back
from one day to the next, so it is right on every day. From there on all is division with remainder: the
date of a day is a date of the calendar, and it is counted back to that day.
-/

namespace UmaGrant.Date

/-! ## Years of an era -/

/-- The year of an era in which a day of it falls. -/
def yearOfEra (day : Int) : Int := (day - day / 1460 + day / 36524 - day / 146096) / 365

/-- The day of an era on which a year of it starts. -/
def yearStart (year : Int) : Int := 365 * year + year / 4 - year / 100

private theorem yearOfEra_mono {first second : Int} (onward : first ≤ second) :
    yearOfEra first ≤ yearOfEra second := by
  have counted : first - first / 1460 + first / 36524 - first / 146096 ≤
      second - second / 1460 + second / 36524 - second / 146096 := by omega
  unfold yearOfEra
  omega

/-- The quotient is right at both ends of each year. -/
private theorem yearOfEra_ends {year : Int} (positive : 0 ≤ year) (small : year < 400) :
    yearOfEra (yearStart year) = year ∧ yearOfEra (yearStart (year + 1) - 1) = year := by
  have all : ∀ candidate : Fin 400, yearOfEra (yearStart candidate) = candidate ∧
      yearOfEra (yearStart (candidate + 1) - 1) = candidate := by decide +kernel
  obtain ⟨number, rfl⟩ := Int.eq_ofNat_of_zero_le positive
  exact all ⟨number, by omega⟩

/-- Each day of an era falls between the start of its year and that of the next one. The last day of an
era is one more than that. -/
theorem yearOfEra_spec {day : Int} (positive : 0 ≤ day) (small : day < 146097) :
    0 ≤ yearOfEra day ∧ yearOfEra day < 400 ∧ yearStart (yearOfEra day) ≤ day ∧
      (yearOfEra day < 399 → day < yearStart (yearOfEra day + 1)) := by
  have low : 0 ≤ yearOfEra day := by
    unfold yearOfEra
    omega
  have high : yearOfEra day < 400 := by
    unfold yearOfEra
    omega
  refine ⟨low, high, Int.not_lt.mp fun early => ?_, fun notLast => Int.not_le.mp fun late => ?_⟩
  · have start : yearOfEra (yearStart (yearOfEra day - 1 + 1) - 1) ≤ yearOfEra day - 1 := by
      by_cases first : yearOfEra day = 0
      · rw [first] at early
        exact absurd early (Int.not_lt.mpr positive)
      · exact Int.le_of_eq (yearOfEra_ends (by omega) (by omega)).2
    have before : day ≤ yearStart (yearOfEra day - 1 + 1) - 1 := by
      rw [Int.sub_add_cancel]
      omega
    have same := Int.le_trans (yearOfEra_mono before) start
    omega
  · have next := (@yearOfEra_ends (yearOfEra day + 1) (by omega) (by omega)).1
    have same := yearOfEra_mono late
    omega

/-! ## The place of a day -/

/-- The month, counted from March, in which a day of a year falls. -/
def monthOfYear (day : Int) : Int := (5 * day + 2) / 153

/-- The day of a year on which a month starts. -/
def monthStart (month : Int) : Int := (153 * month + 2) / 5

/-- Each day of a year falls between the start of its month and that of the next one. -/
private theorem monthOfYear_spec {day : Int} (positive : 0 ≤ day) (small : day ≤ 365) :
    0 ≤ monthOfYear day ∧ monthOfYear day < 12 ∧ monthStart (monthOfYear day) ≤ day ∧
      day < monthStart (monthOfYear day + 1) := by
  unfold monthStart monthOfYear
  omega

/-- Where a day stands: its era, its year, and its month and day in that, all of them from zero. -/
structure Place (days era year month day : Int) : Prop where
  years : 0 ≤ year ∧ year < 400
  months : 0 ≤ month ∧ month < 12
  start : 0 ≤ day
  /-- The first day of the next month is not reached. -/
  monthEnd : monthStart month + day < monthStart (month + 1)
  /-- Nor is the first day of the next year. -/
  yearEnd : monthStart month + day ≤ 365 ∧
    (year < 399 → yearStart year + (monthStart month + day) < yearStart (year + 1))
  counted : days + 719468 = era * 146097 + yearStart year + (monthStart month + day)

/-- The date at a place. -/
def atPlace (era year month day : Int) : Date :=
  let calendarMonth := if month < 10 then month + 3 else month - 9
  ⟨year + era * 400 + if calendarMonth ≤ 2 then 1 else 0, calendarMonth.toNat, (day + 1).toNat⟩

/-- The date of a day is that at the place which the quotients give. -/
private theorem ofDays_eq (days : Int) :
    let inEra := (days + 719468) % 146097
    let year := yearOfEra inEra
    let month := monthOfYear (inEra - yearStart year)
    ofDays days =
      atPlace ((days + 719468) / 146097) year month (inEra - yearStart year - monthStart month) := rfl

/-- Each day has a place, and its date is the one there. -/
theorem place_ofDays (days : Int) :
    ∃ era year month day, Place days era year month day ∧
      ofDays days = atPlace era year month day := by
  have bounds : 0 ≤ (days + 719468) % 146097 ∧ (days + 719468) % 146097 < 146097 := by omega
  have whole : (days + 719468) / 146097 * 146097 + (days + 719468) % 146097 = days + 719468 :=
    Int.ediv_mul_add_emod _ _
  have date := ofDays_eq days
  dsimp only at date
  generalize (days + 719468) / 146097 = era at whole date
  generalize (days + 719468) % 146097 = inEra at bounds whole date
  obtain ⟨low, high, started, ends⟩ := yearOfEra_spec bounds.1 bounds.2
  generalize yearOfEra inEra = year at low high started ends date
  have inYear : inEra - yearStart year ≤ 365 := by
    by_cases last : year < 399
    · have before := ends last
      unfold yearStart at before ⊢
      omega
    · have same : year = 399 := by omega
      subst same
      have start : yearStart 399 = 145731 := rfl
      omega
  obtain ⟨first, twelve, reached, next⟩ := monthOfYear_spec (Int.sub_nonneg.mpr started) inYear
  generalize monthOfYear (inEra - yearStart year) = month at first twelve reached next date
  have sum : monthStart month + (inEra - yearStart year - monthStart month) =
      inEra - yearStart year := by omega
  refine ⟨era, year, month, inEra - yearStart year - monthStart month,
    ⟨⟨low, high⟩, ⟨first, twelve⟩, Int.sub_nonneg.mpr reached, ?_, ?_, ?_⟩, date⟩ <;> rw [sum]
  · exact next
  · exact ⟨inYear, fun notLast => by have before := ends notLast; omega⟩
  · omega

variable {days era year month day : Int}

/-- A place is counted back to its day. -/
theorem Place.toDays (place : Place days era year month day) :
    (atPlace era year month day).toDays = days := by
  obtain ⟨years, months, start, -, -, counted⟩ := place
  have length : ((day + 1).toNat : Int) = day + 1 := Int.toNat_of_nonneg (by omega)
  unfold yearStart monthStart at counted
  by_cases early : month < 10
  · have number : ((month + 3).toNat : Int) = month + 3 := Int.toNat_of_nonneg (by omega)
    have first : ¬ (month + 3).toNat ≤ 2 := by omega
    have late : ¬ month + 3 ≤ 2 := by omega
    have turned : (month + 3 + 9) % 12 = month := by omega
    simp only [atPlace, Date.toDays, if_pos early, if_neg late, if_neg first, number, length, turned]
    omega
  · have number : ((month - 9).toNat : Int) = month - 9 := Int.toNat_of_nonneg (by omega)
    have first : (month - 9).toNat ≤ 2 := by omega
    have late : month - 9 ≤ 2 := by omega
    have turned : (month - 9 + 9) % 12 = month := by omega
    simp only [atPlace, Date.toDays, if_neg early, if_pos late, if_pos first, number, length, turned]
    omega

/-- The month at a place is one of twelve. -/
theorem Place.month_bounds (place : Place days era year month day) :
    1 ≤ (atPlace era year month day).month ∧ (atPlace era year month day).month ≤ 12 := by
  obtain ⟨-, months, -⟩ := place
  simp only [atPlace]
  split <;> omega

/-- A year has a 366th day only if it is a leap year. The year that ends with February is the next one
of the calendar. -/
private theorem Place.isLeapYear (place : Place days era year month day)
    (last : monthStart month + day = 365) : isLeapYear (year + era * 400 + 1) = true := by
  obtain ⟨years, -, -, -, ⟨-, yearEnd⟩, -⟩ := place
  rw [last] at yearEnd
  unfold yearStart at yearEnd
  simp only [Date.isLeapYear, Bool.and_eq_true, Bool.or_eq_true, decide_eq_true_eq]
  omega

/-- The day at a place is one of its month. -/
theorem Place.day_bounds (place : Place days era year month day) :
    1 ≤ (atPlace era year month day).day ∧ (atPlace era year month day).day ≤
      daysInMonth (atPlace era year month day).year (atPlace era year month day).month := by
  have leap := place.isLeapYear
  obtain ⟨years, months, start, monthEnd, ⟨inYear, -⟩, -⟩ := place
  unfold monthStart at monthEnd inYear leap
  refine ⟨by simp only [atPlace]; omega, ?_⟩
  by_cases february : month = 11
  · subst february
    have short : (153 * 11 + 2) / 5 + day = 365 ∨ day ≤ 27 := by omega
    have number : daysInMonth (atPlace era year 11 day).year (atPlace era year 11 day).month =
        if Date.isLeapYear (year + era * 400 + 1) then 29 else 28 := rfl
    rw [number]
    rcases short with last | early
    · rw [if_pos (leap last)]
      simp only [atPlace]
      omega
    · simp only [atPlace]
      split <;> omega
  · by_cases early : month < 10
    · have other : ¬ (month + 3).toNat = 2 := by omega
      simp only [atPlace, daysInMonth, if_pos early, if_neg other]
      split <;> omega
    · obtain rfl : month = 10 := by omega
      have number : daysInMonth (atPlace era year 10 day).year (atPlace era year 10 day).month = 31 :=
        rfl
      rw [number]
      simp only [atPlace]
      omega

/-! ## Dates -/

theorem daysInMonth_le (year : Int) (month : Nat) : daysInMonth year month ≤ 31 := by
  unfold daysInMonth
  split <;> split <;> decide

/-- The date of a day is counted back to that day. -/
@[simp] theorem toDays_ofDays (days : Int) : (ofDays days).toDays = days := by
  obtain ⟨_, _, _, _, place, date⟩ := place_ofDays days
  rw [date, place.toDays]

theorem month_ofDays (days : Int) : 1 ≤ (ofDays days).month ∧ (ofDays days).month ≤ 12 := by
  obtain ⟨_, _, _, _, place, date⟩ := place_ofDays days
  rw [date]
  exact place.month_bounds

theorem day_ofDays (days : Int) : 1 ≤ (ofDays days).day ∧
    (ofDays days).day ≤ daysInMonth (ofDays days).year (ofDays days).month := by
  obtain ⟨_, _, _, _, place, date⟩ := place_ofDays days
  rw [date]
  exact place.day_bounds

end UmaGrant.Date

namespace UmaGrant.Instant

/-- The instant after a lifetime has a date. -/
theorem of_after? {instant later : Instant} {lifetime : Lifetime}
    (ending : instant.after? lifetime = some later) :
    later.inRange = true ∧ later.nanos = instant.nanos + lifetime := by
  rw [after?] at ending
  split at ending
  · cases ending
    exact ⟨‹_›, rfl⟩
  · cases ending

theorem isSome_after?_iff {instant : Instant} {lifetime : Lifetime} :
    (instant.after? lifetime).isSome ↔ (⟨instant.nanos + lifetime⟩ : Instant).inRange = true := by
  rw [after?]
  split <;> simp_all

/-- Whether an instant falls within years, the first and the last one included. -/
def InYears (first last : Int) (instant : Instant) : Prop :=
  (startOf ⟨first, 1, 1⟩).nanos ≤ instant.nanos ∧ instant.nanos < (startOf ⟨last + 1, 1, 1⟩).nanos

instance (first last : Int) (instant : Instant) : Decidable (instant.InYears first last) :=
  inferInstanceAs (Decidable (_ ∧ _))

end UmaGrant.Instant
