/-
The Gregorian calendar, counted in seconds.

A date-time is six numbers, and `seconds` is how long after the first second of the year 0 it
is.  Months are counted by the days before them, so that a month that is full and the first
of the next have one number, and a carry is a day that is given another name.  Among valid
date-times no two have one number of seconds.
-/
import Mathlib.Tactic.IntervalCases

namespace Calendar

/-- A date and a time of day. -/
structure DateTime where
  year : Nat
  month : Nat
  day : Nat
  hour : Nat
  min : Nat
  sec : Nat
  deriving DecidableEq

/-- A year with a 29th of February. -/
def Leap (y : Nat) : Prop := y % 4 = 0 ∧ y % 100 ≠ 0 ∨ y % 400 = 0

instance (y : Nat) : Decidable (Leap y) := inferInstanceAs (Decidable (_ ∨ _))

/-- The days of a month. -/
def monthLength (y : Nat) : Nat → Nat
  | 1 => 31
  | 2 => if Leap y then 29 else 28
  | 3 => 31
  | 4 => 30
  | 5 => 31
  | 6 => 30
  | 7 => 31
  | 8 => 31
  | 9 => 30
  | 10 => 31
  | 11 => 30
  | 12 => 31
  | _ => 0

/-- The days of a year before a month. -/
def daysBeforeMonth (y : Nat) : Nat → Nat
  | 0 => 0
  | m + 1 => daysBeforeMonth y m + monthLength y m

/-- The days of a year. -/
def yearLength (y : Nat) : Nat := daysBeforeMonth y 13

/-- The days before a year. -/
def daysBeforeYear : Nat → Nat
  | 0 => 0
  | y + 1 => daysBeforeYear y + yearLength y

/-- The number of a day, also of one that its month does not have. -/
def dayNumber (y m d : Nat) : Nat := daysBeforeYear y + daysBeforeMonth y m + d

/-- The seconds of a day before a time. -/
def secondOfDay (h m s : Nat) : Nat := h * 3600 + m * 60 + s

/-- How late it is. -/
def DateTime.seconds (t : DateTime) : Nat :=
  dayNumber t.year t.month t.day * 86400 + secondOfDay t.hour t.min t.sec

/-- A day of the calendar. -/
structure ValidDay (y m d : Nat) : Prop where
  month_pos : 1 ≤ m
  month_le : m ≤ 12
  day_pos : 1 ≤ d
  day_le : d ≤ monthLength y m

/-- A time of day. -/
structure ValidTime (h m s : Nat) : Prop where
  hour : h < 24
  min : m < 60
  sec : s < 60

/-- A date-time that there is. -/
structure DateTime.Valid (t : DateTime) : Prop where
  date : ValidDay t.year t.month t.day
  time : ValidTime t.hour t.min t.sec

/-! ### Carries -/

theorem monthLength_le (y m : Nat) : monthLength y m ≤ 31 := by
  unfold monthLength
  split
  case h_2 => split <;> omega
  all_goals omega

theorem monthLength_ge {y m : Nat} (hpos : 1 ≤ m) (hle : m ≤ 12) : 28 ≤ monthLength y m := by
  interval_cases m
  case «2» => rw [monthLength]; split <;> omega
  all_goals simp [monthLength]

/-- The day behind a month is the first of the next. -/
theorem dayNumber_month (y m : Nat) :
    dayNumber y m (monthLength y m + 1) = dayNumber y (m + 1) 1 := by
  rw [dayNumber, dayNumber, daysBeforeMonth, ← Nat.add_assoc, Nat.add_assoc (daysBeforeYear y)]

/-- The day behind a year is the first of the next. -/
theorem dayNumber_year (y : Nat) : dayNumber y 13 1 = dayNumber (y + 1) 1 1 := by
  simp only [dayNumber, daysBeforeYear, yearLength, daysBeforeMonth, monthLength, Nat.add_zero]

/-- The first of a month. -/
theorem validDay_first (y : Nat) {m : Nat} (hpos : 1 ≤ m) (hle : m ≤ 12) : ValidDay y m 1 :=
  ⟨hpos, hle, Nat.le_refl 1, Nat.le_trans (by decide) (monthLength_ge hpos hle)⟩

/-! ### No two have one number -/

theorem daysBeforeMonth_mono (y : Nat) {m m' : Nat} (h : m ≤ m') :
    daysBeforeMonth y m ≤ daysBeforeMonth y m' := by
  induction h with
  | refl => exact Nat.le_refl _
  | step _ ih => exact Nat.le_trans ih (Nat.le_add_right _ _)

theorem daysBeforeYear_mono {y y' : Nat} (h : y ≤ y') : daysBeforeYear y ≤ daysBeforeYear y' := by
  induction h with
  | refl => exact Nat.le_refl _
  | step _ ih => exact Nat.le_trans ih (Nat.le_add_right _ _)

section
variable {y m d y' m' d' : Nat}

/-- A day is not behind its month. -/
theorem ValidDay.le_next (h : ValidDay y m d) :
    dayNumber y m d ≤ daysBeforeYear y + daysBeforeMonth y (m + 1) := by
  have := h.day_le
  rw [dayNumber, daysBeforeMonth]
  omega

/-- A day is not behind its year. -/
theorem ValidDay.le_nextYear (h : ValidDay y m d) : dayNumber y m d ≤ daysBeforeYear (y + 1) := by
  have hmonth := daysBeforeMonth_mono y (show m + 1 ≤ 13 from Nat.succ_le_succ h.month_le)
  have := h.le_next
  rw [daysBeforeYear, yearLength]
  omega

theorem ValidDay.lt_of_year (h : ValidDay y m d) (h' : ValidDay y' m' d') (hlt : y < y') :
    dayNumber y m d < dayNumber y' m' d' := by
  have hle := h.le_nextYear
  have hyear := daysBeforeYear_mono (Nat.succ_le_of_lt hlt)
  have hpos := h'.day_pos
  rw [Nat.succ_eq_add_one] at hyear
  rw [dayNumber] at hle ⊢
  rw [dayNumber]
  omega

theorem ValidDay.lt_of_month (h : ValidDay y m d) (h' : ValidDay y m' d') (hlt : m < m') :
    dayNumber y m d < dayNumber y m' d' := by
  have hle := h.le_next
  have hmonth := daysBeforeMonth_mono y (Nat.succ_le_of_lt hlt)
  have hpos := h'.day_pos
  rw [Nat.succ_eq_add_one] at hmonth
  rw [dayNumber] at hle ⊢
  rw [dayNumber]
  omega

theorem ValidDay.eq_of_dayNumber (h : ValidDay y m d) (h' : ValidDay y' m' d')
    (heq : dayNumber y m d = dayNumber y' m' d') : y = y' ∧ m = m' ∧ d = d' := by
  obtain hlt | rfl | hgt := Nat.lt_trichotomy y y'
  · exact absurd heq (h.lt_of_year h' hlt).ne
  · obtain hlt | rfl | hgt := Nat.lt_trichotomy m m'
    · exact absurd heq (h.lt_of_month h' hlt).ne
    · exact ⟨rfl, rfl, Nat.add_left_cancel heq⟩
    · exact absurd heq (h'.lt_of_month h hgt).ne'
  · exact absurd heq (h'.lt_of_year h hgt).ne'

end

theorem ValidTime.secondOfDay_lt {h m s : Nat} (hv : ValidTime h m s) :
    secondOfDay h m s < 86400 := by
  have := hv.hour
  have := hv.min
  have := hv.sec
  rw [secondOfDay]
  omega

/-- **A date-time is known by its seconds.** -/
theorem DateTime.Valid.eq_of_seconds {t t' : DateTime} (h : t.Valid) (h' : t'.Valid)
    (heq : t.seconds = t'.seconds) : t = t' := by
  have hlt := h.time.secondOfDay_lt
  have hlt' := h'.time.secondOfDay_lt
  rw [DateTime.seconds, DateTime.seconds] at heq
  have hday : dayNumber t.year t.month t.day = dayNumber t'.year t'.month t'.day := by omega
  have htime : secondOfDay t.hour t.min t.sec = secondOfDay t'.hour t'.min t'.sec := by omega
  obtain ⟨hyear, hmonth, hday⟩ := h.date.eq_of_dayNumber h'.date hday
  obtain ⟨hhour, hmin, hsec⟩ : t.hour = t'.hour ∧ t.min = t'.min ∧ t.sec = t'.sec := by
    have := h.time.min
    have := h.time.sec
    have := h'.time.min
    have := h'.time.sec
    rw [secondOfDay, secondOfDay] at htime
    omega
  obtain ⟨y, m, d, hr, mi, s⟩ := t
  obtain rfl : y = t'.year := hyear
  obtain rfl : m = t'.month := hmonth
  obtain rfl : d = t'.day := hday
  obtain rfl : hr = t'.hour := hhour
  obtain rfl : mi = t'.min := hmin
  obtain rfl : s = t'.sec := hsec
  rfl

end Calendar
