/-
The system clock follows the calendar.

The seconds, the minutes and the hours carry into the day, and what is behind a month or a
year is given its name by a text of its own, which the conversion from UTC shares.  That
text does not change the number of the day.
-/
import SwiftAcu.Acu.Datetime
import SwiftAcu.Lib.Calendar

namespace SwiftAcu

open Calendar (DateTime ValidDay ValidTime dayNumber secondOfDay monthLength)

theorem toNat_succ {x : UInt8} (h : x.toNat < 255) : (x + 1).toNat = x.toNat + 1 := by
  rw [UInt8.toNat_add]
  exact Nat.mod_eq_of_lt (show x.toNat + 1 < 256 by omega)

/-- The date-time that the system time shows. -/
def SysDateTime.shows (t : SysDateTime) : DateTime :=
  ⟨t.year.toNat, t.month.toNat, t.day.toNat, t.hour.toNat, t.min.toNat, t.senc.toNat⟩

theorem SysDateTime.shows_valid {t : SysDateTime}
    (hdate : ValidDay t.year.toNat t.month.toNat t.day.toNat)
    (htime : ValidTime t.hour.toNat t.min.toNat t.senc.toNat) : t.shows.Valid :=
  ⟨hdate, htime⟩

/-! ### The date -/

theorem leapYear_iff (year : UInt16) : leapYear year = true ↔ Calendar.Leap year.toNat := by
  have hzero (m : UInt16) : 0 = year % m ↔ year.toNat % m.toNat = 0 := by
    rw [← UInt16.toNat_inj, UInt16.toNat_mod]
    exact eq_comm
  simp only [leapYear, Bool.or_eq_true, Bool.and_eq_true, decide_eq_true_eq, ne_eq, hzero]
  rfl

/-- The months, one by one. -/
theorem month_cases {month : UInt8} (hpos : 1 ≤ month.toNat) (hle : month.toNat ≤ 12) :
    month ∈ ([1, 2, 3, 4, 5, 6, 7, 8, 9, 10, 11, 12] : List UInt8) := by
  have hnat : UInt8.ofNat month.toNat = month := UInt8.ofNat_toNat
  rw [← hnat]
  generalize month.toNat = m at hpos hle
  interval_cases m <;> decide

/-- **The three texts for the end of a month are one**, for the length of the month. -/
theorem carryDate_eq {t : SysDateTime} (hpos : 1 ≤ t.month.toNat) (hle : t.month.toNat ≤ 12) :
    ∃ last : UInt8, last.toNat = monthLength t.year.toNat t.month.toNat ∧
      t.carryDate = (let t := t.endMonth last
        if 12 < t.month then { t with month := 1, year := t.year + 1 } else t) := by
  have hmonth := month_cases hpos hle
  simp only [List.mem_cons, List.not_mem_nil, or_false] at hmonth
  unfold SysDateTime.carryDate
  obtain h | h | h | h | h | h | h | h | h | h | h | h := hmonth
  case inr.inl =>
      have hleap := leapYear_iff t.year
      rw [h]
      by_cases hy : Calendar.Leap t.year.toNat
      · exact ⟨29, (if_pos hy).symm, by rw [hleap.mpr hy]; rfl⟩
      · exact ⟨28, (if_neg hy).symm, by rw [Bool.eq_false_iff.mpr (mt hleap.mp hy)]; rfl⟩
  all_goals
    rw [h]
    first
      | exact ⟨31, rfl, rfl⟩
      | exact ⟨30, rfl, rfl⟩

/-- The day is one of its month, or the next; and the year is not the last with a next. -/
structure SysDateTime.Carries (t : SysDateTime) : Prop where
  month_pos : 1 ≤ t.month.toNat
  month_le : t.month.toNat ≤ 12
  day_pos : 1 ≤ t.day.toNat
  day_le : t.day.toNat ≤ monthLength t.year.toNat t.month.toNat + 1
  year_lt : t.year.toNat < 65535 ∨ t.month.toNat < 12 ∨ t.day.toNat ≤ 31

/-- **The text on the calendar** finds the name of a day, and leaves the time alone. -/
theorem SysDateTime.Carries.carryDate {t : SysDateTime} (h : t.Carries) :
    ValidDay t.carryDate.year.toNat t.carryDate.month.toNat t.carryDate.day.toNat ∧
      dayNumber t.carryDate.year.toNat t.carryDate.month.toNat t.carryDate.day.toNat =
        dayNumber t.year.toNat t.month.toNat t.day.toNat ∧
      t.carryDate.hour = t.hour ∧ t.carryDate.min = t.min ∧ t.carryDate.senc = t.senc := by
  obtain ⟨hmpos, hmle, hdpos, hdle, hyear⟩ := h
  obtain ⟨last, hlast, heq⟩ := carryDate_eq hmpos hmle
  rw [heq, SysDateTime.endMonth]
  dsimp only
  by_cases hover : last < t.day
  · have hday : t.day.toNat = monthLength t.year.toNat t.month.toNat + 1 := by
      have := UInt8.lt_iff_toNat_lt.mp hover
      omega
    have hnext : (t.month + 1).toNat = t.month.toNat + 1 := toNat_succ (by omega)
    rw [if_pos hover, hday, Calendar.dayNumber_month]
    by_cases hdec : t.month.toNat = 12
    · have hroom : t.year.toNat < 65535 := by
        rw [hdec] at hday hyear
        have hlong : monthLength t.year.toNat 12 = 31 := rfl
        omega
      have hyearNext : (t.year + 1).toNat = t.year.toNat + 1 := by
        rw [UInt16.toNat_add]
        exact Nat.mod_eq_of_lt (show t.year.toNat + 1 < 65536 by omega)
      have hbehind : 12 < t.month + 1 := by
        rw [UInt8.lt_iff_toNat_lt, hnext, hdec]
        decide
      rw [if_pos hbehind, hdec, Calendar.dayNumber_year]
      dsimp only
      rw [hyearNext]
      exact ⟨Calendar.validDay_first _ (Nat.le_refl 1) (by decide), rfl, rfl, rfl, rfl⟩
    · have hin : ¬ 12 < t.month + 1 := by
        rw [UInt8.lt_iff_toNat_lt, hnext]
        show ¬ 12 < t.month.toNat + 1
        omega
      rw [if_neg hin]
      dsimp only
      rw [hnext]
      exact ⟨Calendar.validDay_first _ (by omega) (by omega), rfl, rfl, rfl, rfl⟩
  · have hin : ¬ 12 < t.month := by
      rw [UInt8.lt_iff_toNat_lt]
      exact Nat.not_lt.mpr hmle
    have hle : t.day.toNat ≤ monthLength t.year.toNat t.month.toNat := by
      rw [← hlast]
      exact Nat.not_lt.mp (mt UInt8.lt_iff_toNat_lt.mpr hover)
    rw [if_neg hover, if_neg hin]
    exact ⟨⟨hmpos, hmle, hdpos, hle⟩, rfl, rfl, rfl, rfl⟩

/-- Another name is not another time. -/
theorem SysDateTime.Carries.seconds_carryDate {t : SysDateTime} (h : t.Carries) :
    t.carryDate.shows.seconds = t.shows.seconds := by
  obtain ⟨-, hnumber, hhour, hmin, hsenc⟩ := h.carryDate
  dsimp only [DateTime.seconds, SysDateTime.shows]
  rw [hnumber, hhour, hmin, hsenc]

/-! ### The time of day -/

theorem not_le_of_toNat_lt {x n : UInt8} (h : x.toNat < n.toNat) : ¬ n ≤ x :=
  fun hle => Nat.not_le.mpr h (UInt8.le_iff_toNat_le.mp hle)

/-- A part of the time that ends at `k`, one more: it starts again, or it is still a time. -/
theorem carry_cases {x n : UInt8} {k : Nat} (hk : n.toNat = k + 1) (h : x.toNat < k + 1) :
    n ≤ x + 1 ∧ x.toNat = k ∨
      ¬ n ≤ x + 1 ∧ (x + 1).toNat = x.toNat + 1 ∧ (x + 1).toNat < k + 1 := by
  have hlt := n.toNat_lt
  have hsucc := toNat_succ (show x.toNat < 255 by omega)
  by_cases hlast : x.toNat = k
  · refine Or.inl ⟨UInt8.le_iff_toNat_le.mpr ?_, hlast⟩
    rw [hsucc, hk, hlast]
  · have hinner : (x + 1).toNat < k + 1 := by omega
    exact Or.inr ⟨not_le_of_toNat_lt (by rw [hk]; exact hinner), hsucc, hinner⟩

/-- A second more: the day is the same, or the next from its first second. -/
structure SysDateTime.NextSecond (t u : SysDateTime) (days : Nat) : Prop where
  year : u.year = t.year
  month : u.month = t.month
  day : u.day.toNat = t.day.toNat + days
  days_le : days ≤ 1
  time : ValidTime u.hour.toNat u.min.toNat u.senc.toNat
  seconds : days * 86400 + secondOfDay u.hour.toNat u.min.toNat u.senc.toNat =
    secondOfDay t.hour.toNat t.min.toNat t.senc.toNat + 1

theorem carryTime_next {t : SysDateTime} (hday : t.day.toNat < 255)
    (h : ValidTime t.hour.toNat t.min.toNat t.senc.toNat) :
    ∃ days, t.NextSecond t.carryTime days := by
  obtain ⟨hhour, hmin, hsec⟩ := h
  have hzero : (0 : UInt8).toNat < 24 ∧ (0 : UInt8).toNat < 60 := by decide
  have hminKept : ¬ 60 ≤ t.min := not_le_of_toNat_lt hmin
  have hhourKept : ¬ 24 ≤ t.hour := not_le_of_toNat_lt hhour
  unfold SysDateTime.carryTime
  dsimp only
  obtain ⟨hs, hlastSec⟩ | ⟨hs, hsecSucc, hsecIn⟩ := @carry_cases t.senc 60 59 rfl hsec
  · rw [if_pos hs]
    dsimp only
    obtain ⟨hm, hlastMin⟩ | ⟨hm, hminSucc, hminIn⟩ := @carry_cases t.min 60 59 rfl hmin
    · rw [if_pos hm]
      dsimp only
      obtain ⟨hh, hlastHour⟩ | ⟨hh, hhourSucc, hhourIn⟩ := @carry_cases t.hour 24 23 rfl hhour
      · rw [if_pos hh]
        refine ⟨1, rfl, rfl, toNat_succ hday, Nat.le_refl 1, ⟨hzero.1, hzero.2, hzero.2⟩, ?_⟩
        simp only [secondOfDay, hlastSec, hlastMin, hlastHour, UInt8.toNat_zero]
      · rw [if_neg hh]
        refine ⟨0, rfl, rfl, rfl, Nat.zero_le 1, ⟨hhourIn, hzero.2, hzero.2⟩, ?_⟩
        simp only [secondOfDay, hhourSucc, hlastSec, hlastMin, UInt8.toNat_zero]
        omega
    · rw [if_neg hm, if_neg hhourKept]
      refine ⟨0, rfl, rfl, rfl, Nat.zero_le 1, ⟨hhour, hminIn, hzero.2⟩, ?_⟩
      simp only [secondOfDay, hminSucc, hlastSec, UInt8.toNat_zero]
      omega
  · rw [if_neg hs, if_neg hminKept, if_neg hhourKept]
    refine ⟨0, rfl, rfl, rfl, Nat.zero_le 1, ⟨hhour, hmin, hsecIn⟩, ?_⟩
    simp only [secondOfDay, hsecSucc]
    omega

/-! ### A second later -/

section
variable {limit : Nat} (hlimit : limit ≤ 65536)
include hlimit

/-- Before a year that can be shown, or behind it, the carries find a day. -/
theorem carries_carryTime {t : SysDateTime} (h : t.shows.Valid)
    (hroom : t.year.toNat < 65535 ∨ t.shows.seconds + 1 < dayNumber limit 1 1 * 86400)
    {days : Nat} (hnext : t.NextSecond t.carryTime days) : t.carryTime.Carries := by
  obtain ⟨⟨hmpos, hmle, hdpos, hdle⟩, -⟩ := h
  dsimp only [SysDateTime.shows] at hmpos hmle hdpos hdle
  have hdays := hnext.days_le
  have hlong := Calendar.monthLength_le t.year.toNat t.month.toNat
  have hday := hnext.day
  refine ⟨?_, ?_, by omega, ?_, ?_⟩
  · rwa [hnext.month]
  · rwa [hnext.month]
  · rw [hnext.year, hnext.month]
    omega
  · rw [hnext.year, hnext.month]
    by_contra hlast
    obtain ⟨hyear, hmonth, hfull, hone⟩ : 65535 ≤ t.year.toNat ∧ t.month.toNat = 12 ∧
        t.day.toNat = 31 ∧ days = 1 := by
      omega
    have hroom := hroom.resolve_left (Nat.not_lt.mpr hyear)
    have hbehind : dayNumber t.year.toNat 12 (31 + 1) = dayNumber (t.year.toNat + 1) 1 1 :=
      (Calendar.dayNumber_month t.year.toNat 12).trans (Calendar.dayNumber_year t.year.toNat)
    have hle : dayNumber limit 1 1 ≤ dayNumber (t.year.toNat + 1) 1 1 := by
      have := Calendar.daysBeforeYear_mono (show limit ≤ t.year.toNat + 1 by omega)
      exact Nat.add_le_add_right (Nat.add_le_add_right this _) 1
    have hseconds := hnext.seconds
    rw [hone] at hseconds
    dsimp only [DateTime.seconds, SysDateTime.shows] at hroom
    rw [hmonth, hfull] at hroom
    rw [← hbehind] at hle
    have hnumber : dayNumber t.year.toNat 12 (31 + 1) = dayNumber t.year.toNat 12 31 + 1 := rfl
    omega

/-- **One call is one second**, as long as there is a next one. -/
theorem refreshBySec_next {t : SysDateTime} (h : t.shows.Valid)
    (hroom : t.year.toNat < 65535 ∨ t.shows.seconds + 1 < dayNumber limit 1 1 * 86400) :
    (refreshBySec t).shows.Valid ∧ (refreshBySec t).shows.seconds = t.shows.seconds + 1 := by
  have hlong := Calendar.monthLength_le t.year.toNat t.month.toNat
  have hdle : t.day.toNat ≤ monthLength t.year.toNat t.month.toNat := h.date.day_le
  obtain ⟨days, hnext⟩ := carryTime_next (show t.day.toNat < 255 by omega) h.time
  have hcarries := carries_carryTime hlimit h hroom hnext
  obtain ⟨hdate, -, hhour, hmin, hsenc⟩ := hcarries.carryDate
  have htime := hnext.time
  rw [← hhour, ← hmin, ← hsenc] at htime
  rw [refreshBySec]
  refine ⟨SysDateTime.shows_valid hdate htime, hcarries.seconds_carryDate.trans ?_⟩
  dsimp only [DateTime.seconds, SysDateTime.shows]
  rw [hnext.year, hnext.month, hnext.day, dayNumber, ← Nat.add_assoc, ← dayNumber, Nat.add_mul,
    Nat.add_assoc, hnext.seconds, Nat.add_assoc]

/-- **So many calls are so many seconds**, up to the last that can be shown. -/
theorem iterate_refreshBySec {t : SysDateTime} (h : t.shows.Valid) {n : Nat}
    (hroom : t.shows.seconds + n < dayNumber limit 1 1 * 86400) :
    (refreshBySec^[n] t).shows.Valid ∧
      (refreshBySec^[n] t).shows.seconds = t.shows.seconds + n := by
  induction n with
  | zero => exact ⟨h, (Nat.add_zero _).symm⟩
  | succ n ih =>
      obtain ⟨hvalid, hseconds⟩ := ih (by omega)
      rw [Function.iterate_succ_apply']
      have hone := refreshBySec_next hlimit hvalid (Or.inr (by rw [hseconds]; omega))
      refine ⟨hone.1, ?_⟩
      rw [hone.2, hseconds, Nat.add_assoc]

end

/--
**The clock keeps the calendar.**  A call shows the valid date-time one second later; and until
the years end, `n` calls show the one `n` seconds later, of which there is no other.
-/
theorem refreshBySec_later (t : SysDateTime) (h : t.shows.Valid) :
    (t.year.toNat < 65535 → (refreshBySec t).shows.Valid ∧
      (refreshBySec t).shows.seconds = t.shows.seconds + 1) ∧
    ∀ n : Nat, t.shows.seconds + n < dayNumber 65536 1 1 * 86400 →
      (refreshBySec^[n] t).shows.Valid ∧
      (refreshBySec^[n] t).shows.seconds = t.shows.seconds + n ∧
      ∀ u : DateTime, u.Valid → u.seconds = t.shows.seconds + n →
        u = (refreshBySec^[n] t).shows := by
  refine ⟨fun hyear => refreshBySec_next (Nat.zero_le _) h (Or.inl hyear), fun n hroom => ?_⟩
  obtain ⟨hvalid, hlater⟩ := iterate_refreshBySec (Nat.le_refl _) h hroom
  exact ⟨hvalid, hlater, fun u hu hseconds => hu.eq_of_seconds hvalid (hseconds.trans hlater.symm)⟩

/-- The last second of February in a century year without a leap day. -/
theorem refreshBySec_later_2100 :
    ((⟨2100, 2, 28, 23, 59, 59⟩ : SysDateTime).year.toNat < 65535 →
      (refreshBySec ⟨2100, 2, 28, 23, 59, 59⟩).shows.Valid ∧
      (refreshBySec ⟨2100, 2, 28, 23, 59, 59⟩).shows.seconds =
        (⟨2100, 2, 28, 23, 59, 59⟩ : SysDateTime).shows.seconds + 1) ∧
    ∀ n : Nat, (⟨2100, 2, 28, 23, 59, 59⟩ : SysDateTime).shows.seconds + n <
        dayNumber 65536 1 1 * 86400 →
      (refreshBySec^[n] ⟨2100, 2, 28, 23, 59, 59⟩).shows.Valid ∧
      (refreshBySec^[n] ⟨2100, 2, 28, 23, 59, 59⟩).shows.seconds =
        (⟨2100, 2, 28, 23, 59, 59⟩ : SysDateTime).shows.seconds + n ∧
      ∀ u : DateTime, u.Valid →
        u.seconds = (⟨2100, 2, 28, 23, 59, 59⟩ : SysDateTime).shows.seconds + n →
        u = (refreshBySec^[n] ⟨2100, 2, 28, 23, 59, 59⟩).shows :=
  refreshBySec_later ⟨2100, 2, 28, 23, 59, 59⟩
    ⟨⟨by decide, by decide, by decide, by decide⟩, ⟨by decide, by decide, by decide⟩⟩

end SwiftAcu
