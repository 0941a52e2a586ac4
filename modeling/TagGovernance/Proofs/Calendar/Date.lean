import Mathlib.Tactic.IntervalCases
import TagGovernance.Calendar.Date

/-!
# The range of dates

The dates that the calendar has in the represented years are those of the days from the first of
them to the last.
-/

namespace TagGovernance.Date

theorem yearStart_mono {y z : Int} (h : y ≤ z) : yearStart y ≤ yearStart z := by
  simp only [yearStart]
  omega

/-- A year from March to February has the leap day of the calendar year that it ends in. -/
theorem yearStart_succ (y : Int) :
    yearStart (y + 1) = yearStart y + if isLeap (y + 1) then 366 else 365 := by
  have hleap : isLeap (y + 1) = true ↔
      (y + 1) % 4 = 0 ∧ ((y + 1) % 100 ≠ 0 ∨ (y + 1) % 400 = 0) := by
    simp [isLeap]
  simp only [yearStart]
  split <;> rename_i h <;> rw [hleap] at h <;> omega

private theorem yearStart_pred (y : Int) : yearStart (y - 1) + 365 ≤ yearStart y := by
  have hsucc := yearStart_succ (y - 1)
  rw [Int.sub_add_cancel] at hsucc
  split at hsucc <;> omega

/-- From March on, a month ends where the next one begins. -/
private theorem monthStart_next (year : Int) (month : Nat) (h : 3 ≤ month) (h' : month ≤ 12) :
    monthStart (month - 3) + daysInMonth year month = monthStart (month - 3 + 1) := by
  interval_cases month <;> rfl

private theorem daysInMonth_february (year : Int) :
    (daysInMonth year 2 : Int) = (if isLeap year then 366 else 365) - monthStart 11 := by
  rw [daysInMonth, if_pos rfl]
  cases isLeap year <;> rfl

theorem daysInMonth_le (year : Int) (month : Nat) : daysInMonth year month ≤ 31 := by
  unfold daysInMonth
  split_ifs <;> omega

private theorem Valid.toDays_bounds {d : Date} (h : d.Valid) :
    yearStart (d.year - 1) + monthStart 10 ≤ d.toDays + epochOffset ∧
      d.toDays + epochOffset < yearStart d.year + monthStart 10 := by
  obtain ⟨year, month, day⟩ := d
  obtain ⟨-, -, hmonth, hmonth', hday, hday'⟩ := h
  have hyear := yearStart_pred year
  dsimp only at *
  simp only [toDays]
  by_cases hmarch : 3 ≤ month
  · have hnext := monthStart_next year month hmarch hmonth'
    rw [if_neg (by omega)]
    simp only [monthStart] at hnext ⊢
    omega
  · have hdays := hday'.trans (daysInMonth_le year month)
    rw [if_pos (by omega)]
    simp only [monthStart]
    omega

private theorem first_toDays :
    first.toDays = yearStart (minYear - 1) + monthStart 10 - epochOffset := rfl

private theorem last_toDays :
    last.toDays = yearStart maxYear + monthStart 10 - 1 - epochOffset := rfl

theorem Valid.toDays_range {d : Date} (h : d.Valid) :
    first.toDays ≤ d.toDays ∧ d.toDays ≤ last.toDays := by
  obtain ⟨hfrom, hto⟩ := h.toDays_bounds
  have hmin := yearStart_mono (Int.sub_le_sub_right h.1 1)
  have hmax := yearStart_mono h.2.1
  rw [first_toDays, last_toDays]
  omega

private theorem year_range {n : Int} (year : Int) (hfirst : first.toDays ≤ n)
    (hlast : n ≤ last.toDays) (hfrom : yearStart (year - 1) + monthStart 10 ≤ n + epochOffset)
    (hto : n + epochOffset < yearStart year + monthStart 10) :
    minYear ≤ year ∧ year ≤ maxYear := by
  rw [first_toDays] at hfirst
  rw [last_toDays] at hlast
  constructor
  · by_contra hlt
    have := yearStart_mono (show year ≤ minYear - 1 by omega)
    omega
  · by_contra hlt
    have := yearStart_mono (show maxYear ≤ year - 1 by omega)
    omega

private theorem lt_monthStart_next (n : Int) : n < monthStart (monthOfDay n + 1) := by
  simp only [monthOfDay, monthStart]
  omega

theorem valid_ofDays {n : Int} (hfirst : first.toDays ≤ n) (hlast : n ≤ last.toDays) :
    (ofDays n).Valid := by
  have hyear := yearOfDay_bounds (n + epochOffset)
  have hrange (y : Int) := year_range y hfirst hlast
  simp only [ofDays]
  generalize yearOfDay (n + epochOffset) = year at hyear ⊢
  have hsucc := yearStart_succ year
  have hbefore := yearStart_pred year
  have hlength : yearStart (year + 1) ≤ yearStart year + 366 := by split at hsucc <;> omega
  have hmonth := monthOfDay_bounds (n + epochOffset - yearStart year) (by omega) (by omega)
  have hnext := lt_monthStart_next (n + epochOffset - yearStart year)
  generalize monthOfDay (n + epochOffset - yearStart year) = month at hmonth hnext ⊢
  have hten : monthStart 10 = 306 := rfl
  split
  · -- From March to December the year is the calendar's.
    have hend : monthStart (month + 1) ≤ 306 := by simp only [monthStart]; omega
    obtain ⟨hmin, hmax⟩ := hrange year (by omega) (by omega)
    have hdays := monthStart_next year (month + 3).toNat (by omega) (by omega)
    rw [show (((month + 3).toNat : Nat) : Int) - 3 = month by omega] at hdays
    refine ⟨hmin, hmax, ?_, ?_, ?_, ?_⟩ <;> dsimp only <;> omega
  · -- January and February belong to the next year of the calendar.
    have hstart : 306 ≤ monthStart month := by simp only [monthStart]; omega
    obtain ⟨hmin, hmax⟩ := hrange (year + 1) (by rw [Int.add_sub_cancel]; omega) (by omega)
    have hdays : n + epochOffset - yearStart year - monthStart month + 1 ≤
        daysInMonth (year + 1) (month - 9).toNat := by
      obtain rfl | rfl : month = 10 ∨ month = 11 := by omega
      · have hjanuary : (daysInMonth (year + 1) (10 - 9 : Int).toNat : Int) = 31 := rfl
        simp only [monthStart] at hnext ⊢
        omega
      · have hfebruary := daysInMonth_february (year + 1)
        rw [show ((11 - 9 : Int).toNat) = 2 from rfl, hfebruary]
        omega
    refine ⟨hmin, hmax, ?_, ?_, ?_, ?_⟩ <;> dsimp only <;> omega

end TagGovernance.Date
