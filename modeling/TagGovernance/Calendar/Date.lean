import TagGovernance.Text.Numeral

/-!
# Calendar dates

The proleptic Gregorian calendar. Days are counted from 1 January 1970. A year is reckoned from
March, so that a leap day is its last one; 400 years have 146097 days.
-/

namespace TagGovernance

structure Date where
  year : Int
  month : Nat
  day : Nat
  deriving DecidableEq, Repr

namespace Date

def isLeap (year : Int) : Bool := year % 4 = 0 && (year % 100 ≠ 0 || year % 400 = 0)

def daysInMonth (year : Int) (month : Nat) : Nat :=
  if month = 2 then (if isLeap year then 29 else 28)
  else if month = 4 ∨ month = 6 ∨ month = 9 ∨ month = 11 then 30
  else 31

/-- The years for which dates are represented. -/
def minYear : Int := -262143
def maxYear : Int := 262142

/-- Whether the calendar has the date and it is within the represented years. -/
def Valid (d : Date) : Prop :=
  minYear ≤ d.year ∧ d.year ≤ maxYear ∧ 1 ≤ d.month ∧ d.month ≤ 12 ∧ 1 ≤ d.day ∧
    d.day ≤ daysInMonth d.year d.month

instance (d : Date) : Decidable d.Valid :=
  inferInstanceAs (Decidable (_ ∧ _ ∧ _ ∧ _ ∧ _ ∧ _))

/-- Days between 1 March of the year 0 and 1 January 1970. -/
def epochOffset : Int := 719468

/-- Days between 1 March of the year 0 and 1 March of this year. -/
def yearStart (year : Int) : Int := 365 * year + year / 4 - year / 100 + year / 400

/-- Days between 1 March and the first day of a month, where March is month 0. -/
def monthStart (month : Int) : Int := (153 * month + 2) / 5

/-- The year, from March to February, that a day belongs to; days are counted from 1 March of the
year 0. Every fourth century, every block of four years but those at the end of the other
centuries, and the last year of each block are a day longer. -/
def yearOfDay (n : Int) : Int :=
  let ofEra := n % 146097
  let century := min 3 (ofEra / 36524)
  let ofCentury := ofEra - 36524 * century
  let block := ofCentury / 1461
  let ofBlock := ofCentury - 1461 * block
  400 * (n / 146097) + 100 * century + 4 * block + min 3 (ofBlock / 365)

/-- The month, from March on, that a day of the year belongs to. -/
def monthOfDay (n : Int) : Int := (5 * n + 2) / 153

/-- The day's number, counted from 1 January 1970. -/
def toDays (d : Date) : Int :=
  (if d.month ≤ 2 then yearStart (d.year - 1) + monthStart (d.month + 9)
    else yearStart d.year + monthStart (d.month - 3)) + d.day - 1 - epochOffset

/-- The date of a day's number. -/
def ofDays (n : Int) : Date :=
  let year := yearOfDay (n + epochOffset)
  let dayOfYear := n + epochOffset - yearStart year
  let month := monthOfDay dayOfYear
  let day := (dayOfYear - monthStart month + 1).toNat
  if month < 10 then ⟨year, (month + 3).toNat, day⟩ else ⟨year + 1, (month - 9).toNat, day⟩

def first : Date := ⟨minYear, 1, 1⟩
def last : Date := ⟨maxYear, 12, 31⟩

/-- Years from 0 to 9999 have four digits, others a sign and at least four. -/
def yearText (year : Int) : List Char :=
  if 0 ≤ year ∧ year ≤ 9999 then Text.padded 4 year.toNat
  else (if year < 0 then '-' else '+') :: Text.padded 4 year.natAbs

/-- The date with a sign between year, month and day. -/
def render (separator : Char) (d : Date) : List Char :=
  yearText d.year ++ separator :: Text.padded 2 d.month ++ separator :: Text.padded 2 d.day

/-- A day lies between the beginnings of its year and of the next one. -/
theorem yearOfDay_bounds (n : Int) :
    yearStart (yearOfDay n) ≤ n ∧ n < yearStart (yearOfDay n + 1) := by
  simp only [yearStart, yearOfDay]
  have h := Int.mul_ediv_add_emod n 146097
  have h1 := Int.emod_nonneg n (b := 146097) (by decide)
  have h2 := Int.emod_lt_of_pos n (b := 146097) (by decide)
  revert h h1 h2
  generalize n / 146097 = e
  generalize n % 146097 = d
  intro h h1 h2
  generalize hc : min 3 (d / 36524) = c
  generalize hq : (d - 36524 * c) / 1461 = q
  generalize hr : min 3 ((d - 36524 * c - 1461 * q) / 365) = r
  have hc' : 0 ≤ c ∧ c ≤ 3 ∧ 36524 * c ≤ d ∧ (d < 36524 * c + 36524 ∨ c = 3) := by omega
  have hq' : 0 ≤ q ∧ q ≤ 24 ∧ 1461 * q ≤ d - 36524 * c ∧ d - 36524 * c < 1461 * q + 1461 := by omega
  have hr' : 0 ≤ r ∧ r ≤ 3 ∧ 365 * r ≤ d - 36524 * c - 1461 * q ∧
      (d - 36524 * c - 1461 * q < 365 * r + 365 ∨ r = 3) := by omega
  have e4 : (400 * e + 100 * c + 4 * q + r) / 4 = 100 * e + 25 * c + q := by omega
  have e100 : (400 * e + 100 * c + 4 * q + r) / 100 = 4 * e + c := by omega
  have e400 : (400 * e + 100 * c + 4 * q + r) / 400 = e := by omega
  clear hc hq hr
  refine ⟨by omega, ?_⟩
  by_cases hr3 : r < 3
  · have f4 : (400 * e + 100 * c + 4 * q + r + 1) / 4 = 100 * e + 25 * c + q := by omega
    have f100 : (400 * e + 100 * c + 4 * q + r + 1) / 100 = 4 * e + c := by omega
    have f400 : (400 * e + 100 * c + 4 * q + r + 1) / 400 = e := by omega
    omega
  · have hr3 : r = 3 := by omega
    have f4 : (400 * e + 100 * c + 4 * q + r + 1) / 4 = 100 * e + 25 * c + q + 1 := by omega
    by_cases hq24 : q < 24
    · have f100 : (400 * e + 100 * c + 4 * q + r + 1) / 100 = 4 * e + c := by omega
      have f400 : (400 * e + 100 * c + 4 * q + r + 1) / 400 = e := by omega
      omega
    · have f100 : (400 * e + 100 * c + 4 * q + r + 1) / 100 = 4 * e + c + 1 := by omega
      by_cases hc3 : c < 3
      · have f400 : (400 * e + 100 * c + 4 * q + r + 1) / 400 = e := by omega
        omega
      · have f400 : (400 * e + 100 * c + 4 * q + r + 1) / 400 = e + 1 := by omega
        omega

theorem monthOfDay_bounds (n : Int) (h : 0 ≤ n) (h' : n ≤ 365) :
    0 ≤ monthOfDay n ∧ monthOfDay n ≤ 11 ∧ monthStart (monthOfDay n) ≤ n := by
  simp only [monthOfDay, monthStart]
  omega

theorem toDays_ofDays (n : Int) : (ofDays n).toDays = n := by
  have hy := yearOfDay_bounds (n + epochOffset)
  have hs (y : Int) : yearStart (y + 1) ≤ yearStart y + 366 := by simp only [yearStart]; omega
  have hs := hs (yearOfDay (n + epochOffset))
  simp only [ofDays]
  generalize yearOfDay (n + epochOffset) = year at hy hs ⊢
  have hm := monthOfDay_bounds (n + epochOffset - yearStart year) (by omega) (by omega)
  generalize monthOfDay (n + epochOffset - yearStart year) = month at hm ⊢
  split
  · have hmonth : ((month + 3).toNat : Int) - 3 = month := by omega
    simp only [toDays]
    rw [if_neg (by omega), hmonth]
    omega
  · have hmonth : ((month - 9).toNat : Int) + 9 = month := by omega
    simp only [toDays]
    rw [if_pos (by omega), hmonth, Int.add_sub_cancel]
    omega

end Date

end TagGovernance
