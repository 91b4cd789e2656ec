/-!
# The Gregorian calendar

Dates of the proleptic Gregorian calendar, counted in days from 1970-01-01.  Years are counted from March, so that
the day a leap year adds is the last of its year; four hundred years make a whole number of days.

The main statement is that naming a day and counting it again gives the day (`toDay_ofDay`).
-/

namespace WorkspaceSearch

/-- A year, a month from 1 and a day of the month from 1. -/
structure Date where
  year : Int
  month : Nat
  day : Nat
  deriving DecidableEq, Repr, Inhabited

namespace Date

/-- A year divisible by four is a leap year, except a year divisible by a hundred and not by four hundred. -/
def isLeapYear (year : Int) : Bool := year % 4 == 0 && (year % 100 != 0 || year % 400 == 0)

/-- The number of days of a month. -/
def daysInMonth (year : Int) (month : Nat) : Nat :=
  match month with
  | 1 | 3 | 5 | 7 | 8 | 10 | 12 => 31
  | 4 | 6 | 9 | 11 => 30
  | 2 => if isLeapYear year then 29 else 28
  | _ => 0

/-- A date that the calendar has. -/
def Valid (d : Date) : Prop := 1 ≤ d.day ∧ d.day ≤ daysInMonth d.year d.month

instance (d : Date) : Decidable d.Valid := inferInstanceAs (Decidable (_ ∧ _))

/-- Months counted from March, which is 0. -/
def monthFromMarch (month : Nat) : Nat := (month + 9) % 12

/-- The number of days from 1 March of a year to the first day of a month counted from March. -/
def daysBeforeMonth (fromMarch : Nat) : Nat := (153 * fromMarch + 2) / 5

/-- The year that began in the March before the date. -/
def yearFromMarch (d : Date) : Int := if d.month ≤ 2 then d.year - 1 else d.year

/-- The number of days from 1970-01-01 to 1 March of a year. -/
def daysBeforeYear (year : Int) : Int := 365 * year + year / 4 - year / 100 + year / 400 - 719468

/-- The number of days from 1970-01-01 to the date. -/
def toDay (d : Date) : Int :=
  daysBeforeYear d.yearFromMarch + daysBeforeMonth (monthFromMarch d.month) + d.day - 1

/-- The number of days in front of a year of a span of four hundred years. -/
def daysBeforeYearOfEra (year : Int) : Int := 365 * year + year / 4 - year / 100

/-- The year of a span of four hundred years in which its day falls.  The days are split into spans of one hundred,
four and one year; the last year of a span may be a day longer than the others, hence the two minima. -/
def yearOfEra (inEra : Int) : Int :=
  let century := min (inEra / 36524) 3
  let inCentury := inEra - 36524 * century
  let inQuad := inCentury % 1461
  100 * century + 4 * (inCentury / 1461) + min (inQuad / 365) 3

/-- The month, counted from March, in which a day of a year falls. -/
def monthOfYear (inYear : Nat) : Nat := (5 * inYear + 2) / 153

/-- The date with a year and month counted from March. -/
def ofMarch (year : Int) (fromMarch day : Nat) : Date :=
  if fromMarch < 10 then ⟨year, fromMarch + 3, day⟩ else ⟨year + 1, fromMarch - 9, day⟩

/-- The date that many days after 1970-01-01. -/
def ofDay (n : Int) : Date :=
  let era := (n + 719468) / 146097
  let inEra := (n + 719468) % 146097
  let year := yearOfEra inEra
  let inYear := (inEra - daysBeforeYearOfEra year).toNat
  let month := monthOfYear inYear
  ofMarch (400 * era + year) month (inYear - daysBeforeMonth month + 1)

/-! ### counting and naming -/

theorem yearOfEra_bounds {n : Int} (h : 0 ≤ n) (h' : n < 146097) :
    0 ≤ yearOfEra n ∧ yearOfEra n < 400 := by
  simp only [yearOfEra]
  omega

theorem daysBeforeYearOfEra_le {n : Int} (h : 0 ≤ n) (h' : n < 146097) :
    daysBeforeYearOfEra (yearOfEra n) ≤ n ∧ n - daysBeforeYearOfEra (yearOfEra n) < 366 := by
  simp only [daysBeforeYearOfEra, yearOfEra]
  generalize hc : min (n / 36524) 3 = c
  have hc0 : 0 ≤ c ∧ c ≤ 3 := by omega
  generalize hq : (n - 36524 * c) / 1461 = q
  have hq0 : 0 ≤ q ∧ q ≤ 24 := by omega
  generalize hy : min ((n - 36524 * c) % 1461 / 365) 3 = y
  have hy0 : 0 ≤ y ∧ y ≤ 3 := by omega
  have h4 : (100 * c + 4 * q + y) / 4 = 25 * c + q := by omega
  have h100 : (100 * c + 4 * q + y) / 100 = c := by omega
  rw [h4, h100]
  omega

theorem monthOfYear_bounds {k : Nat} (h : k < 366) :
    monthOfYear k < 12 ∧ daysBeforeMonth (monthOfYear k) ≤ k := by
  unfold monthOfYear daysBeforeMonth
  omega

private theorem toDay_ofMarch {year : Int} {month day : Nat} (h : month < 12) :
    (ofMarch year month day).toDay = daysBeforeYear year + daysBeforeMonth month + day - 1 := by
  unfold ofMarch
  split
  · have h1 : ¬month + 3 ≤ 2 := by omega
    have h2 : (month + 3 + 9) % 12 = month := by omega
    simp [toDay, yearFromMarch, monthFromMarch, h1, h2]
  · have h1 : month - 9 ≤ 2 := by omega
    have h2 : (month - 9 + 9) % 12 = month := by omega
    simp [toDay, yearFromMarch, monthFromMarch, h1, h2]

/-- Naming a day and counting it again gives the day. -/
theorem toDay_ofDay (n : Int) : (ofDay n).toDay = n := by
  have he : 0 ≤ (n + 719468) % 146097 ∧ (n + 719468) % 146097 < 146097 := by omega
  obtain ⟨hy0, hy1⟩ := yearOfEra_bounds he.1 he.2
  obtain ⟨hd0, hd1⟩ := daysBeforeYearOfEra_le he.1 he.2
  simp only [ofDay]
  generalize yearOfEra ((n + 719468) % 146097) = y at *
  obtain ⟨k, hk⟩ : ∃ k : Nat, (n + 719468) % 146097 - daysBeforeYearOfEra y = k :=
    ⟨_, (Int.toNat_of_nonneg (by omega)).symm⟩
  rw [hk, Int.toNat_natCast]
  obtain ⟨hm0, hm1⟩ := monthOfYear_bounds (k := k) (by omega)
  generalize monthOfYear k = m at *
  rw [toDay_ofMarch hm0]
  unfold daysBeforeYearOfEra at hk
  unfold daysBeforeYear
  omega

end Date

end WorkspaceSearch
