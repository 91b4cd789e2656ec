import Mathlib.Tactic.IntervalCases
import WorkspaceSearch.Time.Calendar

/-!
# Named days

A named day is a date that the calendar has (`Date.valid_ofDay`).  The dates of a year come behind those of the years in
front of it (`Date.Valid.le_toDay`, `Date.Valid.toDay_lt`).
-/

namespace WorkspaceSearch.Date

/-- A year of 366 days ends in the February of a leap year. -/
private theorem leap_of_daysBeforeYearOfEra {n : Int} (h : 0 ≤ n) (h' : n < 146097)
    (hlast : n - daysBeforeYearOfEra (yearOfEra n) = 365) :
    (yearOfEra n + 1) % 4 = 0 ∧ ((yearOfEra n + 1) % 100 ≠ 0 ∨ (yearOfEra n + 1) % 400 = 0) := by
  revert hlast
  simp only [daysBeforeYearOfEra, yearOfEra]
  generalize hc : min (n / 36524) 3 = c
  have hc0 : 0 ≤ c ∧ c ≤ 3 := by omega
  generalize hq : (n - 36524 * c) / 1461 = q
  have hq0 : 0 ≤ q ∧ q ≤ 24 := by omega
  generalize hy : min ((n - 36524 * c) % 1461 / 365) 3 = y
  have hy0 : 0 ≤ y ∧ y ≤ 3 := by omega
  have h4 : (100 * c + 4 * q + y) / 4 = 25 * c + q := by omega
  have h100 : (100 * c + 4 * q + y) / 100 = c := by omega
  rw [h4, h100]
  omega

/-- From March to December the months follow each other in a fixed pattern. -/
theorem daysInMonth_eq (year : Int) {m : Nat} (h : m < 10) :
    daysInMonth year (m + 3) = daysBeforeMonth (m + 1) - daysBeforeMonth m := by
  interval_cases m <;> rfl

private theorem valid_ofMarch {year : Int} {k : Nat} (hk : k < 366)
    (hleap : k = 365 → isLeapYear (year + 1) = true) :
    (ofMarch year (monthOfYear k) (k - daysBeforeMonth (monthOfYear k) + 1)).Valid := by
  have hmonth : 153 * monthOfYear k ≤ 5 * k + 2 ∧ 5 * k + 2 < 153 * (monthOfYear k + 1) := by
    unfold monthOfYear
    omega
  generalize monthOfYear k = m at *
  unfold ofMarch
  split
  · next hm =>
    refine ⟨Nat.succ_pos _, ?_⟩
    show k - daysBeforeMonth m + 1 ≤ daysInMonth year (m + 3)
    rw [daysInMonth_eq year hm]
    unfold daysBeforeMonth
    omega
  · next hm =>
    refine ⟨Nat.succ_pos _, ?_⟩
    -- the last two months are those of the next year, and only the second one may have a leap day
    obtain rfl | rfl : m = 10 ∨ m = 11 := by omega
    · have hjanuary : daysInMonth (year + 1) 1 = 31 := rfl
      show k - daysBeforeMonth 10 + 1 ≤ daysInMonth (year + 1) 1
      rw [hjanuary]
      unfold daysBeforeMonth
      omega
    · have hfebruary : daysInMonth (year + 1) 2 = if isLeapYear (year + 1) then 29 else 28 := rfl
      show k - daysBeforeMonth 11 + 1 ≤ daysInMonth (year + 1) 2
      rw [hfebruary]
      unfold daysBeforeMonth
      by_cases hlast : k = 365
      · rw [if_pos (hleap hlast)]
        omega
      · split <;> omega

/-- A named day is a date that the calendar has. -/
theorem valid_ofDay (n : Int) : (ofDay n).Valid := by
  have hera : 0 ≤ (n + 719468) % 146097 ∧ (n + 719468) % 146097 < 146097 := by omega
  obtain ⟨hyear, hyear'⟩ := yearOfEra_bounds hera.1 hera.2
  obtain ⟨hday, hday'⟩ := daysBeforeYearOfEra_le hera.1 hera.2
  have hleap := leap_of_daysBeforeYearOfEra hera.1 hera.2
  simp only [ofDay]
  refine valid_ofMarch (by omega) fun hlast => ?_
  generalize yearOfEra ((n + 719468) % 146097) = y at *
  have hmod := hleap (by omega)
  simp only [isLeapYear, Bool.and_eq_true, Bool.or_eq_true, beq_iff_eq, bne_iff_ne]
  omega

theorem Valid.bounds {d : Date} (h : d.Valid) : (1 ≤ d.month ∧ d.month ≤ 12) ∧ 1 ≤ d.day ∧ d.day ≤ 31 := by
  obtain ⟨hfirst, hlast⟩ := h
  unfold daysInMonth at hlast
  split at hlast
  all_goals first | (split at hlast <;> omega) | omega

/-- Every year has 365 days at least. -/
private theorem daysBeforeYear_add {y z : Int} (h : y ≤ z) : daysBeforeYear y + 365 * (z - y) ≤ daysBeforeYear z := by
  unfold daysBeforeYear
  omega

/-- The days of a year and of those behind it; January and February end the year from March. -/
theorem Valid.le_toDay {d : Date} (h : d.Valid) {year : Int} (hyear : year ≤ d.year) :
    daysBeforeYear (year - 1) + 306 ≤ d.toDay := by
  obtain ⟨⟨hmonth, hmonth'⟩, hday, hday'⟩ := h.bounds
  unfold toDay yearFromMarch
  split
  · have hmarch : 306 ≤ daysBeforeMonth (monthFromMarch d.month) := by
      unfold daysBeforeMonth monthFromMarch
      omega
    have hyears := daysBeforeYear_add (by omega : year - 1 ≤ d.year - 1)
    omega
  · have hyears := daysBeforeYear_add (by omega : year - 1 ≤ d.year)
    omega

/-- The days of the years in front of a year. -/
theorem Valid.toDay_lt {d : Date} (h : d.Valid) {year : Int} (hyear : d.year < year) :
    d.toDay < daysBeforeYear (year - 1) + 306 := by
  obtain ⟨⟨hmonth, hmonth'⟩, hday, hday'⟩ := h.bounds
  unfold toDay yearFromMarch
  split
  · have hmarch : daysBeforeMonth (monthFromMarch d.month) ≤ 337 := by
      unfold daysBeforeMonth monthFromMarch
      omega
    have hyears := daysBeforeYear_add (by omega : d.year - 1 ≤ year - 1)
    omega
  · have hmarch : daysBeforeMonth (monthFromMarch d.month) ≤ 275 := by
      unfold daysBeforeMonth monthFromMarch
      omega
    have hyears := daysBeforeYear_add (by omega : d.year ≤ year - 1)
    omega

/-- The days of the years 0 to 9999. -/
theorem Valid.toDay_bounds {d : Date} (h : d.Valid) (hyear : 0 ≤ d.year) (hyear' : d.year ≤ 9999) :
    -719528 ≤ d.toDay ∧ d.toDay ≤ 2932896 := by
  have hlow : daysBeforeYear (0 - 1) + 306 ≤ d.toDay := h.le_toDay hyear
  have hhigh : d.toDay < daysBeforeYear (10000 - 1) + 306 := h.toDay_lt (by omega)
  have hfirst : daysBeforeYear (0 - 1) + 306 = -719528 := by decide
  have hlast : daysBeforeYear (10000 - 1) + 306 = 2932897 := by decide
  omega

end WorkspaceSearch.Date
