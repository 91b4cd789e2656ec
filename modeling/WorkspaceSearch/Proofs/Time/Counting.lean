import Mathlib.Tactic.IntervalCases
import WorkspaceSearch.Proofs.Time.Order

/-!
# Counting days

The days in front of a date can be counted by adding up the months of the calendar, from the year 0 on (`Date.count`).
The day of a date is that count, taken from 1970-01-01 (`Date.Valid.toDay_eq_count`), and no two dates have one day
(`Date.Valid.eq_of_toDay_eq`).
-/

namespace WorkspaceSearch.Date

/-- The days of the months of a year in front of a month; all days of the year in front of a thirteenth one. -/
def daysToMonth (year : Int) (month : Nat) : Nat :=
  ((List.range (month - 1)).map fun m => daysInMonth year (m + 1)).sum

/-- The days of the years in front of a year, from the year 0 on. -/
def daysToYear (year : Nat) : Nat := ((List.range year).map fun y => daysToMonth y 13).sum

/-- The days in front of a date, from the first day of the year 0 on: those of the years and of the months that are over,
and those of its own month. -/
def count (year month day : Nat) : Nat := daysToYear year + daysToMonth year month + (day - 1)

/-- Of the months only the second has as many days as the year makes it. -/
private theorem daysToMonth_eq (year : Int) {month : Nat} (hfirst : 1 ≤ month) (hlast : month ≤ 13) :
    daysToMonth year month =
      if month ≤ 2 then 31 * (month - 1)
      else 31 + daysInMonth year 2 + daysBeforeMonth (month - 3) := by
  interval_cases month <;>
    simp [daysToMonth, List.range_succ, daysBeforeMonth, daysInMonth]
  all_goals omega

private theorem daysToYear_succ (year : Nat) : daysToYear (year + 1) = daysToYear year + daysToMonth year 13 := by
  simp [daysToYear, List.range_succ]

/-- The first day of a year. -/
private theorem daysToYear_eq (year : Nat) : (daysToYear year : Int) = daysBeforeYear (year - 1) + 306 + 719528 := by
  induction year with
  | zero => decide
  | succ year ih =>
    have hyear := daysToMonth_eq year (by decide : 1 ≤ 13) (Nat.le_refl 13)
    have hmonths : daysBeforeMonth 10 = 306 := rfl
    have hpred := daysBeforeYear_pred year
    rw [if_neg (by decide), hmonths] at hyear
    have hnext : ((year + 1 : Nat) : Int) - 1 = year := by omega
    rw [daysToYear_succ, hnext, ← hpred, Int.natCast_add, ih, hyear]
    push_cast
    omega

/-- The day of a date is the count of the days in front of it. -/
private theorem Valid.toDay_add {d : Date} (h : d.Valid) {year : Nat} (hyear : d.year = year) :
    d.toDay + 719528 = count year d.month d.day := by
  obtain ⟨⟨hmonth, hmonth'⟩, hday, -⟩ := h.bounds
  have hyears := daysToYear_eq year
  have hmonths := daysToMonth_eq year hmonth (by omega : d.month ≤ 13)
  have hpred := daysBeforeYear_pred year
  unfold toDay yearFromMarch monthFromMarch
  rw [count, hmonths, hyear]
  split
  · next hearly =>
    have hfrom : daysBeforeMonth ((d.month + 9) % 12) = 306 + 31 * (d.month - 1) := by
      unfold daysBeforeMonth
      omega
    rw [hfrom]
    push_cast
    omega
  · next hlate =>
    have hfrom : (d.month + 9) % 12 = d.month - 3 := by omega
    rw [hfrom]
    push_cast
    omega

/-- Days are counted from 1970-01-01. -/
theorem Valid.toDay_eq_count {d : Date} (h : d.Valid) {year : Nat} (hyear : d.year = year) :
    d.toDay = (count year d.month d.day : Int) - count 1970 1 1 := by
  have hepoch : (⟨1970, 1, 1⟩ : Date).toDay + 719528 = count 1970 1 1 := Valid.toDay_add (by decide) rfl
  have hzero : (⟨1970, 1, 1⟩ : Date).toDay = 0 := by decide
  have hday := h.toDay_add hyear
  omega

/-- No two dates have one day. -/
theorem Valid.eq_of_toDay_eq {d e : Date} (hd : d.Valid) (he : e.Valid) (h : d.toDay = e.toDay) : d = e := by
  have hyear : d.year = e.year := by
    rcases Int.lt_trichotomy d.year e.year with hlt | heq | hgt
    · have hless := hd.toDay_lt hlt
      have hmore := he.le_toDay (Int.le_refl e.year)
      omega
    · exact heq
    · have hless := he.toDay_lt hgt
      have hmore := hd.le_toDay (Int.le_refl d.year)
      omega
  have hmonth : d.month = e.month := by
    rcases Nat.lt_trichotomy d.month e.month with hlt | heq | hgt
    · have hless := hd.toDay_lt_of_month he hyear hlt
      omega
    · exact heq
    · have hless := he.toDay_lt_of_month hd hyear.symm hgt
      omega
  have hday : d.day = e.day := by
    simp only [toDay, yearFromMarch, hyear, hmonth] at h
    omega
  cases d
  cases e
  simp_all

end WorkspaceSearch.Date
