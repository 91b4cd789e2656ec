import Mathlib.Data.List.Lex
import WorkspaceSearch.Proofs.Time.Text

/-!
# The order of stored stamps

Stamps in tables are compared as texts.  For the years 0 to 9999 that is the order of the instants
(`Instant.toStored_lt_toStored`): numerals of one width are in the order of their numbers, the parts of a stamp follow
each other from the greatest unit to the smallest, and where a fraction ends the zone begins with a character that comes
before the point and before every digit.
-/

namespace WorkspaceSearch

-- the powers of the core library, whatever else is in scope
attribute [local instance (2000)] instPowNat

open Numeral (padded)

/-! ### Digits -/

namespace Numeral

private theorem value_cons {c : Char} {cs : List Char} (h : ∀ d ∈ c :: cs, isDigit d = true) :
    value 0 (c :: cs) = (c.toNat - 48) * 10 ^ cs.length + value 0 cs := by
  rw [value_eq_ofDigitChars h, value_eq_ofDigitChars fun d hd => h d (List.mem_cons_of_mem c hd), Nat.ofDigitChars_cons,
    Nat.ofDigitChars_eq_ofDigitChars_zero, Nat.mul_zero, Nat.zero_add, Nat.mul_comm]
  rfl

theorem value_lt {cs : List Char} (h : ∀ d ∈ cs, isDigit d = true) : value 0 cs < 10 ^ cs.length := by
  induction cs with
  | nil => decide
  | cons c cs ih =>
    have hrest := ih fun d hd => h d (List.mem_cons_of_mem c hd)
    obtain ⟨hlow, hhigh⟩ := toNat_of_isDigit (h c List.mem_cons_self)
    have hdigit : (c.toNat - 48) * 10 ^ cs.length ≤ 9 * 10 ^ cs.length := Nat.mul_le_mul_right _ (by omega)
    rw [value_cons h, List.length_cons, Nat.pow_succ]
    omega

/-- Digits are in the order of the numbers that they are with as many zeros behind them as make them equally long, if
what follows the shorter ones comes before every digit. -/
private theorem append_lt_append (width : Nat) {ds es xs ys : List Char} (hds : ∀ d ∈ ds, isDigit d = true)
    (hes : ∀ e ∈ es, isDigit e = true) (hwidth : ds.length ≤ width) (hwidth' : es.length ≤ width)
    (hshort : ds.length < es.length → ∀ c cs, isDigit c = true → xs < c :: cs)
    (h : value 0 ds * 10 ^ (width - ds.length) < value 0 es * 10 ^ (width - es.length)) : ds ++ xs < es ++ ys := by
  induction ds generalizing es width with
  | nil =>
    cases es with
    | nil => exact absurd h (by simp [value])
    | cons e es => exact hshort (by simp) e _ (hes e List.mem_cons_self)
  | cons d ds ih =>
    cases es with
    | nil => exact absurd h (by simp [value])
    | cons e es =>
      obtain ⟨width, rfl⟩ : ∃ w, width = w + 1 := ⟨width - 1, by simp at hwidth; omega⟩
      simp only [List.length_cons, Nat.add_le_add_iff_right] at hwidth hwidth'
      have hds' := fun c hc => hds c (List.mem_cons_of_mem d hc)
      have hes' := fun c hc => hes c (List.mem_cons_of_mem e hc)
      have hscale : ∀ {n : Nat}, n ≤ width → 10 ^ n * 10 ^ (width - n) = 10 ^ width := fun {n} hn => by
        rw [← Nat.pow_add, Nat.add_sub_cancel' hn]
      have hbelow : ∀ {cs : List Char}, (∀ c ∈ cs, isDigit c = true) → cs.length ≤ width →
          value 0 cs * 10 ^ (width - cs.length) < 10 ^ width := fun {cs} hcs hlength => by
        rw [← hscale hlength]
        exact Nat.mul_lt_mul_of_pos_right (value_lt hcs) (Nat.pow_pos (by decide))
      have hfirst := hbelow hds' hwidth
      have hsecond := hbelow hes' hwidth'
      simp only [value_cons hds, value_cons hes, List.length_cons, Nat.add_sub_add_right, Nat.add_mul, Nat.mul_assoc,
        hscale hwidth, hscale hwidth'] at h
      obtain ⟨hlow, -⟩ := toNat_of_isDigit (hds d List.mem_cons_self)
      obtain ⟨hlow', -⟩ := toNat_of_isDigit (hes e List.mem_cons_self)
      rw [List.cons_append, List.cons_append, List.cons_lt_cons_iff]
      -- the first digits decide, unless they are equal; a greater one in front cannot be made up for behind it
      rcases Nat.lt_trichotomy d.toNat e.toNat with hlt | heq | hgt
      · exact .inl hlt
      · have hshort' : ds.length < es.length → ∀ c cs, isDigit c = true → xs < c :: cs := fun hlength =>
          hshort (by simpa using hlength)
        refine .inr ⟨Char.toNat_inj.1 heq, ih width hds' hes' hwidth hwidth' hshort' ?_⟩
        rw [heq] at h
        omega
      · have hstep : (e.toNat - 48 + 1) * 10 ^ width ≤ (d.toNat - 48) * 10 ^ width :=
          Nat.mul_le_mul_right _ (by omega)
        rw [Nat.add_mul] at hstep
        omega

/-- Numerals of one width are in the order of their numbers, and equal ones in the order of what follows. -/
theorem padded_append_lt {width m n : Nat} {xs ys : List Char} (hwidth : 0 < width) (hm : m < 10 ^ width)
    (hn : n < 10 ^ width) (h : m < n ∨ m = n ∧ xs < ys) : padded width m ++ xs < padded width n ++ ys := by
  rcases h with hlt | ⟨rfl, hrest⟩
  · have hlength := length_padded hwidth hm
    have hlength' := length_padded hwidth hn
    refine append_lt_append width (fun _ => isDigit_of_mem_padded) (fun _ => isDigit_of_mem_padded)
      (Nat.le_of_eq hlength) (Nat.le_of_eq hlength') (fun hne => absurd hne (by omega)) ?_
    rw [value_padded, value_padded, hlength, hlength', Nat.sub_self]
    omega
  · exact List.append_left_lt hrest

end Numeral

/-! ### Fractions -/

/-- Fractions are in the order of their nanoseconds. -/
private theorem Time.renderFraction_append_lt {m n : Nat} (h : m < n) (hn : n < 1000000000) {xs ys : List Char} :
    renderFraction m ++ '+' :: xs < renderFraction n ++ '+' :: ys := by
  obtain ⟨rfl, -⟩ | ⟨width', k', hwidth', hnine', hk', hvalue', hsome'⟩ := renderFraction_cases hn
  · exact absurd h (Nat.not_lt_zero m)
  rw [hsome']
  obtain ⟨-, hnone⟩ | ⟨width, k, hwidth, hnine, hk, hvalue, hsome⟩ := renderFraction_cases (Nat.lt_trans h hn)
  · rw [hnone]
    exact List.cons_lt_cons_iff.2 (.inl (by decide))
  · have hlength := Numeral.length_padded hwidth hk
    have hlength' := Numeral.length_padded hwidth' hk'
    rw [hsome, List.cons_append, List.cons_append, List.cons_lt_cons_self]
    refine Numeral.append_lt_append 9 (fun _ => Numeral.isDigit_of_mem_padded)
      (fun _ => Numeral.isDigit_of_mem_padded) (by omega) (by omega) (fun _ c cs hc => ?_) ?_
    · have hplus : '+'.toNat < c.toNat := Nat.lt_of_lt_of_le (by decide) (Numeral.toNat_of_isDigit hc).1
      exact List.cons_lt_cons_iff.2 (.inl hplus)
    · rw [Numeral.value_padded, Numeral.value_padded, hlength, hlength', hvalue, hvalue']
      exact h

/-! ### Dates -/

namespace Date

/-- From the March of one year to the next one it is a day longer when the February between them is. -/
theorem daysBeforeYear_pred (year : Int) :
    daysBeforeYear (year - 1) + 337 + daysInMonth year 2 = daysBeforeYear year := by
  have hfebruary : daysInMonth year 2 = if isLeapYear year then 29 else 28 := rfl
  have hleap : isLeapYear year = true ↔ year % 4 = 0 ∧ (year % 100 ≠ 0 ∨ year % 400 = 0) := by
    simp [isLeapYear]
  rw [hfebruary]
  unfold daysBeforeYear
  split
  · next h =>
    rw [hleap] at h
    omega
  · next h =>
    rw [hleap] at h
    omega

/-- In a year a month is over before a later one begins. -/
theorem Valid.toDay_lt_of_month {d e : Date} (hd : d.Valid) (he : e.Valid) (hyear : d.year = e.year)
    (hmonth : d.month < e.month) : d.toDay < e.toDay := by
  obtain ⟨⟨hfirst, -⟩, -, hlast⟩ := hd.bounds
  obtain ⟨⟨-, htwelve⟩, hday, -⟩ := he.bounds
  have hlength := hd.2
  have hpred := daysBeforeYear_pred e.year
  unfold toDay yearFromMarch monthFromMarch daysBeforeMonth
  rw [hyear] at hlength ⊢
  -- the years of the count begin in March, so January and February belong to the year before
  rcases Nat.lt_or_ge 2 d.month with hmarch | hmarch
  · rw [if_neg (by omega), if_neg (by omega)]
    obtain ⟨m, hm⟩ : ∃ m, d.month = m + 3 := ⟨d.month - 3, by omega⟩
    obtain ⟨n, hn⟩ : ∃ n, e.month = n + 3 := ⟨e.month - 3, by omega⟩
    have hfrom : (m + 3 + 9) % 12 = m := by omega
    have hfrom' : (n + 3 + 9) % 12 = n := by omega
    have hle : (153 * (m + 1) + 2) / 5 ≤ (153 * n + 2) / 5 := Nat.div_le_div_right (by omega)
    rw [hm, daysInMonth_eq e.year (by omega)] at hlength
    rw [hm, hn, hfrom, hfrom']
    unfold daysBeforeMonth at hlength
    omega
  · rw [if_pos hmarch]
    split
    · obtain ⟨hm, hm'⟩ : d.month = 1 ∧ e.month = 2 := by omega
      rw [hm, hm']
      omega
    · obtain hm | hm : d.month = 1 ∨ d.month = 2 := by omega
      · have hshort : 28 ≤ daysInMonth e.year 2 := by
          show 28 ≤ if isLeapYear e.year then 29 else 28
          split <;> decide
        omega
      · rw [hm] at hlength ⊢
        omega

/-- Of two days the earlier one has the smaller year, or else the smaller month, or else the smaller day. -/
theorem Valid.lt_of_toDay_lt {d e : Date} (hd : d.Valid) (he : e.Valid) (h : d.toDay < e.toDay) :
    d.year < e.year ∨ d.year = e.year ∧ (d.month < e.month ∨ d.month = e.month ∧ d.day < e.day) := by
  rcases Int.lt_trichotomy d.year e.year with hlt | hyear | hgt
  · exact .inl hlt
  · refine .inr ⟨hyear, ?_⟩
    rcases Nat.lt_trichotomy d.month e.month with hlt | hmonth | hgt
    · exact .inl hlt
    · refine .inr ⟨hmonth, ?_⟩
      simp only [toDay, yearFromMarch, hyear, hmonth] at h
      omega
    · have hless := he.toDay_lt_of_month hd hyear.symm hgt
      omega
  · have hless := he.toDay_lt hgt
    have hmore := hd.le_toDay (Int.le_refl d.year)
    omega

end Date

/-! ### Stamps -/

namespace Instant

variable {t u : Instant}

/-- Of two instants of one day the earlier one has the smaller hour, or else the smaller minute, and so on. -/
private theorem clock_lt (hday : t.day = u.day) (h : t < u) {zone : List Char} :
    t.clock ('+' :: zone) < u.clock ('+' :: zone) := by
  have hsecond := t.second_cases
  have hsecond' := u.second_cases
  have hnanos := t.nanos_lt
  have hnanos' := u.nanos_lt
  have hlt := t.secondOfDay_lt
  have hlt' := u.secondOfDay_lt
  have horder : t.secondOfDay < u.secondOfDay ∨ t.secondOfDay = u.secondOfDay ∧ t.nanos < u.nanos := by
    rw [lt_iff] at h
    unfold day at hday
    unfold secondOfDay
    omega
  refine Numeral.padded_append_lt (by decide) (by omega) (by omega) ?_
  refine Classical.or_iff_not_imp_left.2 fun hhour => ⟨by omega, ?_⟩
  refine List.cons_lt_cons_self.2 (Numeral.padded_append_lt (by decide) (by omega) (by omega) ?_)
  refine Classical.or_iff_not_imp_left.2 fun hminute => ⟨by omega, ?_⟩
  refine List.cons_lt_cons_self.2 (Numeral.padded_append_lt (by decide) (by omega) (by omega) ?_)
  refine Classical.or_iff_not_imp_left.2 fun hsec => ⟨by omega, ?_⟩
  exact Time.renderFraction_append_lt (by omega) (by omega)

/-- An earlier instant of the years 0 to 9999 has a smaller text. -/
theorem toStored_lt_toStored (hfirst : 0 ≤ t.date.year) (hlast : t.date.year ≤ 9999) (hfirst' : 0 ≤ u.date.year)
    (hlast' : u.date.year ≤ 9999) (h : t < u) : t.toStored < u.toStored := by
  obtain ⟨⟨-, hmonth⟩, -, hday⟩ := t.date_bounds
  obtain ⟨⟨-, hmonth'⟩, -, hday'⟩ := u.date_bounds
  have hvalid : t.date.Valid := Date.valid_ofDay t.day
  have hvalid' : u.date.Valid := Date.valid_ofDay u.day
  have hdate : t.date.toDay = t.day := Date.toDay_ofDay t.day
  have hdate' : u.date.toDay = u.day := Date.toDay_ofDay u.day
  have hyear : Time.renderYear t.date.year = padded 4 t.date.year.toNat := if_pos ⟨hfirst, hlast⟩
  have hyear' : Time.renderYear u.date.year = padded 4 u.date.year.toNat := if_pos ⟨hfirst', hlast'⟩
  have horder : t.day < u.day ∨ t.day = u.day := by
    rw [lt_iff] at h
    unfold day
    omega
  have hless : t.written "+00:00".toList < u.written "+00:00".toList := by
    rw [written, written, hyear, hyear']
    rcases horder with hlt | heq
    · -- an earlier day comes first in the year, else in the month, else in the day of the month
      have hparts := hvalid.lt_of_toDay_lt hvalid' (by omega)
      refine Numeral.padded_append_lt (by decide) (by omega) (by omega) ?_
      refine Classical.or_iff_not_imp_left.2 fun hyears => ⟨by omega, ?_⟩
      refine List.cons_lt_cons_self.2 (Numeral.padded_append_lt (by decide) (by omega) (by omega) ?_)
      refine Classical.or_iff_not_imp_left.2 fun hmonths => ⟨by omega, ?_⟩
      exact List.cons_lt_cons_self.2 (Numeral.padded_append_lt (by decide) (by omega) (by omega) (.inl (by omega)))
    · -- on one day the dates are written alike, and the clock decides
      have hsame : t.date = u.date := congrArg Date.ofDay heq
      rw [hsame]
      refine List.append_left_lt (List.cons_lt_cons_self.2 (List.append_left_lt (List.cons_lt_cons_self.2 ?_)))
      exact List.append_left_lt (List.cons_lt_cons_self.2 (clock_lt heq h))
  rw [← toList_toStored_eq, ← toList_toStored_eq] at hless
  exact hless

end Instant

end WorkspaceSearch
