import WorkspaceSearch.Proofs.Time.JulianScale

/-!
# What the scale of Julian days holds

The text of an instant is read on the scale of Julian days exactly when the scale holds the instant: it is no leap
second, does not come before the start of the count and not after the year 9999, both ends rounded to milliseconds
(`JulianDay.isSome_ofText?_toStored`).  Where both are read, an instant of the years 0 to 9999 stands in its place among
all others (`JulianDay.ofText?_le_ofInstant`, `JulianDay.ofInstant_le_ofText?`).
-/

namespace WorkspaceSearch

-- the powers of the core library, whatever else is in scope
attribute [local instance (2000)] instPowNat Rat.instPowNat

open Numeral (padded isDigit takeSign readField readMark)

/-! ### Readers of other texts -/

/-- A numeral does not go on with a dash. -/
private theorem Scientific.ofChars?_dated {sign ds rest : List Char} (hsign : sign = [] ∨ sign = ['-'] ∨ sign = ['+'])
    (hds : ∀ c ∈ ds, isDigit c = true) (hne : ds ≠ []) : ofChars? (sign ++ (ds ++ '-' :: rest)) = none := by
  have hhead : ∀ c ∈ ds.head?, Chars.isAsciiBlank c = false ∧ c ≠ '-' ∧ c ≠ '+' := by
    intro c hc
    have hdigit := hds c (List.mem_of_mem_head? hc)
    obtain ⟨hlow, hhigh⟩ := Numeral.toNat_of_isDigit hdigit
    have hminus : c ≠ '-' := by rintro rfl; cases hdigit
    have hplus : c ≠ '+' := by rintro rfl; cases hdigit
    refine ⟨?_, hminus, hplus⟩
    have hspace : c ≠ ' ' := by rintro rfl; cases hdigit
    simp [Chars.isAsciiBlank, hspace]
    omega
  have hblank : (sign ++ (ds ++ '-' :: rest)).dropWhile Chars.isAsciiBlank = sign ++ (ds ++ '-' :: rest) := by
    rcases hsign with rfl | rfl | rfl
    · cases ds with
      | nil => exact absurd rfl hne
      | cons c ds => exact List.dropWhile_cons_of_neg (by rw [(hhead c rfl).1]; exact Bool.false_ne_true)
    · rfl
    · rfl
  obtain ⟨negative, htake⟩ : ∃ negative, takeSign (sign ++ (ds ++ '-' :: rest)) = (negative, ds ++ '-' :: rest) := by
    rcases hsign with rfl | rfl | rfl
    · cases ds with
      | nil => exact absurd rfl hne
      | cons c ds =>
        obtain ⟨-, hminus, hplus⟩ := hhead c rfl
        refine ⟨false, ?_⟩
        rw [List.nil_append, List.cons_append, takeSign]
        · exact fun rest' heq => hminus (List.cons.inj heq).1
        · exact fun rest' heq => hplus (List.cons.inj heq).1
    · exact ⟨true, rfl⟩
    · exact ⟨false, rfl⟩
  have hwhole : (ds ++ '-' :: rest).takeWhile isDigit = ds := by
    rw [List.takeWhile_append_of_pos hds, List.takeWhile_cons_of_neg (by decide), List.append_nil]
  have hexponent : takeExponent ('-' :: rest) = some (none, '-' :: rest) := rfl
  have hfraction : takeFraction ('-' :: rest) = (none, '-' :: rest) := rfl
  -- what is left behind the digits begins with a dash, and only blanks may be left
  have hdash : ('-' :: rest).all Chars.isAsciiBlank = false := by
    rw [List.all_cons]
    rfl
  simp only [ofChars?, hblank, htake, hwhole, List.drop_left, hfraction, hexponent, Option.bind_eq_bind,
    Option.bind_some, hdash, Bool.not_false, or_true, if_true]

namespace JulianDay

variable {t : Instant}

private theorem readMark_of_ne {c : Char} {cs : List Char} (h : ∀ d ∈ cs.head?, d ≠ c) : readMark c cs = none := by
  cases cs with
  | nil => rfl
  | cons d cs => exact if_neg (h d rfl)

private theorem readField_rest {width least most n : Nat} {cs rest : List Char}
    (h : readField width least most cs = some (n, rest)) : rest = cs.drop width := by
  unfold readField at h
  simp only at h
  split at h
  · exact (Prod.mk.inj (Option.some.inj h)).2.symm
  · cases h

/-- A time of day has a colon behind its first two digits. -/
private theorem readTime_of_ne {cs : List Char} (h : ∀ c ∈ (cs.drop 2).head?, c ≠ ':') : readTime cs = none := by
  unfold readTime
  cases hread : readField 2 0 24 cs with
  | none => rfl
  | some read =>
    obtain ⟨n, rest⟩ := read
    obtain rfl := readField_rest hread
    simp only [Option.bind_eq_bind, Option.bind_some, readMark_of_ne h, Option.bind_none]

private theorem readPresent_of_mem {cs : List Char} (h : '-' ∈ cs) : readPresent cs = none := by
  have hdash : '-' ∈ (Text.asciiLower (.ofList cs)).toList := by
    rw [Text.asciiLower, String.toList_ofList, String.toList_ofList]
    exact List.mem_map.2 ⟨'-', h, rfl⟩
  have hnone : ∀ word ∈ presentWords, '-' ∉ word.toList := by decide
  rw [readPresent, if_neg]
  exact fun hword => hnone _ (List.contains_iff_mem.1 hword) hdash

/-- A text that starts with a year and a dash is read as a date or not at all. -/
private theorem ofText?_dated {sign ds rest : List Char} (hsign : sign = [] ∨ sign = ['-'] ∨ sign = ['+'])
    (hds : ∀ c ∈ ds, isDigit c = true) (hlength : 3 ≤ ds.length) {text : String}
    (htext : text.toList = sign ++ (ds ++ '-' :: rest)) (hnul : '\x00' ∉ text.toList) :
    ofText? text = readDate text.toList := by
  have hthird : ∀ c ∈ (text.toList.drop 2).head?, c ≠ ':' := by
    intro c hc
    have hdigit : isDigit c = true := by
      obtain ⟨a, b, d, ds, rfl⟩ : ∃ a b d ds', ds = a :: b :: d :: ds' := by
        match ds, hlength with
        | a :: b :: d :: ds, _ => exact ⟨a, b, d, ds, rfl⟩
      rw [htext] at hc
      rcases hsign with rfl | rfl | rfl <;> obtain rfl := Option.some.inj hc <;> exact hds _ (by simp)
    rintro rfl
    cases hdigit
  have halone : readTimeAlone text.toList = none := by rw [readTimeAlone, readTime_of_ne hthird, Option.bind_none]
  have hpresent : readPresent text.toList = none := readPresent_of_mem (by rw [htext]; simp)
  have hnumber : Scientific.ofChars? text.toList = none := by
    rw [htext]
    exact Scientific.ofChars?_dated hsign hds (by rintro rfl; simp at hlength)
  rw [ofText?, Chars.beforeNul_of_not_mem hnul, halone, hpresent, hnumber]
  cases readDate text.toList <;> rfl

/-! ### Reading any instant -/

private theorem nul_not_mem_toStored (t : Instant) : '\x00' ∉ t.toStored.toList := by
  obtain ⟨sign, hsign, hyear⟩ := Time.renderYear_eq t.date.year
  have hsign' : '\x00' ∉ sign := by rcases hsign with rfl | rfl | rfl <;> decide
  rw [Instant.toList_toStored_eq, Instant.written, hyear]
  simp [Instant.clock, nul_not_mem_padded, nul_not_mem_renderFraction, hsign']

private theorem ofText?_eq_readDate (t : Instant) : ofText? t.toStored = readDate t.toStored.toList := by
  obtain ⟨sign, hsign, hyear⟩ := Time.renderYear_eq t.date.year
  have htext := t.toList_toStored_eq
  rw [Instant.written, hyear, List.append_assoc] at htext
  exact ofText?_dated hsign (fun c hc => Numeral.isDigit_of_mem_padded hc)
    (Nat.le_trans (by decide) (Numeral.le_length_padded 4 t.date.year.natAbs)) htext (nul_not_mem_toStored t)

private theorem readTime_clock (h : t.nanos < 1000000000) :
    readTime (t.clock "+00:00".toList) = some (ofInstant t - (t.day * dayMillis + unixEpoch)) := by
  have hread := readTime_stamp h (.inl rfl : IsZone "+00:00".toList)
  have hleap : t.nanos / 1000000000 = 0 := Nat.div_eq_of_lt h
  rw [Instant.clock, Instant.second, hleap, Nat.add_zero, Nat.mod_eq_of_lt h]
  exact hread

/-- There is no sixtieth second on the scale. -/
private theorem readTime_clock_leap (h : 1000000000 ≤ t.nanos) : readTime (t.clock "+00:00".toList) = none := by
  have hseconds := t.secondOfDay_lt
  have hlast : t.second = 60 := by
    rcases t.second_cases with ⟨hnoLeap, -, -⟩ | ⟨-, hlast, -⟩
    · omega
    · exact hlast
  have hsixty : ∀ rest, readSeconds (':' :: (padded 2 60 ++ rest)) = none := fun rest => rfl
  simp (disch := omega) only [Instant.clock, readTime, readField_two, readMark_cons, hlast, hsixty,
    Option.bind_eq_bind, Option.bind_some, Option.bind_none]

/-- The millisecond of an instant, with the days as the scale counts them. -/
private def placeOf (t : Instant) : Int :=
  ofDate t.date.year t.date.month t.date.day + (ofInstant t - (t.day * dayMillis + unixEpoch))

private theorem readDate_of_year (h : -9999 ≤ t.date.year) (h' : t.date.year ≤ 9999) :
    readDate t.toStored.toList =
      (readTime (t.clock "+00:00".toList)).bind fun time =>
        if -4713 ≤ t.date.year then inRange (ofDate t.date.year t.date.month t.date.day + time) else none := by
  obtain ⟨hmonth, hday⟩ := t.date_bounds
  have hread := fun negative => readDate_signed negative (by omega : t.date.year.natAbs < 10000) hmonth hday (.inl rfl)
    (t.exists_clock "+00:00".toList)
  rw [Instant.toList_toStored_eq, Instant.written, Time.renderYear]
  by_cases hyear : 0 ≤ t.date.year
  · have hcast : ((t.date.year.natAbs : Nat) : Int) = t.date.year := by omega
    have hnat : t.date.year.toNat = t.date.year.natAbs := by omega
    have hplain := hread false
    simp only [Bool.false_eq_true, if_false, hcast, List.nil_append] at hplain
    rw [if_pos ⟨hyear, h'⟩, hnat]
    exact hplain
  · have hcast : -((t.date.year.natAbs : Nat) : Int) = t.date.year := by omega
    have hsigned := hread true
    simp only [if_true, hcast] at hsigned
    rw [if_neg (fun hin => hyear hin.1), if_pos (by omega)]
    exact hsigned

private theorem readDate_plus (cs : List Char) : readDate ('+' :: cs) = none := by
  have hplus : readField 4 0 9999 ('+' :: cs) = none := by
    have hdigits : ('+' :: cs).take 4 = '+' :: cs.take 3 := rfl
    simp only [readField, hdigits, List.all_cons]
    rw [if_neg (fun hall => by cases (Bool.and_eq_true_iff.1 hall.2.1).1)]
  show (readField 4 0 9999 ('+' :: cs)).bind _ = none
  rw [hplus]
  rfl

/-- A year has no more than four digits. -/
private theorem readDate_minus {ds : List Char} (hds : ∀ c ∈ ds, isDigit c = true) (hlong : 5 ≤ ds.length)
    (rest : List Char) : readDate ('-' :: (ds ++ rest)) = none := by
  obtain ⟨a, b, c, d, e, ds, rfl⟩ : ∃ a b c d e ds', ds = a :: b :: c :: d :: e :: ds' := by
    match ds, hlong with
    | a :: b :: c :: d :: e :: ds, _ => exact ⟨a, b, c, d, e, ds, rfl⟩
  have hmark : readMark '-' (e :: (ds ++ rest)) = none := readMark_of_ne fun f hf => by
    obtain rfl := Option.some.inj hf
    have he := hds e (by simp)
    rintro rfl
    cases he
  show (readField 4 0 9999 (a :: b :: c :: d :: e :: (ds ++ rest))).bind _ = none
  cases hread : readField 4 0 9999 (a :: b :: c :: d :: e :: (ds ++ rest)) with
  | none => rfl
  | some read =>
    obtain ⟨n, left⟩ := read
    obtain rfl : left = e :: (ds ++ rest) := readField_rest hread
    show (readMark '-' (e :: (ds ++ rest))).bind _ = none
    rw [hmark]
    rfl

private theorem readDate_of_far (h : t.date.year < -9999 ∨ 9999 < t.date.year) :
    readDate t.toStored.toList = none := by
  rw [Instant.toList_toStored_eq, Instant.written, Time.renderYear, if_neg (by omega), List.cons_append]
  rcases h with h | h
  · have hlong : 5 ≤ (padded 4 t.date.year.natAbs).length := by
      have hdigits : ¬(Numeral.digits t.date.year.natAbs).length ≤ 4 :=
        mt (Nat.length_toDigits_le_iff (by decide) (by decide)).1 (by omega)
      rw [padded, List.length_append]
      omega
    rw [if_pos (by omega)]
    exact readDate_minus (fun c hc => Numeral.isDigit_of_mem_padded hc) hlong _
  · rw [if_neg (by omega)]
    exact readDate_plus _

/-- How the text of an instant is read on the scale. -/
private theorem ofText?_toStored_eq (t : Instant) :
    ofText? t.toStored =
      if -4713 ≤ t.date.year ∧ t.date.year ≤ 9999 ∧ t.nanos < 1000000000 then inRange (placeOf t) else none := by
  rw [ofText?_eq_readDate]
  by_cases hyear : -9999 ≤ t.date.year ∧ t.date.year ≤ 9999
  · rw [readDate_of_year hyear.1 hyear.2]
    by_cases hleap : t.nanos < 1000000000
    · rw [readTime_clock hleap, Option.bind_some]
      by_cases hfirst : -4713 ≤ t.date.year
      · rw [if_pos hfirst, if_pos ⟨hfirst, hyear.2, hleap⟩]
        rfl
      · rw [if_neg hfirst, if_neg fun h => hfirst h.1]
    · rw [readTime_clock_leap (by omega), if_neg fun h => hleap h.2.2]
      rfl
  · rw [readDate_of_far (by omega), if_neg (by omega)]

end JulianDay

/-! ### The instants of the scale -/

namespace Instant

/-- The first second of the count of Julian days, noon of 24 November -4713. -/
def firstSecond : Int := -210866760000

/-- The scale of Julian days holds an instant: it is no leap second, and rounded to milliseconds it is neither before
the start of the count nor after the year 9999. -/
structure OnScale (t : Instant) : Prop where
  noLeap : t.nanos < 1000000000
  first : firstSecond ≤ t.seconds ∨ t.seconds = firstSecond - 1 ∧ lastNanos ≤ t.nanos
  last : t.seconds < lastSecond ∨ t.seconds = lastSecond ∧ t.nanos < lastNanos

instance (t : Instant) : Decidable t.OnScale :=
  decidable_of_iff
    (t.nanos < 1000000000 ∧ (firstSecond ≤ t.seconds ∨ t.seconds = firstSecond - 1 ∧ lastNanos ≤ t.nanos) ∧
      (t.seconds < lastSecond ∨ t.seconds = lastSecond ∧ t.nanos < lastNanos))
    ⟨fun h => ⟨h.1, h.2.1, h.2.2⟩, fun h => ⟨h.noLeap, h.first, h.last⟩⟩

theorem Regular.storable_iff {t : Instant} (h : t.Regular) : t.Storable ↔ t.OnScale := by
  obtain ⟨hfirst, hlast⟩ := h.seconds_bounds
  constructor
  · intro hs
    refine ⟨h.noLeap, .inl ?_, (Int.lt_or_eq_of_le hlast).imp id fun heq => ⟨heq, hs.notLast heq⟩⟩
    unfold firstSecond
    omega
  · intro hs
    refine ⟨h, fun heq => ?_⟩
    rcases hs.last with hlt | ⟨-, hnanos⟩
    · omega
    · exact hnanos

end Instant

namespace JulianDay

variable {t : Instant}

/-- The seconds of the years around the two ends of the scale. -/
private theorem seconds_of_year (t : Instant) :
    (t.date.year ≤ 9999 ↔ t.seconds ≤ Instant.lastSecond) ∧
      (t.date.year < -4713 → t.seconds < Instant.firstSecond - 1) ∧
      (-4713 < t.date.year → Instant.firstSecond ≤ t.seconds) := by
  have hvalid : t.date.Valid := Date.valid_ofDay t.day
  have hday : t.date.toDay = t.seconds / 86400 := Date.toDay_ofDay t.day
  have hend : Date.daysBeforeYear (10000 - 1) + 306 = 2932897 := by decide
  have hstart : Date.daysBeforeYear (-4713 - 1) + 306 = -2440915 := by decide
  have hnext : Date.daysBeforeYear (-4712 - 1) + 306 = -2440550 := by decide
  unfold Instant.lastSecond Instant.firstSecond
  refine ⟨⟨fun h => ?_, fun h => ?_⟩, fun h => ?_, fun h => ?_⟩
  · have hlt := hvalid.toDay_lt (by omega : t.date.year < 10000)
    omega
  · by_contra hyear
    have hle := hvalid.le_toDay (by omega : 10000 ≤ t.date.year)
    omega
  · have hlt := hvalid.toDay_lt h
    omega
  · have hle := hvalid.le_toDay (by omega : -4712 ≤ t.date.year)
    omega

private theorem placeOf_bounds (t : Instant) :
    ofInstant t ≤ placeOf t ∧ placeOf t ≤ ofInstant t + dayMillis ∧
      (0 ≤ t.date.yearFromMarch ∨ t.date.yearFromMarch % 100 ≠ 0 → placeOf t = ofInstant t) := by
  have hday : t.date.toDay = t.day := Date.toDay_ofDay t.day
  obtain ⟨hlow, hhigh, heq⟩ := ofDate_bounds t.date_bounds.1
  rw [hday] at hlow hhigh heq
  unfold placeOf dayMillis at *
  omega

private theorem ofInstant_nonneg_iff (h : t.nanos < 1000000000) :
    0 ≤ ofInstant t ↔
      Instant.firstSecond ≤ t.seconds ∨ t.seconds = Instant.firstSecond - 1 ∧ Instant.lastNanos ≤ t.nanos := by
  have hge := le_ofInstant t
  have hle := ofInstant_le h
  unfold unixEpoch Instant.firstSecond at *
  rcases Int.lt_trichotomy t.seconds (-210866760000 - 1) with hlt | heq | hgt
  · omega
  · have hplace := ofInstant_of_last (t := t) (by omega)
    have hmillis := millisOf_last_lt_iff t.nanos
    unfold unixEpoch at hplace
    omega
  · omega

/-- The text of an instant is read on the scale exactly when the scale holds the instant. -/
theorem isSome_ofText?_toStored (t : Instant) : (ofText? t.toStored).isSome = true ↔ t.OnScale := by
  obtain ⟨hlast, hbefore, hbehind⟩ := seconds_of_year t
  obtain ⟨hlow, hhigh, heq⟩ := placeOf_bounds t
  rw [ofText?_toStored_eq]
  split
  · next hread =>
    obtain ⟨hyear, hyear', hnanos⟩ := hread
    have hle := ofInstant_le hnanos
    have hstart := ofInstant_nonneg_iff hnanos
    have hend := ofInstant_le_last_iff hnanos
    -- only in some centuries before the year zero the scale is a day ahead
    have hplace : placeOf t = ofInstant t ∨ -4713 < t.date.year ∧ t.date.year < 0 := by
      by_cases hmarch : 0 ≤ t.date.yearFromMarch ∨ t.date.yearFromMarch % 100 ≠ 0
      · exact .inl (heq hmarch)
      · right
        unfold Date.yearFromMarch at hmarch
        split at hmarch <;> omega
    have hrange : (inRange (placeOf t)).isSome = true ↔ 0 ≤ placeOf t ∧ placeOf t ≤ last := by
      unfold inRange
      split <;> simp_all
    rw [hrange]
    rcases hplace with hsame | ⟨hfirst, hzero⟩
    · rw [hsame, hstart, hend]
      exact ⟨fun h => ⟨hnanos, h.1, h.2⟩, fun h => ⟨h.first, h.last⟩⟩
    · have hseconds : t.seconds < -62167219200 := by
        have hlt := (Date.valid_ofDay t.day).toDay_lt hzero
        have hday : (Date.ofDay t.day).toDay = t.seconds / 86400 := Date.toDay_ofDay t.day
        have hzeroDay : Date.daysBeforeYear (0 - 1) + 306 = -719528 := by decide
        omega
      have hfirst := hbehind hfirst
      refine iff_of_true ⟨?_, ?_⟩ ⟨hnanos, .inl hfirst, .inl ?_⟩
      · exact Int.le_trans (hstart.2 (.inl hfirst)) hlow
      · unfold dayMillis last unixEpoch at *
        omega
      · unfold Instant.lastSecond
        omega
  · next hread =>
    refine iff_of_false Bool.false_ne_true fun h => hread ⟨?_, hlast.2 ?_, h.noLeap⟩
    · by_contra hyear
      have hseconds := hbefore (by omega)
      rcases h.first with hfirst | ⟨hfirst, -⟩ <;> omega
    · rcases h.last with hlt | ⟨heq, -⟩ <;> omega

/-- What is read of an instant that comes no later than a stored one stands no later. -/
theorem ofText?_le_ofInstant {bound : Instant} {place : Int} (hplace : ofText? bound.toStored = some place)
    (ht : t.Storable) (h : bound ≤ t) : place ≤ ofInstant t := by
  rw [ofText?_toStored_eq] at hplace
  split at hplace
  · next hread =>
    obtain rfl : placeOf bound = place := by
      unfold inRange at hplace
      split at hplace
      · exact Option.some.inj hplace
      · cases hplace
    obtain ⟨-, hhigh, heq⟩ := placeOf_bounds bound
    by_cases hmarch : 0 ≤ bound.date.yearFromMarch ∨ bound.date.yearFromMarch % 100 ≠ 0
    · rw [heq hmarch]
      exact ofInstant_mono hread.2.2 h
    · -- a century or more lies between the bound and the year zero
      have hyear : bound.date.year < -98 := by
        unfold Date.yearFromMarch at hmarch
        split at hmarch <;> omega
      have hlt := (Date.valid_ofDay bound.day).toDay_lt hyear
      have hday : (Date.ofDay bound.day).toDay = bound.seconds / 86400 := Date.toDay_ofDay bound.day
      have hcentury : Date.daysBeforeYear (-98 - 1) + 306 = -755322 := by decide
      have hfirst := ht.toRegular.seconds_bounds.1
      have hle := ofInstant_le hread.2.2
      have hge := le_ofInstant t
      unfold dayMillis at hhigh
      omega
  · cases hplace

/-- What is read of an instant that comes no earlier than a stored one stands no earlier. -/
theorem ofInstant_le_ofText? {bound : Instant} {place : Int} (hplace : ofText? bound.toStored = some place)
    (ht : t.Storable) (h : t ≤ bound) : ofInstant t ≤ place := by
  rw [ofText?_toStored_eq] at hplace
  split at hplace
  · unfold inRange at hplace
    split at hplace
    · obtain rfl := Option.some.inj hplace
      exact Int.le_trans (ofInstant_mono ht.noLeap h) (placeOf_bounds bound).1
    · cases hplace
  · cases hplace

end JulianDay

/-! ### Timestamps within bounds -/

/-- A column holds the timestamp of an instant of the years 0 to 9999, which may be a leap second: as it is bound to a
statement, or as the table fills it in. -/
structure Scalar.Dates (s : Scalar) (t : Instant) : Prop where
  year_nonneg : 0 ≤ t.date.year
  year_le : t.date.year ≤ 9999
  written : s = .text t.toStored ∨ s = .text t.toDefaultStamp ∧ t.nanos = 0

theorem Scalar.Stamps.dates {s : Scalar} {t : Instant} (h : s.Stamps t) : s.Dates t :=
  ⟨h.1.year_nonneg, h.1.year_le, h.2⟩

namespace Scalar.Dates

variable {s : Scalar} {t bound : Instant} (h : s.Dates t)

include h

private theorem stamps (hleap : t.nanos < 1000000000) : s.Stamps t := ⟨⟨h.year_nonneg, h.year_le, hleap⟩, h.written⟩

theorem toStored : (Scalar.text t.toStored).Dates t := ⟨h.year_nonneg, h.year_le, .inl rfl⟩

theorem instant?_eq : s.instant? = some t := by
  rcases h.written with rfl | ⟨-, hnanos⟩
  · exact Instant.ofStored?_toStored t
  · exact (h.stamps (by omega)).instant?_eq

/-- Bounds see of a timestamp only the instant that it is for. -/
theorem julianDay?_eq : s.julianDay? = (Scalar.text t.toStored).julianDay? := by
  rcases h.written with rfl | ⟨-, hnanos⟩
  · rfl
  · have hstamps := h.stamps (by omega)
    exact hstamps.julianDay?_congr ⟨hstamps.1, .inl rfl⟩

private theorem isSome_julianDay? : s.julianDay?.isSome = true ↔ t.OnScale := by
  rw [h.julianDay?_eq]
  exact JulianDay.isSome_ofText?_toStored t

/-- A timestamp that the scale holds stands at the place of its instant. -/
private theorem place_eq {place : Int} (hplace : s.julianDay? = some place) :
    t.Storable ∧ place = JulianDay.ofInstant t := by
  have hscale := (isSome_julianDay? h).1 (by rw [hplace]; rfl)
  have hstamps := h.stamps hscale.noLeap
  have ht := hstamps.1.storable_iff.2 hscale
  exact ⟨ht, Option.some.inj (hplace.symm.trans (hstamps.julianDay?_eq ht))⟩

/-- A timestamp that is not before a bound is let through exactly when the scale holds both. -/
private theorem notBefore_iff (hle : bound ≤ t) : Database.notBefore bound s = true ↔ bound.OnScale ∧ t.OnScale := by
  refine Iff.trans ?_ (and_congr (JulianDay.isSome_ofText?_toStored bound) (isSome_julianDay? h))
  unfold Database.notBefore
  split
  · next place stored hplace hstored =>
    rw [hplace, hstored]
    refine iff_of_true (decide_eq_true ?_) ⟨rfl, rfl⟩
    obtain ⟨ht, rfl⟩ := h.place_eq hstored
    exact JulianDay.ofText?_le_ofInstant hplace ht hle
  · next hnone =>
    refine iff_of_false Bool.false_ne_true fun ⟨hplace, hstored⟩ => ?_
    obtain ⟨place, hplace⟩ := Option.isSome_iff_exists.1 hplace
    obtain ⟨stored, hstored⟩ := Option.isSome_iff_exists.1 hstored
    exact hnone place stored hplace hstored

/-- A timestamp that is not after a bound is let through exactly when the scale holds both. -/
private theorem notAfter_iff (hle : t ≤ bound) : Database.notAfter bound s = true ↔ bound.OnScale ∧ t.OnScale := by
  refine Iff.trans ?_ (and_congr (JulianDay.isSome_ofText?_toStored bound) (isSome_julianDay? h))
  unfold Database.notAfter
  split
  · next place stored hplace hstored =>
    rw [hplace, hstored]
    refine iff_of_true (decide_eq_true ?_) ⟨rfl, rfl⟩
    obtain ⟨ht, rfl⟩ := h.place_eq hstored
    exact JulianDay.ofInstant_le_ofText? hplace ht hle
  · next hnone =>
    refine iff_of_false Bool.false_ne_true fun ⟨hplace, hstored⟩ => ?_
    obtain ⟨place, hplace⟩ := Option.isSome_iff_exists.1 hplace
    obtain ⟨stored, hstored⟩ := Option.isSome_iff_exists.1 hstored
    exact hnone place stored hplace hstored

/-- A timestamp within bounds is let through exactly when the scale holds it and its bounds. -/
theorem isWithin_iff {after before : Option Instant} (hafter : ∀ bound ∈ after, bound ≤ t)
    (hbefore : ∀ bound ∈ before, t ≤ bound) :
    Database.isWithin after before s = true ↔ ∀ bound, bound ∈ after ∨ bound ∈ before → bound.OnScale ∧ t.OnScale := by
  rw [Database.isWithin, Bool.and_eq_true, Option.all_eq_true, Option.all_eq_true]
  constructor
  · rintro ⟨hfirst, hlast⟩ bound (hbound | hbound)
    · exact (h.notBefore_iff (hafter bound hbound)).1 (hfirst bound hbound)
    · exact (h.notAfter_iff (hbefore bound hbound)).1 (hlast bound hbound)
  · intro hscale
    exact ⟨fun bound hbound => (h.notBefore_iff (hafter bound hbound)).2 (hscale bound (.inl hbound)),
      fun bound hbound => (h.notAfter_iff (hbefore bound hbound)).2 (hscale bound (.inr hbound))⟩

end Scalar.Dates

end WorkspaceSearch
