import Mathlib.Algebra.Order.Field.Basic
import WorkspaceSearch.Database.Lookup
import WorkspaceSearch.Proofs.Time.Text

/-!
# The scale of Julian days

On the scale of Julian days an instant stands at its day, hour and minute and the milliseconds of its second
(`JulianDay.ofInstant`), which keeps the order of instants (`JulianDay.ofInstant_mono`).  A stamp is read as the place
of its instant, up to the last half millisecond of the year 9999, which rounds into the year 10000
(`JulianDay.ofText?_toStored`, `JulianDay.ofText?_toDefaultStamp`).
-/

namespace WorkspaceSearch

-- the powers of the core library, whatever else is in scope
attribute [local instance (2000)] instPowNat Rat.instPowNat

open Numeral (padded readField readMark readField_padded)

namespace JulianDay

/-! ### Dates -/

/-- The start of 1970 on the scale of Julian days, in milliseconds. -/
def unixEpoch : Int := 210866760000000

/-- The count takes centuries towards the year zero, so it is a day ahead of the calendar in some centuries before
it. -/
private theorem julianYears (y : Int) :
    let days := 36525 * (y + 4716) / 100 + (2 - y.tdiv 100 + (y.tdiv 100).tdiv 4)
    Date.daysBeforeYear y + 2441989 ≤ days ∧ days ≤ Date.daysBeforeYear y + 2441990 ∧
      (0 ≤ y ∨ y % 100 ≠ 0 → days = Date.daysBeforeYear y + 2441989) := by
  have hjulian : 36525 * (y + 4716) / 100 = 365 * y + y / 4 + 1722519 := by omega
  unfold Date.daysBeforeYear
  rw [hjulian]
  rcases Int.le_total 0 y with hy | hy
  · rw [Int.tdiv_eq_ediv_of_nonneg (by omega), Int.tdiv_eq_ediv_of_nonneg (by omega)]
    omega
  · obtain ⟨z, rfl⟩ : ∃ z, y = -z := ⟨-y, by omega⟩
    rw [Int.neg_tdiv, Int.neg_tdiv, Int.tdiv_eq_ediv_of_nonneg (by omega), Int.tdiv_eq_ediv_of_nonneg (by omega)]
    omega

/-- The days of the scale are those of the calendar, or one more. -/
theorem ofDate_bounds {d : Date} (hmonth : 1 ≤ d.month ∧ d.month ≤ 12) :
    d.toDay * dayMillis + unixEpoch ≤ ofDate d.year d.month d.day ∧
      ofDate d.year d.month d.day ≤ (d.toDay + 1) * dayMillis + unixEpoch ∧
      (0 ≤ d.yearFromMarch ∨ d.yearFromMarch % 100 ≠ 0 →
        ofDate d.year d.month d.day = d.toDay * dayMillis + unixEpoch) := by
  have hmonths : 306001 * (((if d.month ≤ 2 then d.month + 12 else d.month : Nat) : Int) + 1) / 10000 =
      Date.daysBeforeMonth (Date.monthFromMarch d.month) + 122 := by
    unfold Date.daysBeforeMonth Date.monthFromMarch
    split <;> omega
  obtain ⟨hlow, hhigh, heq⟩ := julianYears d.yearFromMarch
  unfold Date.toDay unixEpoch dayMillis
  unfold Date.yearFromMarch at *
  by_cases hfirst : d.month ≤ 2
  · simp only [ofDate, dayMillis, if_pos hfirst] at hlow hhigh heq hmonths ⊢
    push_cast at hmonths
    omega
  · simp only [ofDate, dayMillis, if_neg hfirst] at hlow hhigh heq hmonths ⊢
    omega

/-- From the year zero on, the days of the scale are those of the calendar. -/
private theorem ofDate_eq {d : Date} (hyear : 0 ≤ d.year) (hmonth : 1 ≤ d.month ∧ d.month ≤ 12) :
    ofDate d.year d.month d.day = d.toDay * dayMillis + unixEpoch := by
  refine (ofDate_bounds hmonth).2.2 ?_
  unfold Date.yearFromMarch
  split <;> omega

/-! ### Reading the time of day -/

theorem readMark_cons (c : Char) (rest : List Char) : readMark c (c :: rest) = some rest := if_pos rfl

/-- Seconds and a fraction are read as the milliseconds of both. -/
private theorem readSeconds_renderFraction {second n : Nat} (hsecond : second < 60) (hn : n < 1000000000)
    {rest : List Char} (hrest : ∀ c ∈ rest.head?, Numeral.isDigit c = false ∧ c ≠ '.') :
    readSeconds (':' :: (padded 2 second ++ (Time.renderFraction n ++ rest))) =
      some (millisOf second (n / 1000000000), rest) := by
  have hread := readField_padded (by decide : 0 < 2) (by omega : second < 10 ^ 2) (Nat.zero_le second)
    (by omega : second ≤ 59) (Time.renderFraction n ++ rest)
  simp only [readSeconds, hread, Option.bind_eq_bind, Option.bind_some]
  obtain ⟨rfl, hnone⟩ | ⟨width, k, hwidth, hnine, hk, rfl, hsome⟩ := Time.renderFraction_cases hn
  · have hwhole : millisOf second ((0 : Nat) / 1000000000) = ((second * 1000 : Nat) : Int) := by
      have hmillis := millisOf_natCast (by omega : second + 0 < 2 ^ 40)
      simpa using hmillis
    rw [hnone, hwhole, List.nil_append]
    split
    · next after => exact absurd rfl (hrest '.' rfl).2
    · rfl
  · have hlength := Numeral.length_padded hwidth hk
    have hne := Numeral.padded_ne_nil hwidth hk
    have hfraction : roundMillis second (padded width k) =
        millisOf second ((k * 10 ^ (9 - width) : Nat) / 1000000000) := by
      have hunits : 10 ^ width * 10 ^ (9 - width) = 1000000000 := by
        rw [← Nat.pow_add, Nat.add_sub_cancel' hnine]
      -- the zeros that are left out at the end change the fraction's digits and not its value
      have hquotient : ((k * 10 ^ (9 - width) : Nat) : Rat) / 1000000000 = k / (10 ^ width : Nat) := by
        have hcast : ((10 ^ width : Nat) : Rat) * (10 ^ (9 - width) : Nat) = 1000000000 := by exact_mod_cast hunits
        have hne : ((10 ^ width : Nat) : Rat) ≠ 0 := by positivity
        rw [div_eq_div_iff (by norm_num) hne, ← hcast]
        push_cast
        linarith
      rw [roundMillis_eq (fun c hc => Numeral.isDigit_of_mem_padded hc) (by omega), Numeral.value_padded, hlength,
        hquotient]
    rw [hsome, List.cons_append]
    simp only [Time.takeWhile_padded fun c hc => (hrest c hc).1, if_neg hne, List.drop_left, hfraction]

/-! ### Reading stamps -/

variable {t : Instant}

/-- The place of an instant on the scale of Julian days, in milliseconds. -/
def ofInstant (t : Instant) : Int :=
  t.seconds / 60 * 60000 + millisOf (t.secondOfDay % 60) (t.nanos / 1000000000) + unixEpoch

/-- What follows the fraction of a stamp: the offset of universal time, or nothing. -/
def IsZone (zone : List Char) : Prop := zone = "+00:00".toList ∨ zone = []

private theorem head_of_isZone {zone : List Char} (hzone : IsZone zone) :
    ∀ c ∈ zone.head?, Numeral.isDigit c = false ∧ c ≠ '.' := by
  rcases hzone with rfl | rfl
  · exact Time.head?_of_cons (by decide) _
  · exact nofun

private theorem readZone_of_isZone {zone : List Char} (hzone : IsZone zone) : readZone zone = some 0 := by
  rcases hzone with rfl | rfl <;> decide

theorem readField_two {least most n : Nat} (hleast : least ≤ n) (hmost : n ≤ most) (hn : n < 100)
    (rest : List Char) : readField 2 least most (padded 2 n ++ rest) = some (n, rest) :=
  readField_padded (by decide) hn hleast hmost rest

theorem readTime_stamp (h : t.nanos < 1000000000) {zone : List Char} (hzone : IsZone zone) :
    readTime (padded 2 (t.secondOfDay / 3600) ++ (':' :: (padded 2 (t.secondOfDay / 60 % 60) ++ (':' ::
      (padded 2 (t.secondOfDay % 60) ++ (Time.renderFraction t.nanos ++ zone)))))) =
      some (ofInstant t - (t.day * dayMillis + unixEpoch)) := by
  have hseconds := t.secondOfDay_lt
  have hfraction := readSeconds_renderFraction (by omega : t.secondOfDay % 60 < 60) h (head_of_isZone hzone)
  have hminutes : t.seconds / 60 * 60000 = t.day * 86400000 + ((t.secondOfDay / 3600 : Nat) : Int) * 3600000 +
      ((t.secondOfDay / 60 % 60 : Nat) : Int) * 60000 := by
    unfold Instant.secondOfDay Instant.day
    omega
  simp (disch := omega) only [readTime, readField_two, readMark_cons, hfraction, readZone_of_isZone hzone,
    Option.bind_eq_bind, Option.bind_some]
  unfold ofInstant dayMillis
  congr 1
  omega

/-- A date that is written with a sign, or without one, is read with the time behind it. -/
theorem readDate_signed (negative : Bool) {year month day : Nat} (hyear : year < 10000)
    (hmonth : 1 ≤ month ∧ month ≤ 12) (hday : 1 ≤ day ∧ day ≤ 31) {mark : Char} (hmark : mark = 'T' ∨ mark = ' ')
    {clock : List Char} (hclock : ∃ c cs, clock = c :: cs ∧ Numeral.isDigit c = true) :
    readDate ((if negative then ['-'] else []) ++ (padded 4 year ++ ('-' :: (padded 2 month ++ ('-' :: (padded 2 day ++
      (mark :: clock))))))) =
      (readTime clock).bind fun time =>
        if -4713 ≤ (if negative then -(year : Int) else year) then
          inRange (ofDate (if negative then -(year : Int) else year) month day + time)
        else none := by
  have hfour := fun rest => readField_padded (by decide : 0 < 4) (hyear : year < 10 ^ 4) (Nat.zero_le year)
    (by omega : year ≤ 9999) rest
  -- the mark is dropped, and a digit follows
  have hdrop : (mark :: clock).dropWhile (fun c => Chars.isAsciiBlank c || c == 'T') = clock := by
    obtain ⟨c, cs, rfl, hc⟩ := hclock
    have hdigit : (Chars.isAsciiBlank c || c == 'T') = false := by
      obtain ⟨hlow, hhigh⟩ := Numeral.toNat_of_isDigit hc
      have hspace : c ≠ ' ' := by rintro rfl; cases hc
      have hmark : c ≠ 'T' := by rintro rfl; cases hc
      simp [Chars.isAsciiBlank, hspace, hmark]
      omega
    have hdropped : (Chars.isAsciiBlank mark || mark == 'T') = true := by
      rcases hmark with rfl | rfl <;> decide
    simp only [List.dropWhile_cons, hdropped, hdigit, if_true, Bool.false_eq_true, if_false]
  have hne : clock ≠ [] := by
    obtain ⟨c, cs, rfl, -⟩ := hclock
    exact List.cons_ne_nil c cs
  obtain ⟨c, cs, hpadded, hc⟩ := Numeral.exists_padded (by decide : 0 < 4) (hyear : year < 10 ^ 4)
  unfold readDate
  split
  next negative' cs' heq =>
  -- a year does not start with the sign that the reader splits off
  obtain ⟨rfl, rfl⟩ : negative' = negative ∧ cs' = padded 4 year ++ ('-' :: (padded 2 month ++ ('-' ::
      (padded 2 day ++ (mark :: clock))))) := by
    cases negative with
    | true => exact ⟨(Prod.mk.inj heq).1.symm, (Prod.mk.inj heq).2.symm⟩
    | false =>
      split at heq
      · next hminus =>
        simp only [Bool.false_eq_true, if_false, List.nil_append, hpadded] at hminus
        obtain rfl : c = '-' := (List.cons.inj hminus).1
        cases hc
      · exact ⟨(Prod.mk.inj heq).1.symm, (Prod.mk.inj heq).2.symm⟩
  simp (disch := omega) only [hfour, readField_two, readMark_cons, Option.bind_eq_bind, Option.bind_some, hdrop,
    if_neg hne]

/-- The date of a stamp and the time behind it are read as the place of its instant. -/
private theorem readDate_stamp (h : t.Regular) {mark : Char} (hmark : mark = 'T' ∨ mark = ' ') {zone : List Char}
    (hzone : IsZone zone) :
    readDate (t.stamp mark (Time.renderFraction t.nanos ++ zone)) = inRange (ofInstant t) := by
  obtain ⟨hmonth, hday⟩ := t.date_bounds
  have hseconds := t.secondOfDay_lt
  have hyear := h.year_nonneg
  have hyear' := h.year_le
  have hcast : ((t.date.year.toNat : Nat) : Int) = t.date.year := Int.toNat_of_nonneg hyear
  have htoDay : t.date.toDay = t.day := Date.toDay_ofDay t.day
  obtain ⟨c, cs, hpadded, hc⟩ := Numeral.exists_padded (by decide : 0 < 2) (by omega : t.secondOfDay / 3600 < 10 ^ 2)
  have hclock : ∀ rest, ∃ d ds, padded 2 (t.secondOfDay / 3600) ++ rest = d :: ds ∧ Numeral.isDigit d = true :=
    fun rest => ⟨c, cs ++ rest, by rw [hpadded, List.cons_append], hc⟩
  have hread := fun rest =>
    readDate_signed false (by omega : t.date.year.toNat < 10000) hmonth hday hmark (hclock rest)
  simp only [Bool.false_eq_true, if_false, List.nil_append, hcast] at hread
  refine (hread _).trans ?_
  rw [readTime_stamp h.noLeap hzone, Option.bind_some, if_pos (by omega), ofDate_eq hyear hmonth, htoDay]
  congr 1
  omega

/-! ### The order of the scale -/

private theorem secondOfDay_mod (t : Instant) : ((t.secondOfDay % 60 : Nat) : Int) = t.seconds % 60 := by
  unfold Instant.secondOfDay
  omega

theorem le_ofInstant (t : Instant) : t.seconds * 1000 + unixEpoch ≤ ofInstant t := by
  have hsecond := secondOfDay_mod t
  have hmillis : ((t.secondOfDay % 60 : Nat) : Int) * 1000 ≤ millisOf (t.secondOfDay % 60) (t.nanos / 1000000000) :=
    le_millisOf (by omega) (by positivity)
  unfold ofInstant
  omega

theorem ofInstant_le (h : t.nanos < 1000000000) : ofInstant t ≤ (t.seconds + 1) * 1000 + unixEpoch := by
  have hsecond := secondOfDay_mod t
  have hfraction : (t.nanos : Rat) / 1000000000 ≤ 1 := by
    have hnanos : (t.nanos : Rat) ≤ 1000000000 := by exact_mod_cast h.le
    rw [div_le_one (by norm_num)]
    exact hnanos
  have hmillis : millisOf (t.secondOfDay % 60) (t.nanos / 1000000000) ≤ ((t.secondOfDay % 60 : Nat) + 1) * 1000 :=
    millisOf_le (by omega) (by positivity) hfraction
  unfold ofInstant
  omega

/-- An instant that comes no later stands no later on the scale. -/
theorem ofInstant_mono {s : Instant} (hs : s.nanos < 1000000000) (h : s ≤ t) : ofInstant s ≤ ofInstant t := by
  rcases Instant.le_iff.1 h with hlt | ⟨hseconds, hnanos⟩
  · -- the milliseconds of a second end where those of the next one begin
    have hle := ofInstant_le hs
    have hge := le_ofInstant t
    omega
  · have hfraction : (s.nanos : Rat) / 1000000000 ≤ t.nanos / 1000000000 := by
      have hcast : (s.nanos : Rat) ≤ t.nanos := by exact_mod_cast hnanos
      gcongr
    have hmillis := millisOf_mono (t.secondOfDay % 60) (by positivity) hfraction
    have hsecond : s.secondOfDay = t.secondOfDay := by rw [Instant.secondOfDay, Instant.secondOfDay, hseconds]
    unfold ofInstant
    rw [hseconds, hsecond]
    omega

end JulianDay

/-! ### The ends of the scale -/

namespace Instant

/-- The last second of the year 9999. -/
def lastSecond : Int := 253402300799

/-- The first nanosecond of that second that is rounded into the year 10000. -/
def lastNanos : Nat := 999500000

/-- An instant of the years 0 to 9999 that is no leap second and is not rounded into the year 10000. -/
structure Storable (t : Instant) : Prop extends t.Regular where
  notLast : t.seconds = lastSecond → t.nanos < lastNanos

theorem Regular.seconds_bounds {t : Instant} (h : t.Regular) : -62167219200 ≤ t.seconds ∧ t.seconds ≤ lastSecond := by
  have hday := (Date.valid_ofDay t.day).toDay_bounds h.year_nonneg h.year_le
  rw [Date.toDay_ofDay, day] at hday
  unfold lastSecond
  omega

end Instant

namespace JulianDay

variable {t : Instant}

/-- The last half millisecond of a minute is rounded into the next minute. -/
theorem millisOf_last_lt_iff (n : Nat) : millisOf 59 (n / 1000000000) < 60000 ↔ n < Instant.lastNanos := by
  have hbelow : millisOf 59 (999499999 / 1000000000) = 59999 := by decide +kernel
  have habove : millisOf 59 (999500000 / 1000000000) = 60000 := by decide +kernel
  unfold Instant.lastNanos
  constructor
  · intro h
    by_contra hn
    have hfraction : (999500000 : Rat) / 1000000000 ≤ n / 1000000000 := by
      have hcast : (999500000 : Rat) ≤ n := by exact_mod_cast Nat.not_lt.1 hn
      gcongr
    have hmillis := millisOf_mono 59 (by norm_num) hfraction
    omega
  · intro h
    have hfraction : (n : Rat) / 1000000000 ≤ 999499999 / 1000000000 := by
      have hcast : (n : Rat) ≤ 999499999 := by exact_mod_cast Nat.le_of_lt_succ h
      gcongr
    have hmillis := millisOf_mono 59 (by positivity) hfraction
    omega

/-- The place of an instant in the last second of a minute. -/
theorem ofInstant_of_last (h : t.seconds % 60 = 59) :
    ofInstant t = (t.seconds - 59) * 1000 + millisOf 59 (t.nanos / 1000000000) + unixEpoch := by
  have hsecond : t.secondOfDay % 60 = 59 := by
    unfold Instant.secondOfDay
    omega
  unfold ofInstant
  rw [hsecond]
  omega

/-- The scale ends half a millisecond before the year 10000. -/
theorem ofInstant_le_last_iff (h : t.nanos < 1000000000) :
    ofInstant t ≤ last ↔
      t.seconds < Instant.lastSecond ∨ t.seconds = Instant.lastSecond ∧ t.nanos < Instant.lastNanos := by
  have hge := le_ofInstant t
  have hle := ofInstant_le h
  unfold last unixEpoch Instant.lastSecond at *
  rcases Int.lt_trichotomy t.seconds 253402300799 with hlt | heq | hgt
  · omega
  · have hplace := ofInstant_of_last (t := t) (by omega)
    have hmillis := millisOf_last_lt_iff t.nanos
    unfold unixEpoch at hplace
    omega
  · omega

private theorem ofInstant_inRange (h : t.Storable) : inRange (ofInstant t) = some (ofInstant t) := by
  obtain ⟨hfirst, hlast⟩ := h.toRegular.seconds_bounds
  have hge := le_ofInstant t
  have hend : ofInstant t ≤ last := by
    refine (ofInstant_le_last_iff h.noLeap).2 ((Int.lt_or_eq_of_le hlast).imp id fun heq => ⟨heq, h.notLast heq⟩)
  have hstart : 0 ≤ ofInstant t := by
    unfold unixEpoch at hge
    omega
  rw [inRange, if_pos ⟨hstart, hend⟩]

/-! ### Stamps in the database -/

theorem nul_not_mem_padded (width n : Nat) : '\x00' ∉ padded width n :=
  fun hmem => Bool.false_ne_true (Numeral.isDigit_of_mem_padded hmem)

theorem nul_not_mem_renderFraction (n : Nat) : '\x00' ∉ Time.renderFraction n := by
  unfold Time.renderFraction
  split
  · exact List.not_mem_nil
  · split
    · simpa using nul_not_mem_padded 3 (n / 1000000)
    · split
      · simpa using nul_not_mem_padded 6 (n / 1000)
      · simpa using nul_not_mem_padded 9 n

private theorem nul_not_mem_stamp {mark : Char} (hmark : mark = 'T' ∨ mark = ' ') {zone : List Char}
    (hzone : IsZone zone) : '\x00' ∉ t.stamp mark (Time.renderFraction t.nanos ++ zone) := by
  have hmark' : '\x00' ≠ mark := by rcases hmark with rfl | rfl <;> decide
  have hzone' : '\x00' ∉ zone := by rcases hzone with rfl | rfl <;> decide
  simp [Instant.stamp, nul_not_mem_padded, nul_not_mem_renderFraction, hmark', hzone']

private theorem ofText?_of_stamp (h : t.Storable) {mark : Char} (hmark : mark = 'T' ∨ mark = ' ') {zone : List Char}
    (hzone : IsZone zone) {text : String} (htext : text.toList = t.stamp mark (Time.renderFraction t.nanos ++ zone)) :
    ofText? text = some (ofInstant t) := by
  rw [ofText?, htext, Chars.beforeNul_of_not_mem (nul_not_mem_stamp hmark hzone), readDate_stamp h.toRegular hmark hzone,
    ofInstant_inRange h]
  rfl

/-- A stored timestamp stands at the place of its instant. -/
theorem ofText?_toStored (h : t.Storable) : ofText? t.toStored = some (ofInstant t) :=
  ofText?_of_stamp h (.inl rfl) (.inl rfl) (Instant.toList_toStored h.toRegular)

/-- The stamp that a table fills in stands at the place of its second. -/
theorem ofText?_toDefaultStamp (h : t.Storable) (hnanos : t.nanos = 0) :
    ofText? t.toDefaultStamp = some (ofInstant t) := by
  refine ofText?_of_stamp h (.inr rfl) (.inr rfl) ((Instant.toList_toDefaultStamp h.toRegular).trans ?_)
  rw [hnanos]
  rfl

end JulianDay

/-! ### Timestamps of a table -/

/-- A column holds the timestamp of an instant: as it is bound to a statement, or as the table fills it in. -/
def Scalar.Stamps (s : Scalar) (t : Instant) : Prop :=
  t.Regular ∧ (s = .text t.toStored ∨ s = .text t.toDefaultStamp ∧ t.nanos = 0)

namespace Scalar.Stamps

variable {s : Scalar} {t : Instant} (h : s.Stamps t)

include h

theorem instant?_eq : s.instant? = some t := by
  obtain ⟨hregular, rfl | ⟨rfl, hnanos⟩⟩ := h
  · exact Instant.ofStored?_toStored t
  · exact Instant.ofStored?_toDefaultStamp hregular hnanos

/-- A column holds the timestamp of one instant only. -/
theorem unique {u : Instant} (hu : s.Stamps u) : u = t := by
  have heq := hu.instant?_eq.symm.trans h.instant?_eq
  exact Option.some.inj heq

variable (ht : t.Storable)

include ht

theorem julianDay?_eq : s.julianDay? = some (JulianDay.ofInstant t) := by
  obtain ⟨-, rfl | ⟨rfl, hnanos⟩⟩ := h
  · exact JulianDay.ofText?_toStored ht
  · exact JulianDay.ofText?_toDefaultStamp ht hnanos

omit ht

/-- Timestamps of one instant are read alike. -/
theorem julianDay?_congr {s' : Scalar} (h' : s'.Stamps t) : s.julianDay? = s'.julianDay? := by
  by_cases ht : t.Storable
  · rw [h.julianDay?_eq ht, h'.julianDay?_eq ht]
  · -- what a table fills in has no fraction of a second, so nothing is rounded up
    have hbound : ∀ s : Scalar, s.Stamps t → s = .text t.toStored := by
      rintro s ⟨hregular, rfl | ⟨-, hnanos⟩⟩
      · rfl
      · exact absurd ⟨hregular, fun _ => by rw [hnanos]; decide⟩ ht
    rw [hbound s h, hbound s' h']

end Scalar.Stamps

end WorkspaceSearch
