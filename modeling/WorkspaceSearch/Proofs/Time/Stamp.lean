import Mathlib.Data.List.TakeWhile
import WorkspaceSearch.Proofs.Text.Digits
import WorkspaceSearch.Proofs.Time.Calendar
import WorkspaceSearch.Proofs.Time.Milliseconds
import WorkspaceSearch.Time.Reading
import WorkspaceSearch.Time.Writing

/-!
# Reading stamps

A stamp is a date and a time of day as tables hold them.  The stamps of the years 0 to 9999 have four digits for the
year; they are read back as the instant that was written, and as its place on the scale of Julian days.
-/

namespace WorkspaceSearch

-- the powers of the core library, whatever else is in scope
attribute [local instance (2000)] instPowNat

open Numeral (padded)

namespace Instant

/-- The date of an instant. -/
def date (t : Instant) : Date := Date.ofDay t.day

/-- An instant of the years 0 to 9999 that is no leap second. -/
structure Regular (t : Instant) : Prop where
  year_nonneg : 0 ≤ t.date.year
  year_le : t.date.year ≤ 9999
  noLeap : t.nanos < 1000000000

/-- Date and time to the second with a mark between them, and what follows. -/
def stamp (t : Instant) (mark : Char) (rest : List Char) : List Char :=
  padded 4 t.date.year.toNat ++ ('-' :: (padded 2 t.date.month ++ ('-' :: (padded 2 t.date.day ++ (mark ::
    (padded 2 (t.secondOfDay / 3600) ++ (':' :: (padded 2 (t.secondOfDay / 60 % 60) ++ (':' ::
      (padded 2 (t.secondOfDay % 60) ++ rest))))))))))

variable {t : Instant} (h : t.Regular)

include h

theorem toList_toStored :
    t.toStored.toList = t.stamp 'T' (Time.renderFraction t.nanos ++ "+00:00".toList) := by
  have hleap : t.nanos / 1000000000 = 0 := Nat.div_eq_of_lt h.noLeap
  have hnanos : t.nanos % 1000000000 = t.nanos := Nat.mod_eq_of_lt h.noLeap
  have hyear : Time.renderYear (Date.ofDay t.day).year = padded 4 t.date.year.toNat :=
    if_pos ⟨h.year_nonneg, h.year_le⟩
  simp only [toStored, renderLocal, Time.renderDate, Time.renderClock, String.toList_ofList, hleap, hnanos, hyear,
    Nat.add_zero, stamp, date, List.append_assoc, List.cons_append]

theorem toList_toDefaultStamp : t.toDefaultStamp.toList = t.stamp ' ' [] := by
  have hyear : Time.renderYear (Date.ofDay t.day).year = padded 4 t.date.year.toNat :=
    if_pos ⟨h.year_nonneg, h.year_le⟩
  simp only [toDefaultStamp, Time.renderDate, Time.renderClock, String.toList_ofList, hyear, Nat.add_zero, stamp, date,
    List.append_assoc, List.cons_append, List.append_nil]

end Instant

/-! ### Reading numbers -/

theorem Time.readDigits_padded {width least n : Nat} (hleast : least ≤ width) (hwidth : 0 < width)
    (hn : n < 10 ^ width) (rest : List Char) : readDigits least width (padded width n ++ rest) = some (n, rest) := by
  have hlength := Numeral.length_padded hwidth hn
  have htake : (padded width n ++ rest).take width = padded width n := List.take_left' hlength
  have hall : (padded width n).takeWhile Numeral.isDigit = padded width n :=
    List.takeWhile_eq_self_iff.2 fun c hc => Numeral.isDigit_of_mem_padded hc
  have hdrop : (padded width n ++ rest).drop width = rest := List.drop_left' hlength
  simp only [readDigits, htake, hall, hlength, hdrop, Numeral.value_padded, if_neg (Nat.not_lt.2 hleast)]

/-! ### Fractions -/

namespace Time

/-- A fraction is missing, or some digits that are a number of fitting units. -/
theorem renderFraction_cases {n : Nat} (hn : n < 1000000000) :
    n = 0 ∧ renderFraction n = [] ∨
      ∃ width k, 0 < width ∧ width ≤ 9 ∧ k < 10 ^ width ∧ k * 10 ^ (9 - width) = n ∧
        renderFraction n = '.' :: padded width k := by
  unfold renderFraction
  split
  · next hzero => exact .inl ⟨hzero, rfl⟩
  · right
    split
    · exact ⟨3, n / 1000000, by decide, by decide, by omega, by omega, rfl⟩
    · split
      · exact ⟨6, n / 1000, by decide, by decide, by omega, by omega, rfl⟩
      · exact ⟨9, n, by decide, by decide, by omega, by omega, rfl⟩

/-- The digits of a padded numeral end where something else begins. -/
theorem takeWhile_padded {width n : Nat} {rest : List Char} (hrest : ∀ c ∈ rest.head?, Numeral.isDigit c = false) :
    (padded width n ++ rest).takeWhile Numeral.isDigit = padded width n := by
  have hall : ∀ c ∈ padded width n, Numeral.isDigit c = true := fun c hc => Numeral.isDigit_of_mem_padded hc
  have hnone : rest.takeWhile Numeral.isDigit = [] := by
    cases rest with
    | nil => rfl
    | cons c rest => rw [List.takeWhile_cons_of_neg (by simpa using hrest c rfl)]
  rw [List.takeWhile_append_of_pos hall, hnone, List.append_nil]

private theorem readFraction_renderFraction {n : Nat} (hn : n < 1000000000) {rest : List Char}
    (hrest : ∀ c ∈ rest.head?, Numeral.isDigit c = false ∧ c ≠ '.') :
    readFraction (renderFraction n ++ rest) = some (n, rest) := by
  obtain ⟨rfl, hnone⟩ | ⟨width, k, hwidth, hnine, hk, rfl, hsome⟩ := renderFraction_cases hn
  · rw [hnone, List.nil_append]
    cases rest with
    | nil => rfl
    | cons c rest =>
      have hc : c ≠ '.' := (hrest c rfl).2
      simp [readFraction, hc]
  · have hlength := Numeral.length_padded hwidth hk
    have hne : padded width k ≠ [] := by
      intro hnil
      rw [hnil] at hlength
      exact absurd hlength (by simp; omega)
    rw [hsome, List.cons_append]
    simp only [readFraction, takeWhile_padded fun c hc => (hrest c hc).1, if_neg hne,
      List.take_of_length_le (by omega : (padded width k).length ≤ 9), Numeral.value_padded, hlength,
      List.drop_left' hlength]

end Time

/-! ### Reading instants back -/

namespace Instant

variable {t : Instant}

theorem date_bounds (t : Instant) :
    (1 ≤ t.date.month ∧ t.date.month ≤ 12) ∧ 1 ≤ t.date.day ∧ t.date.day ≤ 31 :=
  (Date.valid_ofDay t.day).bounds

theorem secondOfDay_lt (t : Instant) : t.secondOfDay < 86400 := by
  unfold secondOfDay
  omega

/-- The years that there are instants of. -/
private theorem year_bounds (t : Instant) : -262143 ≤ t.date.year ∧ t.date.year ≤ 262142 := by
  have hvalid : t.date.Valid := Date.valid_ofDay t.day
  have hday : t.date.toDay = t.seconds / 86400 := Date.toDay_ofDay t.day
  have hfirst := t.first_le
  have hlast := t.le_last
  have hstart : Date.daysBeforeYear (-262143 - 1) + 306 = -96465292 := by decide
  have hend : Date.daysBeforeYear (262143 - 1) + 306 = 95026237 := by decide
  constructor
  · by_contra hyear
    have hlt := hvalid.toDay_lt (by omega : t.date.year < -262143)
    omega
  · by_contra hyear
    have hle := hvalid.le_toDay (by omega : 262143 ≤ t.date.year)
    omega

/-- The number of the second in its minute; a leap second is the 60th. -/
def second (t : Instant) : Nat := t.secondOfDay % 60 + t.nanos / 1000000000

theorem second_cases (t : Instant) :
    t.nanos < 1000000000 ∧ t.second < 60 ∧ t.second = t.secondOfDay % 60 ∨
      1000000000 ≤ t.nanos ∧ t.second = 60 ∧ t.secondOfDay % 60 = 59 := by
  have hnanos := t.nanos_lt
  by_cases hleap : t.nanos < 1000000000
  · unfold second
    omega
  · have hends := t.leap_ends_minute (by omega)
    unfold second secondOfDay
    omega

theorem second_le (t : Instant) : t.second ≤ 60 := by
  rcases t.second_cases with ⟨-, h, -⟩ | ⟨-, h, -⟩ <;> omega

/-- Date and time of an instant as a reader fills them in. -/
def readings (t : Instant) (offset : Option Int) : Time.Fields where
  year := t.date.year
  month := t.date.month
  day := t.date.day
  hour := t.secondOfDay / 3600
  minute := t.secondOfDay / 60 % 60
  second := t.second
  nanos := t.nanos % 1000000000
  offset := offset

private theorem clock_readings (t : Instant) :
    t.day * 86400 + ((t.secondOfDay / 3600 : Nat) : Int) * 3600 + ((t.secondOfDay / 60 % 60 : Nat) : Int) * 60 +
        ((min t.second 59 : Nat) : Int) - 0 * 60 = t.seconds ∧
      t.nanos % 1000000000 + (if t.second = 60 then 1000000000 else 0) = t.nanos := by
  have hnanos := t.nanos_lt
  have hday : t.day * 86400 + ((t.secondOfDay / 3600 : Nat) : Int) * 3600 +
      ((t.secondOfDay / 60 % 60 : Nat) : Int) * 60 + ((t.secondOfDay % 60 : Nat) : Int) = t.seconds := by
    unfold secondOfDay day
    omega
  rcases t.second_cases with ⟨hnoLeap, hlt, heq⟩ | ⟨hleap, heq, hends⟩
  · rw [if_neg (by omega), Nat.min_eq_left (by omega), heq]
    omega
  · rw [if_pos heq, heq]
    omega

/-- Date and time of an instant name it. -/
theorem instant?_readings (t : Instant) {offset : Option Int} (hoffset : offset.getD 0 = 0) :
    (t.readings offset).instant? = some t := by
  have hseconds := t.secondOfDay_lt
  have hvalid : (⟨(t.readings offset).year, (t.readings offset).month, (t.readings offset).day⟩ : Date).Valid :=
    Date.valid_ofDay t.day
  have hday : (⟨(t.readings offset).year, (t.readings offset).month, (t.readings offset).day⟩ : Date).toDay = t.day :=
    Date.toDay_ofDay t.day
  have hhour : t.secondOfDay / 3600 ≤ 23 := by omega
  have hminute : t.secondOfDay / 60 % 60 ≤ 59 := by omega
  have hzero : (t.readings offset).offset.getD 0 = 0 := hoffset
  obtain ⟨hclock, hleap⟩ := t.clock_readings
  simp only [Time.Fields.instant?, hzero, hday]
  rw [if_pos ⟨hvalid, t.year_bounds.1, t.year_bounds.2, hhour, hminute, t.second_le, by decide, by decide⟩]
  show ofParts? (t.day * 86400 + ((t.secondOfDay / 3600 : Nat) : Int) * 3600 +
    ((t.secondOfDay / 60 % 60 : Nat) : Int) * 60 + ((min t.second 59 : Nat) : Int) - 0 * 60)
    (t.nanos % 1000000000 + (if t.second = 60 then 1000000000 else 0)) = some t
  rw [hclock, hleap, ofParts?, dif_pos ⟨t.nanos_lt, t.leap_ends_minute, t.first_le, t.le_last⟩]

/-- The fields of a stamp. -/
private def fields (t : Instant) (nanos : Nat) (offset : Option Int) : Time.Fields where
  year := t.date.year
  month := t.date.month
  day := t.date.day
  hour := t.secondOfDay / 3600
  minute := t.secondOfDay / 60 % 60
  second := t.secondOfDay % 60
  nanos := nanos
  offset := offset

/-- The fields of a stamp name its instant. -/
private theorem instant?_fields (h : t.Regular) {offset : Option Int} (hoffset : offset.getD 0 = 0) :
    (t.fields t.nanos offset).instant? = some t := by
  have hsecond : t.second = t.secondOfDay % 60 := by
    rw [second, Nat.div_eq_of_lt h.noLeap, Nat.add_zero]
  have hsame : t.fields t.nanos offset = t.readings offset := by
    rw [readings, hsecond, Nat.mod_eq_of_lt h.noLeap, fields]
  rw [hsame, instant?_readings t hoffset]

end Instant

namespace Time

variable {n : Nat} (f : Fields) (ps : List Piece) (rest : List Char)

/-- A digit is no blank, so nothing is trimmed off a padded numeral. -/
private theorem trimStart_padded {width : Nat} (hwidth : 0 < width) (hn : n < 10 ^ width) :
    Chars.trimStart (padded width n ++ rest) = padded width n ++ rest := by
  obtain ⟨c, cs, hpadded, hc⟩ := Numeral.exists_padded hwidth hn
  obtain ⟨hlow, hhigh⟩ := Numeral.toNat_of_isDigit hc
  have hblank : Chars.isBlank c = false := by
    simp [Chars.isBlank]
    omega
  rw [hpadded]
  exact Chars.trimStart_cons_of_not_isBlank hblank _

theorem readYear_padded (hn : n < 10000) : readYear (padded 4 n ++ rest) = some ((n : Int), rest) := by
  obtain ⟨c, cs, hpadded, hc⟩ := Numeral.exists_padded (by decide : 0 < 4) hn
  have hminus : c ≠ '-' := by rintro rfl; cases hc
  have hplus : c ≠ '+' := by rintro rfl; cases hc
  have hdigits : readDigits 1 4 (c :: (cs ++ rest)) = some (n, rest) := by
    rw [← List.cons_append, ← hpadded]
    exact readDigits_padded (by decide) (by decide) hn rest
  rw [readYear, trimStart_padded rest (by decide) hn, hpadded, List.cons_append]
  split
  · next heq => exact absurd (List.cons.inj heq).1 hminus
  · next heq => exact absurd (List.cons.inj heq).1 hplus
  · rw [hdigits]
    rfl

/-! Every piece takes its part of a stamp. -/

/-- What a piece reads is filled in for the pieces behind it. -/
theorem readPieces_of_read {p : Piece} {g : Fields} {cs : List Char} (h : p.read f cs = some (g, rest)) :
    readPieces (p :: ps) f cs = readPieces ps g rest := by
  show (p.read f cs).bind _ = _
  rw [h]
  rfl

theorem readPieces_mark (c : Char) : readPieces (.mark c :: ps) f (c :: rest) = readPieces ps f rest :=
  readPieces_of_read f ps rest (if_pos rfl)

theorem readPieces_timeMark {c : Char} (hc : c = 'T' ∨ c = ' ') :
    readPieces (.timeMark :: ps) f (c :: rest) = readPieces ps f rest := by
  rcases hc with rfl | rfl <;> rfl

private theorem readPieces_blanks {width : Nat} (hwidth : 0 < width) (hn : n < 10 ^ width) :
    readPieces (.blanks :: ps) f (' ' :: (padded width n ++ rest)) = readPieces ps f (padded width n ++ rest) := by
  refine readPieces_of_read f ps _ ?_
  show some (f, Chars.trimStart _) = _
  rw [Chars.trimStart_cons_of_isBlank Chars.isBlank_space, trimStart_padded rest hwidth hn]

theorem readPieces_fullYear (hn : n < 10000) :
    readPieces (.fullYear :: ps) f (padded 4 n ++ rest) = readPieces ps { f with year := n } rest := by
  refine readPieces_of_read f ps rest ?_
  show (readDigits 4 4 _).map _ = _
  rw [readDigits_padded (Nat.le_refl 4) (by decide) hn, Option.map_some]

theorem readPieces_year (hn : n < 10000) :
    readPieces (.year :: ps) f (padded 4 n ++ rest) = readPieces ps { f with year := n } rest := by
  refine readPieces_of_read f ps rest ?_
  show (readYear _).map _ = _
  rw [readYear_padded rest hn, Option.map_some]

theorem readPieces_full (slot : Slot) (hn : n < 100) :
    readPieces (.full slot :: ps) f (padded 2 n ++ rest) = readPieces ps (f.put slot n) rest := by
  refine readPieces_of_read f ps rest ?_
  show (readDigits 2 2 _).map _ = _
  rw [readDigits_padded (Nat.le_refl 2) (by decide) hn, Option.map_some]

theorem readPieces_short (slot : Slot) (hn : n < 100) :
    readPieces (.short slot :: ps) f (padded 2 n ++ rest) = readPieces ps (f.put slot n) rest := by
  refine readPieces_of_read f ps rest ?_
  show (readDigits 1 2 (Chars.trimStart _)).map _ = _
  rw [trimStart_padded rest (by decide) hn, readDigits_padded (by decide) (by decide) hn, Option.map_some]

/-- A fraction ends in front of a character that is neither a digit nor a point. -/
theorem head?_of_cons {c : Char} (h : Numeral.isDigit c = false ∧ c ≠ '.') (cs : List Char) :
    ∀ d ∈ (c :: cs).head?, Numeral.isDigit d = false ∧ d ≠ '.' := by
  intro d hd
  obtain rfl := Option.some.inj hd
  exact h

theorem readPieces_fraction (hn : n < 1000000000)
    (hrest : ∀ c ∈ rest.head?, Numeral.isDigit c = false ∧ c ≠ '.') :
    readPieces (.fraction :: ps) f (renderFraction n ++ rest) = readPieces ps { f with nanos := n } rest := by
  refine readPieces_of_read f ps rest ?_
  show (readFraction _).map _ = _
  rw [readFraction_renderFraction hn hrest, Option.map_some]

end Time

namespace Instant

variable {t : Instant} (h : t.Regular)

include h

private theorem cast_year : ((t.date.year.toNat : Nat) : Int) = t.date.year ∧ t.date.year.toNat < 10000 := by
  have hlow := h.year_nonneg
  have hhigh := h.year_le
  omega

private theorem readFields_spaced (hnanos : t.nanos = 0) :
    Time.readFields (Time.datePattern ++ [.blanks] ++ (Time.secondPattern ++ [.fraction])) (t.stamp ' ' []) =
      some (t.fields t.nanos none) := by
  obtain ⟨⟨-, hmonth⟩, -, hday⟩ := t.date_bounds
  have hseconds := t.secondOfDay_lt
  obtain ⟨hcast, hyear⟩ := cast_year h
  have hfraction : ∀ f : Time.Fields, Time.readPieces [.fraction] f [] = some ({ f with nanos := 0 }, []) :=
    fun f => rfl
  have hblanks := fun f ps n rest hn => Time.readPieces_blanks f ps rest (by decide : 0 < 2) (n := n) hn
  simp (disch := omega) only [Time.readFields, Time.datePattern, Time.secondPattern, Time.minutePattern,
    List.cons_append, List.nil_append, stamp, Time.readPieces_year, Time.readPieces_mark, Time.readPieces_short,
    hblanks, hfraction]
  rw [hcast, hnanos]
  rfl

/-- The full pattern asks for an offset, which a stamp to the second does not have. -/
private theorem readFields_full_spaced : Time.readFields Time.fullPattern (t.stamp ' ' []) = none := by
  obtain ⟨⟨-, hmonth⟩, -, hday⟩ := t.date_bounds
  have hseconds := t.secondOfDay_lt
  obtain ⟨-, hyear⟩ := cast_year h
  have hend : ∀ f : Time.Fields, Time.readPieces [.fraction, .offset .strict] f [] = none := fun f => rfl
  have hmark := fun f ps rest => Time.readPieces_timeMark f ps rest (c := ' ') (.inr rfl)
  simp (disch := omega) only [Time.readFields, Time.fullPattern, stamp, Time.readPieces_fullYear, Time.readPieces_mark,
    hmark, Time.readPieces_full, hend]

/-- The stamp that a table fills in names its second. -/
theorem ofStored?_toDefaultStamp (hnanos : t.nanos = 0) : ofStored? t.toDefaultStamp = some t := by
  have hfull : Time.readInstant Time.fullPattern (t.stamp ' ' []) = none := by
    rw [Time.readInstant, readFields_full_spaced h, Option.bind_none]
  have hspaced : Time.readInstant (Time.datePattern ++ [.blanks] ++ (Time.secondPattern ++ [.fraction]))
      (t.stamp ' ' []) = some t := by
    rw [Time.readInstant, readFields_spaced h hnanos, Option.bind_some, instant?_fields h rfl]
  simp only [ofStored?, toList_toDefaultStamp h, hfull, Time.storedPatterns, List.findSome?_cons, hspaced]
  rfl

end Instant

end WorkspaceSearch
