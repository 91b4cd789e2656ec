import WorkspaceSearch.Proofs.Time.Stamp

/-!
# Texts of instants

Every instant is read back from its text, in a table as in a document, whatever its year, and also when it is a leap
second (`Instant.ofStored?_toStored`, `Instant.ofExchange?_toText`).
-/

namespace WorkspaceSearch

-- the powers of the core library, whatever else is in scope
attribute [local instance (2000)] instPowNat

open Numeral (padded isDigit)

/-! ### Years -/

/-- A year is a sign, or none, and four digits or more. -/
theorem Time.renderYear_eq (year : Int) :
    ∃ sign, (sign = [] ∨ sign = ['-'] ∨ sign = ['+']) ∧ renderYear year = sign ++ padded 4 year.natAbs := by
  unfold renderYear
  split
  · exact ⟨[], .inl rfl, by rw [List.nil_append]; congr 1; omega⟩
  · split
    · exact ⟨['-'], .inr (.inl rfl), rfl⟩
    · exact ⟨['+'], .inr (.inr rfl), rfl⟩

theorem Numeral.le_length_padded (width n : Nat) : width ≤ (padded width n).length := by
  rw [padded, List.length_append, List.length_replicate]
  omega

namespace Time

variable {rest : List Char} (hrest : ∀ c ∈ rest.head?, isDigit c = false)

include hrest

/-- All digits are read up to something else. -/
private theorem readAllDigits_padded {width : Nat} (hwidth : 0 < width) (n : Nat) :
    readAllDigits (padded width n ++ rest) = some (n, rest) := by
  have hdigits :
      ((padded width n ++ rest).take (padded width n ++ rest).length).takeWhile isDigit = padded width n := by
    rw [List.take_length, takeWhile_padded hrest]
  have hlength := Numeral.le_length_padded width n
  simp only [readAllDigits, readDigits, hdigits, Numeral.value_padded, List.drop_left]
  exact if_neg (by omega)

/-- A year is read up to something else. -/
private theorem readYear_renderYear (year : Int) : readYear (renderYear year ++ rest) = some (year, rest) := by
  unfold renderYear
  split
  · next hyear =>
    rw [readYear_padded rest (by omega), Int.toNat_of_nonneg hyear.1]
  · next hyear =>
    have hread := readAllDigits_padded hrest (by decide : 0 < 4) year.natAbs
    by_cases hsign : year < 0
    · rw [if_pos hsign]
      have hminus : readYear ('-' :: padded 4 year.natAbs ++ rest) =
          (readAllDigits (padded 4 year.natAbs ++ rest)).map fun read => (-(read.1 : Int), read.2) := rfl
      have hvalue : -((year.natAbs : Nat) : Int) = year := by omega
      rw [hminus, hread, Option.map_some]
      exact congrArg (fun y => some (y, rest)) hvalue
    · rw [if_neg hsign]
      have hplus : readYear ('+' :: padded 4 year.natAbs ++ rest) =
          (readAllDigits (padded 4 year.natAbs ++ rest)).map fun read => ((read.1 : Int), read.2) := rfl
      have hvalue : ((year.natAbs : Nat) : Int) = year := by omega
      rw [hplus, hread, Option.map_some]
      exact congrArg (fun y => some (y, rest)) hvalue

end Time

/-! ### The text of an instant -/

namespace Instant

/-- The time of day in the text of an instant, and the zone. -/
def clock (t : Instant) (zone : List Char) : List Char :=
  padded 2 (t.secondOfDay / 3600) ++ (':' :: (padded 2 (t.secondOfDay / 60 % 60) ++ (':' ::
    (padded 2 t.second ++ (Time.renderFraction (t.nanos % 1000000000) ++ zone)))))

/-- The text of an instant: its date, a mark, its time of day and the zone. -/
def written (t : Instant) (zone : List Char) : List Char :=
  Time.renderYear t.date.year ++ ('-' :: (padded 2 t.date.month ++ ('-' ::
    (padded 2 t.date.day ++ ('T' :: t.clock zone)))))

private theorem renderLocal_append (t : Instant) (zone : List Char) : t.renderLocal ++ zone = t.written zone := by
  simp only [renderLocal, Time.renderDate, Time.renderClock, date, written, clock, second, List.append_assoc,
    List.cons_append]

theorem toList_toStored_eq (t : Instant) : t.toStored.toList = t.written "+00:00".toList := by
  rw [toStored, String.toList_ofList, renderLocal_append]

private theorem toList_toText (t : Instant) : t.toText.toList = t.written ['Z'] := by
  rw [toText, String.toList_ofList, renderLocal_append]

theorem exists_clock (t : Instant) (zone : List Char) : ∃ c cs, t.clock zone = c :: cs ∧ isDigit c = true := by
  have hseconds := t.secondOfDay_lt
  obtain ⟨c, cs, hpadded, hc⟩ := Numeral.exists_padded (by decide : 0 < 2) (by omega : t.secondOfDay / 3600 < 10 ^ 2)
  exact ⟨c, _, by rw [clock, hpadded, List.cons_append], hc⟩

end Instant

/-! ### Reading piece by piece -/

namespace Time

variable (f : Fields) (ps : List Piece)

private theorem readPieces_skip {c : Char} (hc : Chars.isBlank c = false) (rest : List Char) :
    readPieces (.blanks :: ps) f (c :: rest) = readPieces ps f (c :: rest) := by
  exact readPieces_of_read f ps _ (congrArg (fun cs => some (f, cs)) (Chars.trimStart_cons_of_not_isBlank hc rest))

private theorem readPieces_renderYear (year : Int) (rest : List Char) :
    readPieces (.year :: ps) f (renderYear year ++ '-' :: rest) =
      readPieces ps { f with year } ('-' :: rest) := by
  have hdash : ∀ c ∈ ('-' :: rest).head?, isDigit c = false := by
    rintro c hc
    obtain rfl := Option.some.inj hc
    rfl
  refine readPieces_of_read f ps _ ?_
  show (readYear _).map _ = _
  rw [readYear_renderYear hdash, Option.map_some]

variable (t : Instant) (zone : List Char)

/-- The date is read up to the mark behind it. -/
private theorem readPieces_datePattern :
    readPieces (datePattern ++ ps) f (t.written zone) =
      readPieces ps { f with year := t.date.year, month := t.date.month, day := t.date.day }
        ('T' :: t.clock zone) := by
  obtain ⟨⟨-, hmonth⟩, -, hday⟩ := t.date_bounds
  simp (disch := omega) only [datePattern, Instant.written, List.cons_append, List.nil_append, readPieces_renderYear,
    readPieces_mark, readPieces_short, Fields.put]

/-- Hours and minutes are read up to the mark behind them. -/
private theorem readPieces_minutePattern :
    readPieces (minutePattern ++ ps) f (t.clock zone) =
      readPieces ps { f with hour := t.secondOfDay / 3600, minute := t.secondOfDay / 60 % 60 }
        (':' :: (padded 2 t.second ++ (renderFraction (t.nanos % 1000000000) ++ zone))) := by
  have hseconds := t.secondOfDay_lt
  simp (disch := omega) only [minutePattern, Instant.clock, List.cons_append, List.nil_append, readPieces_mark,
    readPieces_short, Fields.put]

/-- The time of day is read up to the zone. -/
private theorem readPieces_secondPattern (hzone : ∀ c ∈ zone.head?, isDigit c = false ∧ c ≠ '.') :
    readPieces (secondPattern ++ .fraction :: ps) f (t.clock zone) =
      readPieces ps { f with hour := t.secondOfDay / 3600, minute := t.secondOfDay / 60 % 60, second := t.second
                             nanos := t.nanos % 1000000000 } zone := by
  have hsecond := t.second_le
  have hfraction := fun f ps => readPieces_fraction (n := t.nanos % 1000000000) f ps zone (by omega) hzone
  rw [secondPattern, List.append_assoc, readPieces_minutePattern]
  simp (disch := omega) only [List.cons_append, List.nil_append, readPieces_mark, readPieces_short, Fields.put,
    hfraction]

end Time

namespace Instant

open Time

/-! ### Documents -/

private theorem readFields_loose (t : Instant) :
    readFields loosePattern (t.written ['Z']) = some (t.readings (some 0)) := by
  obtain ⟨⟨-, hmonth⟩, -, hday⟩ := t.date_bounds
  have hseconds := t.secondOfDay_lt
  have hsecond := t.second_le
  have hfraction := fun f ps =>
    readPieces_fraction (n := t.nanos % 1000000000) f ps ['Z'] (by omega) (head?_of_cons (by decide) _)
  have hskip := fun f ps (c : Char) rest hc => readPieces_skip f ps (c := c) hc rest
  have hmark := fun f ps rest => readPieces_timeMark f ps rest (c := 'T') (.inl rfl)
  have hend : ∀ f : Fields, readPieces [.offset .loose, .blanks] f ['Z'] = some ({ f with offset := some 0 }, []) :=
    fun f => rfl
  have hdash : Chars.isBlank '-' = false := by decide
  have hcolon : Chars.isBlank ':' = false := by decide
  have hzed : Chars.isBlank 'Z' = false := by decide
  simp (disch := first | omega | assumption) only [readFields, loosePattern, written, clock, readPieces_renderYear,
    readPieces_mark, readPieces_short, readPieces_skip, hmark, hfraction, hend, Fields.put]
  rfl

/-- A date of a document names the instant that was written. -/
theorem ofExchange?_toText (t : Instant) : ofExchange? t.toText = some t := by
  rw [ofExchange?, toList_toText, readInstant, readFields_loose, Option.bind_some, instant?_readings t rfl]

/-! ### Tables -/

private theorem readFields_full (t : Instant) (h : 0 ≤ t.date.year ∧ t.date.year ≤ 9999) :
    readFields fullPattern (t.written "+00:00".toList) = some (t.readings (some 0)) := by
  obtain ⟨⟨-, hmonth⟩, -, hday⟩ := t.date_bounds
  have hseconds := t.secondOfDay_lt
  have hsecond := t.second_le
  have hyear : renderYear t.date.year = padded 4 t.date.year.toNat := if_pos h
  have hcast : ((t.date.year.toNat : Nat) : Int) = t.date.year := Int.toNat_of_nonneg h.1
  have hfraction := fun f ps =>
    readPieces_fraction (n := t.nanos % 1000000000) f ps "+00:00".toList (by omega) (head?_of_cons (by decide) _)
  have hoffset : ∀ f : Fields,
      readPieces [.offset .strict] f "+00:00".toList = some ({ f with offset := some 0 }, []) :=
    fun f => rfl
  have hmark := fun f ps rest => readPieces_timeMark f ps rest (c := 'T') (.inl rfl)
  simp (disch := omega) only [readFields, fullPattern, written, clock, hyear, readPieces_fullYear, readPieces_mark,
    hmark, readPieces_full, hfraction, hoffset]
  rw [hcast]
  rfl

/-- A year with a sign is no year of four digits. -/
private theorem readFields_full_signed (t : Instant) (h : ¬(0 ≤ t.date.year ∧ t.date.year ≤ 9999)) (zone : List Char) :
    readFields fullPattern (t.written zone) = none := by
  rw [written, renderYear, if_neg h]
  split <;> rfl

/-- Where blanks or a T may stand, a T is no hour. -/
private theorem readFields_spaced_written (t : Instant) (zone : List Char) (ps : List Piece) :
    readFields (datePattern ++ .blanks :: .short .hour :: ps) (t.written zone) = none := by
  rw [readFields, readPieces_datePattern]
  rfl

/-- A date and a time of day with a T between them, and what follows. -/
private def joined (time rest : List Piece) : List Piece := datePattern ++ Piece.mark 'T' :: (time ++ rest)

/-- A colon follows the minutes. -/
private theorem readFields_joined_minutes (t : Instant) (zone : List Char) :
    readFields (joined minutePattern []) (t.written zone) = none ∧
      readFields (joined minutePattern [.mark 'Z']) (t.written zone) = none ∧
      readFields (joined minutePattern [.offset .numbers]) (t.written zone) = none := by
  refine ⟨?_, ?_, ?_⟩ <;>
    rw [readFields, joined, readPieces_datePattern, readPieces_mark, readPieces_minutePattern] <;> rfl

private theorem readFields_joined (t : Instant) :
    readFields (joined secondPattern [.fraction]) (t.written "+00:00".toList) = none ∧
      readFields (joined secondPattern [.fraction, .mark 'Z']) (t.written "+00:00".toList) = none ∧
      readFields (joined secondPattern [.fraction, .offset .numbers]) (t.written "+00:00".toList) =
        some (t.readings (some 0)) := by
  have hzone : ∀ c ∈ "+00:00".toList.head?, Numeral.isDigit c = false ∧ c ≠ '.' := head?_of_cons (by decide) _
  refine ⟨?_, ?_, ?_⟩ <;>
    rw [readFields, joined, readPieces_datePattern, readPieces_mark, readPieces_secondPattern _ _ _ _ hzone] <;> rfl

/-- Of the forms that are tried only the last one has both a T and an offset behind the seconds. -/
private theorem readFields_front (t : Instant) :
    ∀ pattern ∈ storedPatterns.take 11, readFields pattern (t.written "+00:00".toList) = none := by
  have hspaced := readFields_spaced_written t "+00:00".toList
  obtain ⟨hminutes, hminutesUtc, hminutesZone⟩ := readFields_joined_minutes t "+00:00".toList
  obtain ⟨hseconds, hsecondsUtc, -⟩ := readFields_joined t
  simp only [storedPatterns, List.take_succ_cons, List.take_zero, List.forall_mem_cons]
  exact ⟨hspaced _, hspaced _, hspaced _, hspaced _, hspaced _, hspaced _, hminutes, hminutesUtc, hminutesZone,
    hseconds, hsecondsUtc, List.forall_mem_nil _⟩

/-- A stored timestamp names the instant that was written. -/
theorem ofStored?_toStored (t : Instant) : ofStored? t.toStored = some t := by
  rw [ofStored?, toList_toStored_eq]
  by_cases hyear : 0 ≤ t.date.year ∧ t.date.year ≤ 9999
  · rw [readInstant, readFields_full t hyear, Option.bind_some, instant?_readings t rfl]
    rfl
  · have hsplit : storedPatterns =
        storedPatterns.take 11 ++ [joined secondPattern [.fraction, .offset .numbers]] := rfl
    have hfront : (storedPatterns.take 11).findSome? (fun pattern =>
        readInstant pattern (t.written "+00:00".toList) <|> readLocalInstant pattern (t.written "+00:00".toList)) =
        none := by
      refine List.findSome?_eq_none_iff.2 fun pattern hpattern => ?_
      rw [readInstant, readLocalInstant, readFields_front t pattern hpattern]
      rfl
    obtain ⟨-, -, hlast⟩ := readFields_joined t
    rw [readInstant, readFields_full_signed t hyear, hsplit, List.findSome?_append, hfront, List.findSome?_cons,
      readInstant, hlast, Option.bind_some, instant?_readings t rfl]
    rfl

end Instant

end WorkspaceSearch
