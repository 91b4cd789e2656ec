import WorkspaceSearch.Proofs.Time.Counting

/-!
# Dates of queries

A query writes a date with figures: a date and a time with an offset, a date and a time alone, or a date alone.  The
first names the instant that the calendar and the clock give, less the offset (`Figures.Denotes`); a time without an
offset is universal time, and a date alone is its midnight.  Figures that calendar or clock do not have name nothing, in
none of the three forms: a text that fails in one form does not pass in another.

The texts of one form are in the order of their instants.
-/

namespace WorkspaceSearch.Time

-- the powers of the core library, whatever else is in scope
attribute [local instance (2000)] instPowNat

open Numeral (padded isDigit)

/-! ### Written dates -/

/-- The figures of a date and a time of day: four for the year and two for every other number. -/
structure Figures where
  year : Fin 10000
  month : Fin 100
  day : Fin 100
  hour : Fin 100
  minute : Fin 100
  second : Fin 100

/-- A fraction of a second, at most nine digits behind a point; without a digit there is no point. -/
structure Fraction where
  digits : List Char
  all_digits : ∀ c ∈ digits, isDigit c = true
  length_le : digits.length ≤ 9

/-- The letter Z, or a sign with hours and minutes: ahead of universal time or behind it. -/
inductive Zone where
  | utc
  | numbers (behind : Bool) (hours minutes : Fin 100)

namespace Fraction

def text (p : Fraction) : List Char := if p.digits = [] then [] else '.' :: p.digits

/-- The nanoseconds of a fraction. -/
def nanos (p : Fraction) : Nat := Numeral.value 0 p.digits * 10 ^ (9 - p.digits.length)

private def none : Fraction := ⟨[], by simp, by decide⟩

private theorem nanos_lt (p : Fraction) : p.nanos < 1000000000 := by
  have hvalue := Numeral.value_lt p.all_digits
  have hscale : 10 ^ p.digits.length * 10 ^ (9 - p.digits.length) = 10 ^ 9 := by
    rw [← Nat.pow_add, Nat.add_sub_cancel' p.length_le]
  calc p.nanos < 10 ^ p.digits.length * 10 ^ (9 - p.digits.length) :=
        Nat.mul_lt_mul_of_pos_right hvalue (Nat.pow_pos (by decide))
    _ = 1000000000 := hscale

end Fraction

namespace Zone

def text : Zone → List Char
  | utc => ['Z']
  | numbers behind hours minutes => (if behind then '-' else '+') :: (padded 2 hours ++ ':' :: padded 2 minutes)

/-- Minutes ahead of universal time. -/
def offset : Zone → Int
  | utc => 0
  | numbers behind hours minutes => (if behind then -1 else 1) * (hours.val * 60 + minutes.val)

/-- Hours and minutes are those of a clock. -/
def OnClock : Zone → Prop
  | utc => True
  | numbers _ hours minutes => hours.val ≤ 23 ∧ minutes.val ≤ 59

instance : (z : Zone) → Decidable z.OnClock
  | utc => inferInstanceAs (Decidable True)
  | numbers _ _ _ => inferInstanceAs (Decidable (_ ∧ _))

/-- A fraction of a second ends where the zone begins. -/
private theorem exists_text (z : Zone) : ∃ c cs, z.text = c :: cs ∧ isDigit c = false ∧ c ≠ '.' := by
  cases z with
  | utc => exact ⟨'Z', [], rfl, by decide⟩
  | numbers behind hours minutes => cases behind <;> exact ⟨_, _, rfl, by decide⟩

private theorem offset_bounds {z : Zone} (h : z.OnClock) : -1440 < z.offset ∧ z.offset < 1440 := by
  cases z with
  | utc => decide
  | numbers behind hours minutes =>
    obtain ⟨hhours, hminutes⟩ := h
    cases behind <;> simp only [offset] <;> constructor <;> simp <;> omega

end Zone

namespace Figures

variable (w : Figures)

/-- The date as the calendar has it. -/
def date : Date := ⟨w.year.val, w.month, w.day⟩

/-- The time of day is one that a clock shows; a 60th second is a leap second. -/
def OnClock : Prop := w.hour.val ≤ 23 ∧ w.minute.val ≤ 59 ∧ w.second.val ≤ 60

instance : Decidable w.OnClock := inferInstanceAs (Decidable (_ ∧ _ ∧ _))

/-- The midnight that begins the day. -/
private def midnight : Figures := { w with hour := 0, minute := 0, second := 0 }

/-- Year, month and day with dashes, and what follows. -/
def dated (rest : List Char) : List Char :=
  padded 4 w.year ++ ('-' :: (padded 2 w.month ++ ('-' :: (padded 2 w.day ++ rest))))

/-- Hours, minutes and seconds with colons, and what follows. -/
def clocked (rest : List Char) : List Char :=
  padded 2 w.hour ++ (':' :: (padded 2 w.minute ++ (':' :: (padded 2 w.second ++ rest))))

/-- A date alone. -/
def dateText : String := .ofList (w.dated [])

/-- A date and a time without an offset. -/
def localText : String := .ofList (w.dated ('T' :: w.clocked []))

/-- A date and a time with an offset; the mark between them is a T of either case or a space. -/
def fullText (mark : Char) (p : Fraction) (z : Zone) : String :=
  .ofList (w.dated (mark :: w.clocked (p.text ++ z.text)))

/-- The instant that calendar and clock give, less the offset.  Days are counted from 1970-01-01, and a leap second is
the second before it with a billion nanoseconds more. -/
def Denotes (nanos : Nat) (offset : Int) (t : Instant) : Prop :=
  t.seconds = ((Date.count w.year w.month w.day : Int) - Date.count 1970 1 1) * 86400 + w.hour * 3600 + w.minute * 60 +
      min w.second.val 59 - offset * 60 ∧
    t.nanos = nanos + if w.second.val = 60 then 1000000000 else 0

/-- The numbers as a reader fills them in. -/
private def fields (nanos : Nat) (offset : Option Int) : Fields where
  year := w.year.val
  month := w.month
  day := w.day
  hour := w.hour
  minute := w.minute
  second := w.second
  nanos := nanos
  offset := offset

end Figures

/-! ### Reading -/

section Reading

variable (w : Figures) (f : Fields) (ps : List Piece) (rest : List Char)

private theorem readPieces_of_timeMark {mark : Char} (hmark : mark ∈ ['T', 't', ' ']) :
    readPieces (.timeMark :: ps) f (mark :: rest) = readPieces ps f rest := by
  simp only [List.mem_cons, List.not_mem_nil, or_false] at hmark
  rcases hmark with rfl | rfl | rfl <;> rfl

private theorem readPieces_fraction_text (p : Fraction) (hrest : ∀ c ∈ rest.head?, isDigit c = false ∧ c ≠ '.') :
    readPieces (.fraction :: ps) f (p.text ++ rest) = readPieces ps { f with nanos := p.nanos } rest := by
  have hread : readFraction (p.text ++ rest) = some (p.nanos, rest) := by
    unfold Fraction.text Fraction.nanos
    split
    · next hnone =>
      rw [hnone, List.nil_append]
      cases rest with
      | nil => rfl
      | cons c rest =>
        have hc : c ≠ '.' := (hrest c rfl).2
        simp [readFraction, hc, Numeral.value]
    · next hsome =>
      have hend : rest.takeWhile isDigit = [] := by
        cases rest with
        | nil => rfl
        | cons c rest => rw [List.takeWhile_cons_of_neg (by simpa using (hrest c rfl).1)]
      have hdigits : (p.digits ++ rest).takeWhile isDigit = p.digits := by
        rw [List.takeWhile_append_of_pos p.all_digits, hend, List.append_nil]
      simp only [List.cons_append, readFraction, hdigits, if_neg hsome, List.take_of_length_le p.length_le,
        List.drop_left]
  refine readPieces_of_read f ps rest ?_
  show (readFraction _).map _ = _
  rw [hread, Option.map_some]

private theorem readDigits_figures (n : Fin 100) : readDigits 2 2 (padded 2 n ++ rest) = some (n.val, rest) :=
  readDigits_padded (Nat.le_refl 2) (by decide) n.isLt rest

/-- An offset is read to its end, unless no clock shows it. -/
private theorem readOffset_text (z : Zone) :
    readOffset .strict z.text = some (z.offset, []) ∨ readOffset .strict z.text = none ∧ ¬z.OnClock := by
  cases z with
  | utc => exact .inl rfl
  | numbers behind hours minutes =>
    have hlast := readDigits_figures [] minutes
    rw [List.append_nil] at hlast
    have hread : readOffset .strict (Zone.numbers behind hours minutes).text =
        if minutes.val ≤ 59 then some ((Zone.numbers behind hours minutes).offset, []) else none := by
      cases behind <;>
        simp [readOffset, readOffsetNumbers, Zone.text, Zone.offset, offsetSign?, readDigits_figures, hlast]
    by_cases hminutes : minutes.val ≤ 59
    · exact .inl (by rw [hread, if_pos hminutes])
    · exact .inr ⟨by rw [hread, if_neg hminutes], fun h => hminutes h.2⟩

/-- The figures in front of the fraction, in the form that has an offset. -/
private theorem readPieces_full_figures {mark : Char} (hmark : mark ∈ ['T', 't', ' ']) :
    readPieces fullPattern {} (w.dated (mark :: w.clocked rest)) =
      readPieces [.fraction, .offset .strict] (w.fields 0 none) rest := by
  have hyear := w.year.isLt
  have hmonth := w.month.isLt
  have hday := w.day.isLt
  have hhour := w.hour.isLt
  have hminute := w.minute.isLt
  have hsecond := w.second.isLt
  have htime := fun f ps rest => readPieces_of_timeMark f ps rest hmark
  simp (disch := omega) only [fullPattern, Figures.dated, Figures.clocked, readPieces_fullYear, readPieces_mark,
    readPieces_full, htime, Fields.put, Figures.fields]

/-- The figures of a date. -/
private theorem readPieces_date_figures :
    readPieces (datePattern ++ ps) {} (w.dated rest) = readPieces ps (w.midnight.fields 0 none) rest := by
  have hyear := w.year.isLt
  have hmonth := w.month.isLt
  have hday := w.day.isLt
  simp (disch := omega) only [datePattern, List.cons_append, List.nil_append, Figures.dated, readPieces_year,
    readPieces_mark, readPieces_short, Fields.put]
  rfl

/-- The figures of a date and a time. -/
private theorem readPieces_local_figures :
    readPieces localPattern {} (w.dated ('T' :: w.clocked rest)) = some (w.fields 0 none, rest) := by
  have hhour := w.hour.isLt
  have hminute := w.minute.isLt
  have hsecond := w.second.isLt
  rw [localPattern, List.append_assoc, readPieces_date_figures]
  simp (disch := omega) only [secondPattern, minutePattern, List.cons_append, List.nil_append, Figures.clocked,
    readPieces_mark, readPieces_short, Fields.put]
  rfl

/-- A date is read to its end in the form of a date alone. -/
private theorem readFields_date_figures :
    readFields datePattern (w.dated rest) = if rest = [] then some (w.midnight.fields 0 none) else none := by
  have hread := readPieces_date_figures w [] rest
  rw [List.append_nil] at hread
  rw [readFields, hread]
  cases rest <;> rfl

/-- A time is read to its end in the form of a date and a time. -/
private theorem readFields_local_figures :
    readFields localPattern (w.dated ('T' :: w.clocked rest)) = if rest = [] then some (w.fields 0 none) else none := by
  rw [readFields, readPieces_local_figures]
  cases rest <;> rfl

/-- Behind a date only a T begins a time without an offset. -/
private theorem readFields_local_of_ne {rest : List Char} (hrest : ∀ c ∈ rest.head?, c ≠ 'T') :
    readFields localPattern (w.dated rest) = none := by
  rw [readFields, localPattern, List.append_assoc, readPieces_date_figures]
  cases rest with
  | nil => rfl
  | cons c rest =>
    have hmark : (Piece.mark 'T').read (w.midnight.fields 0 none) (c :: rest) = none := if_neg (hrest c rfl)
    rw [List.cons_append, readPieces, hmark]
    rfl

/-- A date without a time, and a time without an offset, are none of the first form. -/
private theorem readFields_full_short :
    readFields fullPattern (w.dated []) = none ∧ readFields fullPattern (w.dated ('T' :: w.clocked [])) = none := by
  have hyear := w.year.isLt
  have hmonth := w.month.isLt
  have hday := w.day.isLt
  constructor
  · rw [readFields]
    simp (disch := omega) only [fullPattern, Figures.dated, readPieces_fullYear, readPieces_mark, readPieces_full]
    rfl
  · rw [readFields, readPieces_full_figures w [] (by decide)]
    rfl

/-- The first form is read to its end, unless no clock shows the offset. -/
private theorem readFields_full_figures {mark : Char} (hmark : mark ∈ ['T', 't', ' ']) (p : Fraction) (z : Zone) :
    readFields fullPattern (w.dated (mark :: w.clocked (p.text ++ z.text))) =
        some (w.fields p.nanos (some z.offset)) ∨
      readFields fullPattern (w.dated (mark :: w.clocked (p.text ++ z.text))) = none ∧ ¬z.OnClock := by
  obtain ⟨c, cs, htext, hc⟩ := z.exists_text
  have hzone : ∀ d ∈ z.text.head?, isDigit d = false ∧ d ≠ '.' := htext ▸ head?_of_cons hc cs
  rw [readFields, readPieces_full_figures w _ hmark, readPieces_fraction_text _ _ _ _ hzone]
  rcases readOffset_text z with hread | ⟨hread, hzone⟩
  · left
    simp [readPieces, Piece.read, hread, Figures.fields]
  · right
    simp [readPieces, Piece.read, hread, hzone]

end Reading

/-! ### Naming instants -/

namespace Figures

variable (w : Figures)

private theorem toDay_date (h : w.date.Valid) :
    w.date.toDay = (Date.count w.year w.month w.day : Int) - Date.count 1970 1 1 :=
  h.toDay_eq_count rfl

/-- Figures that calendar and clock have name the instant that they denote. -/
private theorem exists_instant? (hdate : w.date.Valid) (hclock : w.OnClock) (nanos : Nat) (offset : Option Int)
    (hnanos : nanos < 1000000000) (hoffset : -1440 < offset.getD 0 ∧ offset.getD 0 < 1440) :
    ∃ t, (w.fields nanos offset).instant? = some t ∧ w.Denotes nanos (offset.getD 0) t := by
  obtain ⟨hhour, hminute, hsecond⟩ := hclock
  have hyear := w.year.isLt
  have hcount := w.toDay_date hdate
  obtain ⟨hlow, hhigh⟩ := hdate.toDay_bounds (by simp [date]) (by simp [date]; omega)
  -- the seconds count from 1970, a leap second with those of its minute
  generalize hseconds : w.date.toDay * 86400 + ((w.hour.val : Nat) : Int) * 3600 + ((w.minute.val : Nat) : Int) * 60 +
    ((min w.second.val 59 : Nat) : Int) - offset.getD 0 * 60 = seconds
  generalize hleap : nanos + (if w.second.val = 60 then 1000000000 else 0) = billions
  have hparts : billions < 2000000000 ∧ (1000000000 ≤ billions → seconds % 60 = 59) ∧
      -8334601228800 ≤ seconds ∧ seconds ≤ 8210266876799 := by
    split at hleap <;> omega
  refine ⟨⟨seconds, billions, hparts.1, hparts.2.1, hparts.2.2.1, hparts.2.2.2⟩, ?_, ?_, hleap.symm⟩
  · have hin : -262143 ≤ (w.year.val : Int) ∧ (w.year.val : Int) ≤ 262142 := by omega
    rw [Fields.instant?, if_pos ⟨hdate, hin.1, hin.2, hhour, hminute, hsecond, hoffset.1, hoffset.2⟩]
    show Instant.ofParts? (w.date.toDay * 86400 + ((w.hour.val : Nat) : Int) * 3600 +
      ((w.minute.val : Nat) : Int) * 60 + ((min w.second.val 59 : Nat) : Int) - offset.getD 0 * 60)
      (nanos + (if w.second.val = 60 then 1000000000 else 0)) = _
    rw [hseconds, hleap, Instant.ofParts?, dif_pos hparts]
  · show seconds = _
    rw [← hseconds, hcount]

/-- Figures that calendar or clock do not have name nothing. -/
private theorem instant?_eq_none (h : ¬(w.date.Valid ∧ w.OnClock)) (nanos : Nat) (offset : Option Int) :
    (w.fields nanos offset).instant? = none :=
  if_neg fun hall => h ⟨hall.1, hall.2.2.2.1, hall.2.2.2.2.1, hall.2.2.2.2.2.1⟩

end Figures

/-! ### Dates of queries -/

section Query

variable (w : Figures)

private theorem ofQuery?_fullText {mark : Char} (hmark : mark ∈ ['T', 't', ' ']) (p : Fraction) (z : Zone) :
    Instant.ofQuery? (w.fullText mark p z) = (w.fields p.nanos (some z.offset)).instant? ∨
      Instant.ofQuery? (w.fullText mark p z) = none ∧ ¬z.OnClock := by
  obtain ⟨c, cs, htext, -⟩ := z.exists_text
  have hrest : p.text ++ z.text ≠ [] := by simp [htext]
  have hdate : readFields datePattern (w.dated (mark :: w.clocked (p.text ++ z.text))) = none := by
    rw [readFields_date_figures, if_neg (List.cons_ne_nil _ _)]
  have hlocal : readFields localPattern (w.dated (mark :: w.clocked (p.text ++ z.text))) = none := by
    by_cases hT : mark = 'T'
    · rw [hT, readFields_local_figures, if_neg hrest]
    · exact readFields_local_of_ne w fun c hc => Option.some.inj hc ▸ hT
  simp only [Instant.ofQuery?, Figures.fullText, String.toList_ofList, readInstant, hdate, hlocal, Option.bind_none]
  rcases readFields_full_figures w hmark p z with hfull | ⟨hfull, hzone⟩
  · left
    rw [hfull]
    simp
  · right
    rw [hfull]
    exact ⟨rfl, hzone⟩

private theorem ofQuery?_localText : Instant.ofQuery? w.localText = (w.fields 0 none).instant? := by
  have hdate : readFields datePattern (w.dated ('T' :: w.clocked [])) = none := by
    rw [readFields_date_figures, if_neg (List.cons_ne_nil _ _)]
  have hlocal := readFields_local_figures w []
  rw [if_pos rfl] at hlocal
  simp only [Instant.ofQuery?, Figures.localText, String.toList_ofList, readInstant, hdate, hlocal,
    (readFields_full_short w).2, Option.bind_none, Option.bind_some]
  simp

private theorem ofQuery?_dateText : Instant.ofQuery? w.dateText = (w.midnight.fields 0 none).instant? := by
  have hdate := readFields_date_figures w []
  rw [if_pos rfl] at hdate
  have hlocal : readFields localPattern (w.dated []) = none := readFields_local_of_ne w (by simp)
  simp only [Instant.ofQuery?, Figures.dateText, String.toList_ofList, readInstant, hdate, hlocal,
    (readFields_full_short w).1, Option.bind_none, Option.bind_some]
  simp

private theorem localText_append : w.localText ++ "Z" = w.fullText 'T' .none .utc := by
  rw [← String.toList_inj, String.toList_append]
  simp [Figures.localText, Figures.fullText, Figures.dated, Figures.clocked, Fraction.none, Fraction.text, Zone.text]

private theorem dateText_append : w.dateText ++ "T00:00:00Z" = w.midnight.fullText 'T' .none .utc := by
  have hzero : padded 2 0 = ['0', '0'] := by decide
  rw [← String.toList_inj, String.toList_append]
  simp [Figures.dateText, Figures.fullText, Figures.dated, Figures.clocked, Figures.midnight, Fraction.none,
    Fraction.text, Zone.text, hzero]

end Query

/-! ### The order of texts -/

namespace Figures

variable {w v : Figures} {t u : Instant}

/-- What names an instant is a date and a time, and denotes it. -/
private theorem denotes_of_instant? (h : (w.fields 0 none).instant? = some t) :
    w.date.Valid ∧ w.OnClock ∧ w.Denotes 0 0 t := by
  have hboth : w.date.Valid ∧ w.OnClock := by
    by_contra hnot
    rw [instant?_eq_none w hnot] at h
    cases h
  obtain ⟨t', hsome, hdenotes⟩ :=
    w.exists_instant? hboth.1 hboth.2 0 none (by decide) (by decide)
  obtain rfl : t' = t := Option.some.inj (hsome.symm.trans h)
  exact ⟨hboth.1, hboth.2, hdenotes⟩

/-- The smaller year, or else the smaller month, and so on down to the seconds. -/
private def Before (w v : Figures) : Prop :=
  w.year.val < v.year.val ∨ w.year.val = v.year.val ∧
    (w.month.val < v.month.val ∨ w.month.val = v.month.val ∧
      (w.day.val < v.day.val ∨ w.day.val = v.day.val ∧
        (w.hour.val < v.hour.val ∨ w.hour.val = v.hour.val ∧
          (w.minute.val < v.minute.val ∨ w.minute.val = v.minute.val ∧ w.second.val < v.second.val))))

/-- Figures that name an earlier instant come before. -/
private theorem before_of_lt (hw : (w.fields 0 none).instant? = some t) (hv : (v.fields 0 none).instant? = some u)
    (h : t < u) : w.Before v := by
  obtain ⟨hdate, ⟨hhour, hminute, hsecond⟩, hseconds, hnanos⟩ := denotes_of_instant? hw
  obtain ⟨hdate', ⟨hhour', hminute', hsecond'⟩, hseconds', hnanos'⟩ := denotes_of_instant? hv
  rw [← w.toDay_date hdate] at hseconds
  rw [← v.toDay_date hdate'] at hseconds'
  rw [Instant.lt_iff] at h
  unfold Before
  rcases Int.lt_trichotomy w.date.toDay v.date.toDay with hlt | heq | hgt
  · have hparts := hdate.lt_of_toDay_lt hdate' hlt
    simp only [date] at hparts
    omega
  · have hsame := hdate.eq_of_toDay_eq hdate' heq
    simp only [date, Date.mk.injEq] at hsame
    split at hnanos <;> split at hnanos' <;> omega
  · split at hnanos <;> split at hnanos' <;> omega

/-- An instant has its figures only. -/
private theorem eq_of_instant? (hw : (w.fields 0 none).instant? = some t) (hv : (v.fields 0 none).instant? = some t) :
    w = v := by
  obtain ⟨hdate, ⟨hhour, hminute, hsecond⟩, hseconds, hnanos⟩ := denotes_of_instant? hw
  obtain ⟨hdate', ⟨hhour', hminute', hsecond'⟩, hseconds', hnanos'⟩ := denotes_of_instant? hv
  rw [← w.toDay_date hdate] at hseconds
  rw [← v.toDay_date hdate'] at hseconds'
  have hday : w.date.toDay = v.date.toDay := by
    split at hnanos <;> split at hnanos' <;> omega
  have hsame := hdate.eq_of_toDay_eq hdate' hday
  simp only [date, Date.mk.injEq] at hsame
  have hclock : w.hour.val = v.hour.val ∧ w.minute.val = v.minute.val ∧ w.second.val = v.second.val := by
    split at hnanos <;> split at hnanos' <;> omega
  cases w
  cases v
  simp only [mk.injEq, Fin.ext_iff]
  simp only at hsame hclock
  omega

/-- Dates are in the order of their figures, and equal ones in the order of what follows. -/
private theorem dated_lt {xs ys : List Char}
    (h : w.year.val < v.year.val ∨ w.year.val = v.year.val ∧
      (w.month.val < v.month.val ∨ w.month.val = v.month.val ∧
        (w.day.val < v.day.val ∨ w.day.val = v.day.val ∧ xs < ys))) : w.dated xs < v.dated ys := by
  refine Numeral.padded_append_lt (by decide) w.year.isLt v.year.isLt (h.imp_right fun hyear => ⟨hyear.1, ?_⟩)
  refine List.cons_lt_cons_self.2 (Numeral.padded_append_lt (by decide) w.month.isLt v.month.isLt
    (hyear.2.imp_right fun hmonth => ⟨hmonth.1, ?_⟩))
  exact List.cons_lt_cons_self.2 (Numeral.padded_append_lt (by decide) w.day.isLt v.day.isLt hmonth.2)

private theorem localText_lt (h : w.Before v) : w.localText < v.localText := by
  have hclock : w.hour.val < v.hour.val ∨ w.hour.val = v.hour.val ∧
      (w.minute.val < v.minute.val ∨ w.minute.val = v.minute.val ∧ w.second.val < v.second.val) →
      'T' :: w.clocked [] < 'T' :: v.clocked [] := by
    intro h
    refine List.cons_lt_cons_self.2 (Numeral.padded_append_lt (by decide) w.hour.isLt v.hour.isLt
      (h.imp_right fun hhour => ⟨hhour.1, ?_⟩))
    refine List.cons_lt_cons_self.2 (Numeral.padded_append_lt (by decide) w.minute.isLt v.minute.isLt
      (hhour.2.imp_right fun hminute => ⟨hminute.1, ?_⟩))
    exact List.cons_lt_cons_self.2 (Numeral.padded_append_lt (by decide) w.second.isLt v.second.isLt (.inl hminute.2))
  have hless := dated_lt (h.imp_right (And.imp_right (Or.imp_right (And.imp_right (Or.imp_right (And.imp_right hclock))))))
  rw [← String.toList_ofList (l := w.dated _), ← String.toList_ofList (l := v.dated _)] at hless
  exact hless

private theorem dateText_lt (h : w.midnight.Before v.midnight) : w.dateText < v.dateText := by
  have hdate : w.year.val < v.year.val ∨ w.year.val = v.year.val ∧
      (w.month.val < v.month.val ∨ w.month.val = v.month.val ∧
        (w.day.val < v.day.val ∨ w.day.val = v.day.val ∧ ([] : List Char) < [])) := by
    simp only [Before, midnight] at h
    simpa using h
  have hless := dated_lt hdate
  rw [← String.toList_ofList (l := w.dated _), ← String.toList_ofList (l := v.dated _)] at hless
  exact hless

/-- An order of texts that follows the order of what they name is that order. -/
private theorem text_lt_iff {a b : String} (hlt : t < u → a < b) (heq : t = u → a = b) (hgt : u < t → b < a) :
    a < b ↔ t < u := by
  refine ⟨fun htext => ?_, hlt⟩
  by_contra hnot
  by_cases hless : u < t
  · exact String.lt_asymm htext (hgt hless)
  · have hsame : t = u := Instant.le_antisymm (Instant.not_lt.1 hless) (Instant.not_lt.1 hnot)
    exact String.lt_irrefl a (heq hsame ▸ htext)

/-- A date and a time with an offset are read as the instant that they denote.  A time without an offset is read as it is
with a Z behind it, and a date alone as its midnight.  Figures that calendar or clock do not have are not read in any
form, and the texts of dates alone, and of times without an offset, are in the order of their instants. -/
theorem query_dates_denote (w v : Figures) :
    (∀ mark ∈ ['T', 't', ' '], ∀ (p : Fraction) (z : Zone),
      w.date.Valid → w.OnClock → z.OnClock →
        ∃ t, Instant.ofQuery? (w.fullText mark p z) = some t ∧ w.Denotes p.nanos z.offset t) ∧
    Instant.ofQuery? w.localText = Instant.ofQuery? (w.localText ++ "Z") ∧
    Instant.ofQuery? w.dateText = Instant.ofQuery? (w.dateText ++ "T00:00:00Z") ∧
    (¬w.date.Valid → Instant.ofQuery? w.dateText = none) ∧
    (¬(w.date.Valid ∧ w.OnClock) →
      Instant.ofQuery? w.localText = none ∧
        ∀ mark ∈ ['T', 't', ' '], ∀ (p : Fraction) (z : Zone), Instant.ofQuery? (w.fullText mark p z) = none) ∧
    (∀ t u, Instant.ofQuery? w.dateText = some t → Instant.ofQuery? v.dateText = some u →
      (w.dateText < v.dateText ↔ t < u)) ∧
    (∀ t u, Instant.ofQuery? w.localText = some t → Instant.ofQuery? v.localText = some u →
      (w.localText < v.localText ↔ t < u)) := by
  refine ⟨?_, ?_, ?_, ?_, ?_, ?_, ?_⟩
  · intro mark hmark p z hdate hclock hzone
    obtain ⟨t, hsome, hdenotes⟩ :=
      w.exists_instant? hdate hclock p.nanos (some z.offset) p.nanos_lt (Zone.offset_bounds hzone)
    -- a full text is read by its figures, unless its zone is on no clock
    rcases ofQuery?_fullText w hmark p z with hread | ⟨-, hnot⟩
    · exact ⟨t, hread.trans hsome, hdenotes⟩
    · exact absurd hzone hnot
  · rw [localText_append, ofQuery?_localText]
    rcases ofQuery?_fullText w (by decide : 'T' ∈ ['T', 't', ' ']) .none .utc with hread | ⟨-, hnot⟩
    · exact hread.symm
    · exact absurd trivial hnot
  · rw [dateText_append, ofQuery?_dateText]
    rcases ofQuery?_fullText w.midnight (by decide : 'T' ∈ ['T', 't', ' ']) .none .utc with hread | ⟨-, hnot⟩
    · exact hread.symm
    · exact absurd trivial hnot
  · intro hdate
    rw [ofQuery?_dateText]
    exact instant?_eq_none w.midnight (fun h => hdate h.1) 0 none
  · intro h
    refine ⟨by rw [ofQuery?_localText]; exact instant?_eq_none w h 0 none, ?_⟩
    intro mark hmark p z
    rcases ofQuery?_fullText w hmark p z with hread | ⟨hnone, -⟩
    · rw [hread]
      exact instant?_eq_none w h p.nanos (some z.offset)
    · exact hnone
  · intro t u ht hu
    rw [ofQuery?_dateText] at ht hu
    refine text_lt_iff (fun h => dateText_lt (before_of_lt ht hu h)) ?_ (fun h => dateText_lt (before_of_lt hu ht h))
    rintro rfl
    have hdate : w.midnight.dateText = v.midnight.dateText := by rw [eq_of_instant? ht hu]
    exact hdate
  · intro t u ht hu
    rw [ofQuery?_localText] at ht hu
    refine text_lt_iff (fun h => localText_lt (before_of_lt ht hu h)) ?_ (fun h => localText_lt (before_of_lt hu ht h))
    rintro rfl
    rw [eq_of_instant? ht hu]

private def halfSecond : Fraction := ⟨['5'], List.all_eq_true.1 (by decide), by decide⟩

/-- Half an hour into the year an hour ahead of universal time it is still the old year; a year that is no leap year has
no 29 February, and so no text that writes one names anything; and the old year comes before the new one. -/
theorem query_dates_denote_new_year :
    (∃ t, Instant.ofQuery? "2024-01-01T00:30:00.5+01:00" = some t ∧ t.seconds = 1704065400 ∧ t.nanos = 500000000) ∧
      Instant.ofQuery? "2023-02-29" = none ∧ Instant.ofQuery? "2023-02-29T12:00:00" = none ∧
      ∃ t u, Instant.ofQuery? "2023-12-31" = some t ∧ Instant.ofQuery? "2024-01-01" = some u ∧ t < u := by
  obtain ⟨hfull, -⟩ := query_dates_denote ⟨2024, 1, 1, 0, 30, 0⟩ ⟨2023, 12, 31, 0, 0, 0⟩
  obtain ⟨-, -, -, hnone, hnone', -⟩ := query_dates_denote ⟨2023, 2, 29, 12, 0, 0⟩ ⟨2023, 12, 31, 0, 0, 0⟩
  obtain ⟨-, -, -, -, -, horder, -⟩ := query_dates_denote ⟨2023, 12, 31, 0, 0, 0⟩ ⟨2024, 1, 1, 0, 30, 0⟩
  refine ⟨?_, ?_, ?_, ?_⟩
  · obtain ⟨t, hsome, hseconds, hnanos⟩ := hfull 'T' (by decide) halfSecond (.numbers false 1 0) (by decide) (by decide)
      (by decide)
    rw [← toDay_date _ (by decide)] at hseconds
    have htext : (⟨2024, 1, 1, 0, 30, 0⟩ : Figures).fullText 'T' halfSecond (.numbers false 1 0) =
        "2024-01-01T00:30:00.5+01:00" := by decide +kernel
    have hday : (⟨2024, 1, 1, 0, 30, 0⟩ : Figures).date.toDay = 19723 := by decide
    rw [htext] at hsome
    rw [hday] at hseconds
    exact ⟨t, hsome, hseconds.trans (by decide), hnanos.trans (by decide)⟩
  · have htext : (⟨2023, 2, 29, 12, 0, 0⟩ : Figures).dateText = "2023-02-29" := by decide +kernel
    exact htext ▸ hnone (by decide)
  · have htext : (⟨2023, 2, 29, 12, 0, 0⟩ : Figures).localText = "2023-02-29T12:00:00" := by decide +kernel
    exact htext ▸ (hnone' (by decide)).1
  · have hold : (⟨2023, 12, 31, 0, 0, 0⟩ : Figures).dateText = "2023-12-31" := by decide +kernel
    have hnew : (⟨2024, 1, 1, 0, 30, 0⟩ : Figures).dateText = "2024-01-01" := by decide +kernel
    obtain ⟨t, ht, -⟩ := exists_instant? ⟨2023, 12, 31, 0, 0, 0⟩ (by decide) (by decide) 0 none (by decide) (by decide)
    obtain ⟨u, hu, -⟩ := exists_instant? ⟨2024, 1, 1, 0, 0, 0⟩ (by decide) (by decide) 0 none (by decide) (by decide)
    have hread := (ofQuery?_dateText ⟨2023, 12, 31, 0, 0, 0⟩).trans ht
    have hread' := (ofQuery?_dateText ⟨2024, 1, 1, 0, 30, 0⟩).trans hu
    have hless := (horder t u hread hread').1 (by rw [hold, hnew]; decide)
    exact ⟨t, u, hold ▸ hread, hnew ▸ hread', hless⟩

end Figures

end WorkspaceSearch.Time
