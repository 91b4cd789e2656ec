import WorkspaceSearch.Text.Numeral
import WorkspaceSearch.Time.Instant

/-!
# Writing instants

An instant is written as a date, a T and a time of universal time, with the shortest of no, three, six or nine digits
of fraction that is exact.  A leap second is the 60th second.  Years outside 0 to 9999 have a sign.

Documents end the text with a Z (`Instant.toText`), stored timestamps with the offset in numbers
(`Instant.toStored`).
-/

namespace WorkspaceSearch

namespace Time

/-- A year: four digits, or a sign and at least four digits. -/
def renderYear (year : Int) : List Char :=
  if 0 ≤ year ∧ year ≤ 9999 then Numeral.padded 4 year.toNat
  else (if year < 0 then '-' else '+') :: Numeral.padded 4 year.natAbs

/-- Year, month and day with dashes. -/
def renderDate (d : Date) : List Char :=
  renderYear d.year ++ '-' :: Numeral.padded 2 d.month ++ '-' :: Numeral.padded 2 d.day

/-- Hours, minutes and seconds of a second of the day, `extra` seconds added to the last number. -/
def renderClock (secondOfDay extra : Nat) : List Char :=
  Numeral.padded 2 (secondOfDay / 3600) ++ ':' :: Numeral.padded 2 (secondOfDay / 60 % 60) ++
    ':' :: Numeral.padded 2 (secondOfDay % 60 + extra)

/-- A fraction of a second, in groups of three digits and no more of them than needed. -/
def renderFraction (nanos : Nat) : List Char :=
  if nanos = 0 then []
  else if nanos % 1000000 = 0 then '.' :: Numeral.padded 3 (nanos / 1000000)
  else if nanos % 1000 = 0 then '.' :: Numeral.padded 6 (nanos / 1000)
  else '.' :: Numeral.padded 9 nanos

end Time

namespace Instant

open Time

/-- The day of the instant, counted from 1970-01-01. -/
def day (t : Instant) : Int := t.seconds / 86400

/-- The second of its day. -/
def secondOfDay (t : Instant) : Nat := (t.seconds % 86400).toNat

/-- Date and time, without an offset. -/
def renderLocal (t : Instant) : List Char :=
  renderDate (Date.ofDay t.day) ++ 'T' :: renderClock t.secondOfDay (t.nanos / 1000000000) ++
    renderFraction (t.nanos % 1000000000)

/-- The text of an instant in a document. -/
def toText (t : Instant) : String := .ofList (t.renderLocal ++ ['Z'])

/-- The text of an instant in a table. -/
def toStored (t : Instant) : String := .ofList (t.renderLocal ++ "+00:00".toList)

/-- The text of the clock reading that a table fills in by itself: date and time to the second. -/
def toDefaultStamp (t : Instant) : String :=
  .ofList (renderDate (Date.ofDay t.day) ++ ' ' :: renderClock t.secondOfDay 0)

end Instant

end WorkspaceSearch
