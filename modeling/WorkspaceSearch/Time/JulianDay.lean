import WorkspaceSearch.Number.Scientific
import WorkspaceSearch.Text.LowerCase
import WorkspaceSearch.Text.Terminated

/-!
# Julian days

The time scale on which stored timestamps are compared: milliseconds of the Julian day count, which starts at noon of
24 November -4713.  A timestamp is a date of four, two and two digits, and after blanks or a T a time with optional
seconds, fraction and offset; a time alone is one of the first day of 2000.  A number is a count of days, and a few words
name the present.

The reader is looser than the calendar: any month has 31 days, the surplus running on into the next month, an hour may
be the 24th, and there is no 60th second.  Nothing is read behind a character NUL.  Seconds and their fraction are
computed in the double precision and then rounded to the nearest millisecond, a half going up.
-/

namespace WorkspaceSearch.JulianDay

open Numeral (readField readMark)

/-- Reads the offset that ends a timestamp, as minutes ahead of universal time. -/
def readZone (cs : List Char) : Option Int := do
  let cs := cs.dropWhile Chars.isAsciiBlank
  let (sign, rest) ←
    match cs with
    | [] => return 0
    | '-' :: rest => some (-1, rest)
    | '+' :: rest => some (1, rest)
    | c :: rest => if (c = 'Z' || c = 'z') && rest.all Chars.isAsciiBlank then return 0 else none
  let (hours, rest) ← readField 2 0 14 rest
  let rest ← readMark ':' rest
  let (minutes, rest) ← readField 2 0 59 rest
  if rest.all Chars.isAsciiBlank then some ((sign : Int) * ((hours * 60 + minutes : Nat) : Int)) else none

/-- The nearest number of the double precision. -/
def double (x : Rat) : Rat := Precision.double.round x

/-- Puts a digit behind a number.  The digit is added by its character code, and the code of zero is taken off again. -/
def appendDigit (n : Rat) (c : Char) : Rat := double (double (double (n * 10) + c.toNat) - 48)

/-- The fraction that digits behind a point stand for. -/
def fractionOf (ds : List Char) : Rat :=
  let scale := ds.foldl (fun scale _ => double (scale * 10)) 1
  double (ds.foldl appendDigit 0 / scale)

/-- The whole number nearest to a number that is not negative, computed in the double precision; a half goes up. -/
def roundUp (x : Rat) : Int := truncate (double (x + 1 / 2))

/-- The milliseconds of seconds with a fraction. -/
def roundMillis (second : Nat) (fraction : List Char) : Int :=
  roundUp (double (double (second + fractionOf fraction) * 1000))

/-- Reads seconds and their fraction, as milliseconds; without seconds there is nothing to read. -/
def readSeconds (cs : List Char) : Option (Int × List Char) :=
  match cs with
  | ':' :: rest => do
    let (second, rest) ← readField 2 0 59 rest
    match rest with
    | '.' :: after =>
      let ds := after.takeWhile Numeral.isDigit
      if ds = [] then some (second * 1000, rest) else some (roundMillis second ds, after.drop ds.length)
    | _ => some (second * 1000, rest)
  | _ => some (0, cs)

/-- Reads the time of day and the offset that end a timestamp, as milliseconds of universal time. -/
def readTime (cs : List Char) : Option Int := do
  let (hour, rest) ← readField 2 0 24 cs
  let rest ← readMark ':' rest
  let (minute, rest) ← readField 2 0 59 rest
  let (millis, rest) ← readSeconds rest
  let zone ← readZone rest
  some (hour * 3600000 + minute * 60000 + millis - zone * 60000)

/-- The milliseconds of a day. -/
def dayMillis : Int := 86400000

/-- The milliseconds from the start of the count to midnight of a day of a month of 31 days.  Centuries are counted
towards the year zero, from March to March. -/
def ofDate (year : Int) (month day : Nat) : Int :=
  let (y, m) : Int × Int := if month ≤ 2 then (year - 1, month + 12) else (year, month)
  let century := y.tdiv 100
  let leap := 2 - century + century.tdiv 4
  let days := (36525 * (y + 4716)) / 100 + (306001 * (m + 1)) / 10000 + day + leap
  days * dayMillis - 1524 * dayMillis - dayMillis / 2

/-- The last millisecond of the year 9999. -/
def last : Int := 464269060799999

/-- The millisecond, if the count has it. -/
def inRange (millis : Int) : Option Int := if 0 ≤ millis ∧ millis ≤ last then some millis else none

/-- Reads a date and the time behind it. -/
def readDate (cs : List Char) : Option Int := do
  let (negative, cs) := match cs with | '-' :: rest => (true, rest) | cs => (false, cs)
  let (year, rest) ← readField 4 0 9999 cs
  let rest ← readMark '-' rest
  let (month, rest) ← readField 2 1 12 rest
  let rest ← readMark '-' rest
  let (day, rest) ← readField 2 1 31 rest
  let rest := rest.dropWhile fun c => Chars.isAsciiBlank c || c == 'T'
  let time ← if rest = [] then some 0 else readTime rest
  let year : Int := if negative then -year else year
  if -4713 ≤ year then inRange (ofDate year month day + time) else none

/-- Reads a time of the first day of 2000. -/
def readTimeAlone (cs : List Char) : Option Int := (readTime cs).bind fun time => inRange (ofDate 2000 1 1 + time)

/-- The first number of days that is too great. -/
def daysLimit : Rat := 10746969 / 2

/-- The Julian day of a stored number, in milliseconds. -/
def ofNumber? (days : Rat) : Option Int :=
  let days := double days
  if 0 ≤ days ∧ days < daysLimit then inRange (roundUp (double (days * dayMillis))) else none

/-- The words that name the present. -/
def presentWords : List String := ["now", "subsec", "subsecond"]

/-- The present as other times are compared with it.  No clock is read for it: it is the start of 2027. -/
def present : Int := ofDate 2027 1 1

/-- Reads a word that names the present. -/
def readPresent (cs : List Char) : Option Int :=
  if presentWords.contains (Text.asciiLower (.ofList cs)) then some present else none

/-- The Julian day of a stored timestamp, in milliseconds. -/
def ofText? (text : String) : Option Int :=
  let cs := Chars.beforeNul text.toList
  readDate cs <|> readTimeAlone cs <|> readPresent cs <|> (Scientific.ofChars? cs).bind fun s => ofNumber? s.value

end WorkspaceSearch.JulianDay
