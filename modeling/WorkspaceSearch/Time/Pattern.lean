import WorkspaceSearch.Text.Blank
import WorkspaceSearch.Text.Numeral
import WorkspaceSearch.Time.Instant

/-!
# Patterns of written dates

A pattern is a list of pieces, read from left to right: numbers, marks, blanks, a fraction of a second and an offset.
Reading a text by a pattern fills in the fields of a date, and nothing of the text may be left over.

The fields then name an instant (`Fields.instant?`) when the calendar has the date and the clock the time.  A 60th
second is the leap second after the 59th, in any minute.
-/

namespace WorkspaceSearch.Time

-- the powers of the core library, whatever else is in scope
attribute [local instance (2000)] instPowNat Rat.instPowNat

/-- A number of two digits in a written date. -/
inductive Slot where
  | month
  | day
  | hour
  | minute
  | second
  deriving DecidableEq, Repr

/-- What has been read of a written date. -/
structure Fields where
  year : Int := 0
  month : Nat := 0
  day : Nat := 0
  hour : Nat := 0
  minute : Nat := 0
  second : Nat := 0
  nanos : Nat := 0
  /-- Minutes by which the written time is ahead of universal time. -/
  offset : Option Int := none
  deriving DecidableEq, Repr, Inhabited

/-- Fills in a number. -/
def Fields.put (f : Fields) (slot : Slot) (n : Nat) : Fields :=
  match slot with
  | .month => { f with month := n }
  | .day => { f with day := n }
  | .hour => { f with hour := n }
  | .minute => { f with minute := n }
  | .second => { f with second := n }

/-- The instant the fields name; without an offset the time is universal time. -/
def Fields.instant? (f : Fields) : Option Instant :=
  let date : Date := ⟨f.year, f.month, f.day⟩
  let offset := f.offset.getD 0
  if date.Valid ∧ -262143 ≤ f.year ∧ f.year ≤ 262142 ∧ f.hour ≤ 23 ∧ f.minute ≤ 59 ∧ f.second ≤ 60 ∧
      -1440 < offset ∧ offset < 1440 then
    let second := min f.second 59
    let leap := if f.second = 60 then 1000000000 else 0
    Instant.ofParts? (date.toDay * 86400 + f.hour * 3600 + f.minute * 60 + second - offset * 60) (f.nanos + leap)
  else none

/-- How the offset from universal time may be written. -/
inductive OffsetForm where
  /-- The letter Z, or hours and minutes with a colon between them. -/
  | strict
  /-- The letter Z, the letters UTC, or hours and minutes with colons, blanks or nothing between them. -/
  | loose
  /-- Hours and minutes with colons, blanks or nothing between them. -/
  | numbers
  deriving DecidableEq, Repr

/-- A piece of a pattern. -/
inductive Piece where
  /-- A year of exactly four digits. -/
  | fullYear
  /-- A year after blanks: up to four digits, or a sign and any number of digits. -/
  | year
  /-- A number of exactly two digits. -/
  | full (slot : Slot)
  /-- A number of one or two digits after blanks. -/
  | short (slot : Slot)
  /-- A point and one or more digits, of which nine count; or nothing. -/
  | fraction
  /-- Any number of blanks. -/
  | blanks
  /-- A character that stands for itself. -/
  | mark (c : Char)
  /-- What separates the date from the time: a T of either case, or a space. -/
  | timeMark
  | offset (form : OffsetForm)
  deriving DecidableEq, Repr

/-- Reads the digits at the front, at least `least` and at most `most`. -/
def readDigits (least most : Nat) (cs : List Char) : Option (Nat × List Char) :=
  let ds := (cs.take most).takeWhile Numeral.isDigit
  if ds.length < least then none else some (Numeral.value 0 ds, cs.drop ds.length)

/-- Reads all digits at the front, at least one. -/
def readAllDigits (cs : List Char) : Option (Nat × List Char) := readDigits 1 cs.length cs

/-- Reads a year of one to four digits, or of any number of digits after a sign. -/
def readYear (cs : List Char) : Option (Int × List Char) :=
  match Chars.trimStart cs with
  | '-' :: rest => (readAllDigits rest).map fun (n, rest) => (-(n : Int), rest)
  | '+' :: rest => (readAllDigits rest).map fun (n, rest) => ((n : Int), rest)
  | rest => (readDigits 1 4 rest).map fun (n, rest) => ((n : Int), rest)

/-- Reads a fraction of a second as nanoseconds. -/
def readFraction (cs : List Char) : Option (Nat × List Char) :=
  match cs with
  | '.' :: rest =>
    let ds := rest.takeWhile Numeral.isDigit
    if ds = [] then none
    else
      let kept := ds.take 9
      some (Numeral.value 0 kept * 10 ^ (9 - kept.length), rest.drop ds.length)
  | _ => some (0, cs)

/-- The sign of an offset: 1 ahead of universal time, -1 behind it. -/
def offsetSign? (c : Char) : Option Int :=
  if c = '+' then some 1 else if c = '-' || c = '−' then some (-1) else none

/-- Whether a character may stand between the hours and the minutes of a loosely written offset. -/
def isOffsetSeparator (c : Char) : Bool := c == ':' || Chars.isBlank c

/-- Reads an offset of hours and minutes, as minutes. -/
def readOffsetNumbers (strict : Bool) (cs : List Char) : Option (Int × List Char) := do
  let c :: rest := cs | none
  let sign ← offsetSign? c
  let (hours, rest) ← readDigits 2 2 rest
  let rest ←
    if strict then (match rest with | ':' :: rest => some rest | _ => none)
    else some (rest.dropWhile isOffsetSeparator)
  let (minutes, rest) ← readDigits 2 2 rest
  if minutes ≤ 59 then some (sign * (hours * 60 + minutes), rest) else none

/-- Reads an offset, as minutes ahead of universal time. -/
def readOffset (form : OffsetForm) (cs : List Char) : Option (Int × List Char) :=
  match form, cs with
  | .numbers, cs => readOffsetNumbers false (Chars.trimStart cs)
  | .strict, c :: rest => if c = 'Z' || c = 'z' then some (0, rest) else readOffsetNumbers true cs
  | .loose, c :: rest =>
    match cs with
    | u :: t :: k :: after =>
      if (u = 'U' || u = 'u') && (t = 'T' || t = 't') && (k = 'C' || k = 'c') then some (0, after)
      else if c = 'Z' || c = 'z' then some (0, rest)
      else readOffsetNumbers false cs
    | _ => if c = 'Z' || c = 'z' then some (0, rest) else readOffsetNumbers false cs
  | _, [] => none

/-- Reads one piece at the front of a text. -/
def Piece.read (p : Piece) (f : Fields) (cs : List Char) : Option (Fields × List Char) :=
  match p with
  | .fullYear => (readDigits 4 4 cs).map fun (n, rest) => ({ f with year := n }, rest)
  | .year => (readYear cs).map fun (y, rest) => ({ f with year := y }, rest)
  | .full slot => (readDigits 2 2 cs).map fun (n, rest) => (f.put slot n, rest)
  | .short slot => (readDigits 1 2 (Chars.trimStart cs)).map fun (n, rest) => (f.put slot n, rest)
  | .fraction => (readFraction cs).map fun (n, rest) => ({ f with nanos := n }, rest)
  | .blanks => some (f, Chars.trimStart cs)
  | .mark c =>
    match cs with
    | d :: rest => if d = c then some (f, rest) else none
    | [] => none
  | .timeMark =>
    match cs with
    | d :: rest => if d = 'T' || d = 't' || d = ' ' then some (f, rest) else none
    | [] => none
  | .offset form => (readOffset form cs).map fun (m, rest) => ({ f with offset := some m }, rest)

/-- Reads the pieces of a pattern one after the other. -/
def readPieces : List Piece → Fields → List Char → Option (Fields × List Char)
  | [], f, cs => some (f, cs)
  | p :: ps, f, cs => (p.read f cs).bind fun (f, rest) => readPieces ps f rest

/-- Reads a whole text by a pattern. -/
def readFields (pattern : List Piece) (cs : List Char) : Option Fields :=
  match readPieces pattern {} cs with
  | some (f, []) => some f
  | _ => none

end WorkspaceSearch.Time
