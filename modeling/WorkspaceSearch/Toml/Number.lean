import WorkspaceSearch.Number.Decimal
import WorkspaceSearch.Time.Calendar
import WorkspaceSearch.Toml.Quoted
import WorkspaceSearch.Toml.Value

/-!
# Numbers and dates of TOML documents

A number is whole, in decimal, hexadecimal, octal or binary, or it has a fraction or an exponent; single underscores may
stand between digits.  Whole numbers fit into 64 bits with a sign, and other numbers must not be larger than the largest
finite number of that size.  A date, a time of day or both are numbers of fixed width with marks between them.
-/

namespace WorkspaceSearch.Toml

open Numeral (hexValue? takeSign readField readMark)

-- the powers of the core library, whatever else is in scope
attribute [local instance (2000)] instPowNat Rat.instPowNat

/-- Reads digits with single underscores between them, at least one digit. -/
def readDigits (digit? : Char → Option Nat) : List Char → Option (List Char × List Char)
  | [] => none
  | c :: rest =>
    if (digit? c).isNone then none
    else
      match rest with
      | '_' :: rest' => (readDigits digit? rest').map fun (ds, rest) => (c :: ds, rest)
      | rest =>
        match readDigits digit? rest with
        | some (ds, rest) => some (c :: ds, rest)
        | none => if rest.head?.any fun d => (digit? d).isSome then none else some ([c], rest)

/-- The number of some digits. -/
def digitsValue (base : Nat) (ds : List Char) : Nat := ds.foldl (fun n c => n * base + (hexValue? c).getD 0) 0

/-- Reads the digits of a decimal number in front of the point; several of them do not start with zero. -/
def readWhole (cs : List Char) : Option (List Char × List Char) :=
  match cs with
  | '0' :: rest => some (['0'], rest)
  | cs => readDigits Numeral.digit? cs

/-- The digits of a base. -/
def baseDigit? (base : Nat) (c : Char) : Option Nat := (hexValue? c).filter (· < base)

/-- Reads a whole number of a base behind its mark. -/
def readBased (base : Nat) (cs : List Char) : Option (Value × List Char) := do
  let (ds, rest) ← readDigits (baseDigit? base) cs
  let n : Int := digitsValue base ds
  if Numeral.Range.integer64.holds n then some (.integer n, rest) else none

/-- Reads a whole number. -/
def readInteger (cs : List Char) : Option (Value × List Char) :=
  match cs with
  | '0' :: 'x' :: rest => readBased 16 rest
  | '0' :: 'o' :: rest => readBased 8 rest
  | '0' :: 'b' :: rest => readBased 2 rest
  | cs => do
    let (negative, rest) := takeSign cs
    let (ds, rest) ← readWhole rest
    let n : Int := digitsValue 10 ds
    let n := if negative then -n else n
    if Numeral.Range.integer64.holds n then some (.integer n, rest) else none

/-- The least number that is too large for a number with 53 binary digits and an exponent of eleven. -/
def floatLimit : Nat := 2 ^ (1024 : Nat) - 2 ^ (970 : Nat)

/-- Whether a number is too large.  Numbers with more than 400 digits are, and with fewer than 300 they are not. -/
def isTooLarge (d : Decimal) : Bool :=
  let width : Int := (Numeral.digits d.digits).length + d.exponent
  if d.digits = 0 ∨ width < 300 then false
  else if 400 < width then true
  else Decimal.le ⟨false, floatLimit, 0⟩ ⟨false, d.digits, d.exponent⟩

/-- Reads a fraction, or nothing. -/
def readFraction : List Char → Option (List Char × List Char)
  | '.' :: rest => readDigits Numeral.digit? rest
  | cs => some ([], cs)

/-- Reads an exponent, or nothing. -/
def readExponent : List Char → Option (Option Int × List Char)
  | c :: rest =>
    if c = 'e' || c = 'E' then do
      let (negative, rest) := takeSign rest
      let (ds, rest) ← readDigits Numeral.digit? rest
      let n : Int := digitsValue 10 ds
      some (some (if negative then -n else n), rest)
    else some (none, c :: rest)
  | [] => some (none, [])

/-- The text in front of what is left of it. -/
def consumed (cs rest : List Char) : String := .ofList (cs.take (cs.length - rest.length))

/-- Reads a number with a fraction, an exponent or both, or one of the two words for numbers that are none. -/
def readFloat (cs : List Char) : Option (Value × List Char) :=
  let (negative, start) := takeSign cs
  match start with
  | 'i' :: 'n' :: 'f' :: rest => some (.float (consumed cs rest), rest)
  | 'n' :: 'a' :: 'n' :: rest => some (.float (consumed cs rest), rest)
  | start => do
    let (whole, rest) ← readWhole start
    let (fraction, rest) ← readFraction rest
    let (exponent, rest) ← readExponent rest
    if fraction = [] ∧ exponent = none then none
    let d : Decimal := ⟨false, digitsValue 10 (whole ++ fraction), exponent.getD 0 - fraction.length⟩
    if !negative && isTooLarge d then none else some (.float (consumed cs rest), rest)

/-! ### Dates -/

/-- Reads a date of the calendar; the answer is the text behind it. -/
def readDate (cs : List Char) : Option (List Char) := do
  let (year, rest) ← readField 4 0 9999 cs
  let rest ← readMark '-' rest
  let (month, rest) ← readField 2 1 12 rest
  let rest ← readMark '-' rest
  let (_, rest) ← readField 2 1 (Date.daysInMonth year month) rest
  some rest

/-- Reads a time of day; the answer is the text behind it. -/
def readTime (cs : List Char) : Option (List Char) := do
  let (_, rest) ← readField 2 0 23 cs
  let rest ← readMark ':' rest
  let (_, rest) ← readField 2 0 59 rest
  let rest ← readMark ':' rest
  let (_, rest) ← readField 2 0 60 rest
  match rest with
  | '.' :: rest' =>
    let ds := rest'.takeWhile Numeral.isDigit
    if ds = [] then some rest else some (rest'.drop ds.length)
  | _ => some rest

/-- Reads an offset, or nothing; the answer is the text behind it. -/
def readOffset (cs : List Char) : Option (List Char) :=
  match cs with
  | 'Z' :: rest => some rest
  | 'z' :: rest => some rest
  | c :: rest =>
    if c = '+' || c = '-' then do
      let (_, rest) ← readField 2 0 23 rest
      let rest ← readMark ':' rest
      let (_, rest) ← readField 2 0 59 rest
      some rest
    else some cs
  | [] => some []

/-- Reads what may follow a date: a time and perhaps an offset, or nothing. -/
def readTimeBehindDate (cs : List Char) : Option (List Char) :=
  match cs with
  | c :: rest =>
    if c = 'T' || c = 't' then (readTime rest).bind readOffset
    else if c = ' ' && (rest.head?.any Numeral.isDigit) then (readTime rest).bind readOffset
    else some cs
  | [] => some []

/-- Reads a date, a time of day or both. -/
def readDatetime (cs : List Char) : Option (Value × List Char) := do
  let rest ← (readDate cs).bind readTimeBehindDate <|> readTime cs
  some (.datetime (consumed cs rest), rest)

/-- Reads a number or a date. -/
def readNumber (cs : List Char) : Option (Value × List Char) :=
  readDatetime cs <|> readFloat cs <|> readInteger cs

end WorkspaceSearch.Toml
