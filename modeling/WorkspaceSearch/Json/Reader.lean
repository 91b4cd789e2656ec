import WorkspaceSearch.Json.Value
import WorkspaceSearch.Text.Numeral

/-!
# Reading JSON

A text is read as one value with blanks around it.  Strings hold no control characters and no half of a pair of
surrogates.  A number without fraction and exponent is whole when it fits into 64 bits, with or without a sign; every
other number, minus zero among them, is a decimal.

A decimal has the precision of 53 binary digits.  The digits that fit into 64 bits are gathered, further ones count for
nothing but their place, and the number is scaled by a power of ten; each step is rounded, and a number that grows too
large is refused.

Where only some members of an object are asked for (`parseMembers?`), the values of all others are read loosely: halves
of pairs and numbers of any size are let pass.
-/

namespace WorkspaceSearch.Json

open Numeral (hexValue?)

-- the powers of the core library, whatever else is in scope
attribute [local instance (2000)] instPowNat Rat.instPowNat

/-- The blanks between the parts of a value. -/
def isGap (c : Char) : Bool := c == ' ' || c == '\n' || c == '\t' || c == '\r'

/-- Drops the blanks at the front. -/
def skipGaps (cs : List Char) : List Char := cs.dropWhile isGap

/-- Reads four hexadecimal digits. -/
def readHex4 : List Char → Option (Nat × List Char)
  | a :: b :: c :: d :: rest => do
    let a ← hexValue? a
    let b ← hexValue? b
    let c ← hexValue? c
    let d ← hexValue? d
    some (((a * 16 + b) * 16 + c) * 16 + d, rest)
  | _ => none

/-- Reads the character behind `\u`: one code, or two codes that make a pair of surrogates. -/
def readCode (cs : List Char) : Option (Char × List Char) := do
  let (n, rest) ← readHex4 cs
  if n < 0xD800 ∨ 0xDFFF < n then some (Char.ofNat n, rest)
  else if 0xDBFF < n then none
  else
    match rest with
    | '\\' :: 'u' :: rest => do
      let (m, rest) ← readHex4 rest
      if 0xDC00 ≤ m ∧ m ≤ 0xDFFF then some (Char.ofNat (0x10000 + (n - 0xD800) * 1024 + (m - 0xDC00)), rest)
      else none
    | _ => none

/-- Reads the character behind a backslash.  Loosely read, half of a pair of surrogates stands for a character. -/
def readEscape (strict : Bool) : List Char → Option (Char × List Char)
  | 'u' :: rest => if strict then readCode rest else (readHex4 rest).map fun (_, rest) => ('\ufffd', rest)
  | '"' :: rest => some ('"', rest)
  | '\\' :: rest => some ('\\', rest)
  | '/' :: rest => some ('/', rest)
  | 'b' :: rest => some ('\x08', rest)
  | 'f' :: rest => some ('\x0c', rest)
  | 'n' :: rest => some ('\n', rest)
  | 'r' :: rest => some ('\r', rest)
  | 't' :: rest => some ('\t', rest)
  | _ => none

/-- Reads the characters of a string up to the quote that ends it.  The number bounds the characters to read. -/
def readChars (strict : Bool) : Nat → List Char → Option (List Char × List Char)
  | 0, _ => none
  | _ + 1, [] => none
  | _ + 1, '"' :: rest => some ([], rest)
  | fuel + 1, '\\' :: rest => do
    let (c, rest) ← readEscape strict rest
    let (s, rest) ← readChars strict fuel rest
    some (c :: s, rest)
  | fuel + 1, c :: rest => do
    if c.toNat < 0x20 then none
    let (s, rest) ← readChars strict fuel rest
    some (c :: s, rest)

/-- Reads a string behind its first quote. -/
def readString (strict : Bool) (fuel : Nat) (cs : List Char) : Option (String × List Char) :=
  (readChars strict fuel cs).map fun (s, rest) => (.ofList s, rest)

/-- Reads the digits behind a point, at least one, or nothing. -/
def readFraction : List Char → Option (List Char × List Char)
  | '.' :: rest =>
    let ds := rest.takeWhile Numeral.isDigit
    if ds = [] then none else some (ds, rest.drop ds.length)
  | cs => some ([], cs)

/-- Reads an exponent, or nothing. -/
def readExponent (cs : List Char) : Option (Option Int × List Char) :=
  match cs with
  | c :: rest =>
    if c = 'e' || c = 'E' then
      let (sign, rest) : Int × List Char :=
        match rest with
        | '-' :: rest => (-1, rest)
        | '+' :: rest => (1, rest)
        | _ => (1, rest)
      let ds := rest.takeWhile Numeral.isDigit
      if ds = [] then none else some (some (sign * Numeral.value 0 ds), rest.drop ds.length)
    else some (none, cs)
  | [] => some (none, [])

/-- Puts digits behind a number as long as 64 bits hold it; the digits left over follow the number. -/
def gather (n : Nat) : List Char → Nat × List Char
  | [] => (n, [])
  | c :: rest =>
    let next := n * 10 + (Numeral.digit? c).getD 0
    if next < 2 ^ (64 : Nat) then gather next rest else (n, c :: rest)

/-- The greatest power of ten that numbers of the double precision reach. -/
def greatestPower : Nat := 308

/-- A power of ten in the double precision. -/
def powerOfTen (power : Nat) : Rat := Precision.double.round (10 ^ power)

/-- A number of the double precision scaled by a power of ten; none when it grows too large. -/
def scale (x : Rat) (power : Int) : Option Rat :=
  if power.natAbs ≤ greatestPower then
    if 0 ≤ power then
      let y := Precision.double.round (x * powerOfTen power.toNat)
      if Precision.isTooLarge y then none else some y
    else some (Precision.double.round (x / powerOfTen (-power).toNat))
  else if x = 0 then some 0
  else if 0 ≤ power then none
  else scale (Precision.double.round (x / powerOfTen greatestPower)) (power + greatestPower)
termination_by (-power).toNat
decreasing_by simp only [greatestPower]; omega

/-- The greatest exponent that is counted; beyond it a number is zero or too large. -/
def greatestExponent : Nat := 2 ^ (31 : Nat) - 1

/-- The decimal with the given sign, digits in front of the point and behind it, and exponent. -/
def decimal? (negative : Bool) (whole fraction : List Char) (exponent : Int) : Option Json :=
  let (n, dropped) := gather 0 whole
  let (n, left) := gather n fraction
  let power := (dropped.length : Int) - (fraction.length - left.length : Nat) + exponent
  if greatestExponent < exponent.natAbs then
    if n ≠ 0 ∧ 0 < exponent then none else some (.decimal ⟨negative, 0, 0⟩)
  else (scale (Precision.double.round n) power).map fun x => .decimal (Decimal.ofBinary negative x)

/-- The number with the given sign, digits in front of the point and behind it, and exponent. -/
def ofParts? (negative : Bool) (whole fraction : List Char) (exponent : Option Int) : Option Json :=
  let n := Numeral.value 0 whole
  let signed : Int := if negative then -n else n
  if fraction = [] ∧ exponent = none ∧ !(negative && n == 0) ∧ -(2 ^ (63 : Nat)) ≤ signed ∧ signed < 2 ^ (64 : Nat) then
    some (.integer signed)
  else decimal? negative whole fraction (exponent.getD 0)

/-- Reads a number.  A number of several digits does not start with zero.  Loosely read, its value counts for
nothing. -/
def readNumber (strict : Bool) (cs : List Char) : Option (Json × List Char) := do
  let (negative, cs) := match cs with | '-' :: rest => (true, rest) | _ => (false, cs)
  let whole := cs.takeWhile Numeral.isDigit
  if whole = [] ∨ (1 < whole.length ∧ whole.head? = some '0') then none
  let (fraction, rest) ← readFraction (cs.drop whole.length)
  let (exponent, rest) ← readExponent rest
  let j ← if strict then ofParts? negative whole fraction exponent else some .null
  some (j, rest)

mutual

/-- Reads a value at the front of a text.  The first number bounds the depth and length of what is read; twice the
length of the text is enough. -/
def readValue (strict : Bool) : Nat → List Char → Option (Json × List Char)
  | 0, _ => none
  | fuel + 1, cs =>
    match skipGaps cs with
    | 'n' :: 'u' :: 'l' :: 'l' :: rest => some (.null, rest)
    | 't' :: 'r' :: 'u' :: 'e' :: rest => some (.bool true, rest)
    | 'f' :: 'a' :: 'l' :: 's' :: 'e' :: rest => some (.bool false, rest)
    | '"' :: rest => (readString strict fuel rest).map fun (s, rest) => (.string s, rest)
    | '[' :: rest =>
      match skipGaps rest with
      | ']' :: rest => some (.array [], rest)
      | rest => (readItems strict fuel rest).map fun (items, rest) => (.array items, rest)
    | '{' :: rest =>
      match skipGaps rest with
      | '}' :: rest => some (.object [], rest)
      | rest => (readMembers strict fuel rest).map fun (members, rest) => (.object members, rest)
    | rest => readNumber strict rest

/-- Reads items up to the bracket that ends the array, at least one. -/
def readItems (strict : Bool) : Nat → List Char → Option (List Json × List Char)
  | 0, _ => none
  | fuel + 1, cs => do
    let (j, rest) ← readValue strict fuel cs
    match skipGaps rest with
    | ']' :: rest => some ([j], rest)
    | ',' :: rest => do
      let (items, rest) ← readItems strict fuel rest
      some (j :: items, rest)
    | _ => none

/-- Reads members up to the brace that ends the object, at least one. -/
def readMembers (strict : Bool) : Nat → List Char → Option (List (String × Json) × List Char)
  | 0, _ => none
  | fuel + 1, cs =>
    match skipGaps cs with
    | '"' :: rest => do
      let (name, rest) ← readString strict fuel rest
      match skipGaps rest with
      | ':' :: rest => do
        let (j, rest) ← readValue strict fuel rest
        match skipGaps rest with
        | '}' :: rest => some ([(name, j)], rest)
        | ',' :: rest => do
          let (members, rest) ← readMembers strict fuel rest
          some ((name, j) :: members, rest)
        | _ => none
      | _ => none
    | _ => none

end

/-- Reads members up to the brace that ends the object, at least one, and keeps those of the given names.  Of the others
the names are read strictly and the values loosely. -/
def readKnownMembers (known : List String) : Nat → List Char → Option (List (String × Json) × List Char)
  | 0, _ => none
  | fuel + 1, cs =>
    match skipGaps cs with
    | '"' :: rest => do
      let (name, rest) ← readString true fuel rest
      match skipGaps rest with
      | ':' :: rest => do
        let isKnown := known.contains name
        let (j, rest) ← readValue isKnown fuel rest
        let kept := if isKnown then [(name, j)] else []
        match skipGaps rest with
        | '}' :: rest => some (kept, rest)
        | ',' :: rest => do
          let (members, rest) ← readKnownMembers known fuel rest
          some (kept ++ members, rest)
        | _ => none
      | _ => none
    | _ => none

/-- Reads a value; of an object, only the members of the given names. -/
def readKnown (known : List String) (fuel : Nat) (cs : List Char) : Option (Json × List Char) :=
  match skipGaps cs with
  | '{' :: rest =>
    match skipGaps rest with
    | '}' :: rest => some (.object [], rest)
    | rest => (readKnownMembers known fuel rest).map fun (members, rest) => (.object members, rest)
  | cs => readValue true fuel cs

/-- A bound on the depth and length of what a text holds. -/
def fuelFor (cs : List Char) : Nat := 2 * cs.length + 1

/-- The value, if nothing but blanks follows it. -/
def atEnd {α : Type} : Option (α × List Char) → Option α
  | some (a, rest) => if rest.all isGap then some a else none
  | none => none

/-- The value a text holds, if it holds one and nothing else. -/
def parse? (text : String) : Option Json := atEnd (readValue true (fuelFor text.toList) text.toList)

/-- The value a text holds, if it holds one and nothing else; of an object, only the members of the given names. -/
def parseMembers? (known : List String) (text : String) : Option Json :=
  atEnd (readKnown known (fuelFor text.toList) text.toList)

end WorkspaceSearch.Json
