import WorkspaceSearch.Number.Precision
import WorkspaceSearch.Text.Blank
import WorkspaceSearch.Text.Numeral

/-!
# Numerals with a point and an exponent

Reading and writing the numbers of tables.  A numeral has blanks at both ends, a sign, digits with a point among them,
and an exponent; all but the digits may be left out.  Its value is computed in the extended precision, power of ten by
power of ten, and then rounded to the double precision.

To be written, a number is moved in the same way to between seventeen and nineteen digits in front of the point.  The
first fifteen of them are written, the last of which is rounded, a half going up, without the zeros at their end.
Powers of ten from -4 to 14 are written out; every other one stands behind the digits.
-/

namespace WorkspaceSearch

-- the powers of the core library, whatever else is in scope
attribute [local instance (2000)] instPowNat Rat.instPowNat

/-- A numeral that has been read. -/
structure Scientific where
  negative : Bool
  /-- The leading digits, as far as they count. -/
  significand : Nat
  /-- The power of ten of the last of these digits. -/
  power : Int
  /-- The numeral has neither a point nor an exponent. -/
  isWhole : Bool
  deriving DecidableEq, Repr

namespace Scientific

/-! ### Reading -/

/-- A number from which on no further digit is gathered. -/
def significandLimit : Nat := (2 ^ (64 : Nat) - 1 - 9) / 10

/-- Gathers digits behind a number; the answer is also how many have been gathered. -/
def gather (n count : Nat) : List Char → Nat × Nat
  | [] => (n, count)
  | c :: rest =>
    if significandLimit ≤ n then (n, count) else gather (n * 10 + (Numeral.digit? c).getD 0) (count + 1) rest

/-- Takes a point and the digits behind it off the front, if there is a point. -/
def takeFraction : List Char → Option (List Char) × List Char
  | '.' :: rest =>
    let ds := rest.takeWhile Numeral.isDigit
    (some ds, rest.drop ds.length)
  | cs => (none, cs)

/-- Takes an exponent off the front, if there is one; none when it has no digits. -/
def takeExponent (cs : List Char) : Option (Option Int × List Char) :=
  match cs with
  | [] => some (none, [])
  | c :: rest =>
    if c = 'e' || c = 'E' then
      let (negative, rest) := Numeral.takeSign rest
      let ds := rest.takeWhile Numeral.isDigit
      let n : Int := Numeral.value 0 ds
      if ds = [] then none else some (some (if negative then -n else n), rest.drop ds.length)
    else some (none, cs)

/-- Reads a numeral. -/
def ofChars? (cs : List Char) : Option Scientific := do
  let (negative, cs) := Numeral.takeSign (cs.dropWhile Chars.isAsciiBlank)
  let whole := cs.takeWhile Numeral.isDigit
  let (fraction, rest) := takeFraction (cs.drop whole.length)
  let (exponent, rest) ← takeExponent rest
  let (n, count) := gather 0 0 whole
  let (significand, places) := gather n 0 (fraction.getD [])
  if whole = [] ∧ fraction.getD [] = [] ∨ !rest.all Chars.isAsciiBlank then none
  else some {
    negative, significand
    power := (whole.length - count : Nat) - places + exponent.getD 0
    isWhole := fraction.isNone && exponent.isNone }

/-! ### The value -/

/-- The nearest number of the extended precision. -/
def extended (x : Rat) : Rat := Precision.extended.round x

/-- Multiplies a number some times by a factor. -/
def multiply (factor : Rat) : Nat → Rat → Rat
  | 0, x => x
  | n + 1, x => multiply factor n (extended (x * factor))

/-- A power of ten in the extended precision. -/
def powerOfTen (power : Int) : Rat := extended (10 ^ power)

/-- Multiplies a number by a power of ten: by steps of a hundred, of ten and of one. -/
def scale (x : Rat) (power : Int) : Rat :=
  let n := power.natAbs
  let step (size : Int) : Rat := powerOfTen (if 0 ≤ power then size else -size)
  multiply (step 1) (n % 10) (multiply (step 10) (n % 100 / 10) (multiply (step 100) (n / 100) x))

/-- Moves powers of ten into a significand of 64 bits, as far as it has room for them. -/
def raise (n : Nat) : Nat → Nat × Nat
  | 0 => (n, 0)
  | power + 1 => if n < (2 ^ (64 : Nat) - 1 - 0x7ff) / 10 then raise (n * 10) power else (n, power + 1)

/-- Takes tenths out of a significand that ends with zeros. -/
def lower (n : Nat) : Nat → Nat × Nat
  | 0 => (n, 0)
  | places + 1 => if n % 10 = 0 then lower (n / 10) places else (n, places + 1)

/-- The number that stands for all that are too large. -/
def infinity : Rat := 2 ^ (1024 : Nat)

/-- A power of ten beyond which a number is zero or too large. -/
def powerLimit : Nat := 400

/-- The number that a significand and a power of ten make. -/
def compose (n : Nat) (power : Int) : Rat :=
  if n = 0 then 0
  else if power.natAbs ≤ powerLimit then
    let x :=
      if 0 ≤ power then
        let (n, left) := raise n power.toNat
        scale n left
      else
        let (n, left) := lower n (-power).toNat
        scale n (-(left : Int))
    let y := Precision.double.round (extended x)
    if Precision.isTooLarge y then infinity else y
  else if 0 < power then infinity else 0

/-- The value of a numeral. -/
def value (s : Scientific) : Rat :=
  let x := compose s.significand s.power
  if s.negative then -x else x

/-- The whole number that a numeral without point and exponent stands for. -/
def integer? (s : Scientific) : Option Int :=
  if s.isWhole ∧ s.power = 0 then some (if s.negative then -s.significand else s.significand) else none

/-! ### Writing -/

/-- Multiplies a number by a power of ten as often as a condition holds, some times at most; the second part counts the
powers that have been taken out. -/
def moveWhile (p : Rat → Bool) (power : Int) : Nat → Rat × Int → Rat × Int
  | 0, x => x
  | n + 1, (x, taken) =>
    if p x then moveWhile p power n (extended (x * powerOfTen power), taken - power) else (x, taken)

/-- More steps of one size than any number of the double precision takes. -/
def stepLimit : Nat := 20

/-- A number between 10 ^ 17 and 10 ^ 19, and the power of ten by which a number above zero differs from it. -/
def normalize (x : Rat) : Rat × Int :=
  let above (power : Int) (x : Rat) : Bool := powerOfTen power ≤ x
  let below (power : Int) (x : Rat) : Bool := x < powerOfTen power
  if above 19 x then
    moveWhile (above 19) (-1) stepLimit (moveWhile (above 29) (-10) stepLimit
      (moveWhile (above 119) (-100) stepLimit (x, 0)))
  else
    moveWhile (below 17) 1 stepLimit (moveWhile (below 7) 10 stepLimit
      (moveWhile (below (-97)) 100 stepLimit (x, 0)))

/-- The number of digits that are written at most. -/
def places : Nat := 15

/-- The digits of a number above zero and the power of ten of the first. -/
def leadingDigits (x : Rat) : List Char × Int :=
  let (y, taken) := normalize x
  let n := y.floor.toNat
  let count := (Numeral.digits n).length
  let unit := 10 ^ (count - places)
  let m := (n + unit / 2) / unit
  let power := taken + count - 1
  if m < 10 ^ places then (Numeral.digits m, power) else (Numeral.digits (m / 10), power + 1)

/-- Digits without the zeros at their end, but at least one. -/
def trimZeros (ds : List Char) : List Char :=
  match (ds.reverse.dropWhile (· == '0')).reverse with
  | [] => ['0']
  | ds => ds

/-- The digits of a number above zero, with a point and perhaps a power of ten. -/
def renderPositive (x : Rat) : List Char :=
  let (ds, power) := leadingDigits x
  if power < -4 ∨ places ≤ power then
    let sign := if power < 0 then '-' else '+'
    ds.take 1 ++ '.' :: trimZeros (ds.drop 1) ++ 'e' :: sign :: Numeral.padded 2 power.natAbs
  else if power < 0 then '0' :: '.' :: trimZeros (List.replicate (-power - 1).toNat '0' ++ ds)
  else ds.take (power.toNat + 1) ++ '.' :: trimZeros (ds.drop (power.toNat + 1))

/-- The text of a number. -/
def render (x : Rat) : String :=
  if x = 0 then "0.0"
  else .ofList ((if x < 0 then ['-'] else []) ++ if infinity ≤ x.abs then "Inf".toList else renderPositive x.abs)

end Scientific

end WorkspaceSearch
