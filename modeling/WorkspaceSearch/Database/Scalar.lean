import WorkspaceSearch.Number.Scientific
import WorkspaceSearch.Time.JulianDay
import WorkspaceSearch.Time.Reading

/-!
# Scalars

The values that the columns of tables hold: whole numbers of 64 bits, other numbers of the double precision, and texts.
No column is meant for strings of bytes, and nothing writes any.

A column of texts turns numbers into texts; a column of numbers turns texts into numbers as far as they are numerals,
and numbers into whole numbers as far as they are whole.

Numbers come before texts in the order of scalars; numbers are compared by value, and texts character by character.

A scalar may name a point in time: a text is a timestamp, a whole number a count of seconds since the start of 1970, and
any other number a Julian day.
-/

namespace WorkspaceSearch

-- the powers of the core library, whatever else is in scope
attribute [local instance (2000)] instPowNat Rat.instPowNat

/-- A value of a column. -/
inductive Scalar where
  | integer (n : Int)
  | real (x : Rat)
  | text (s : String)
  deriving DecidableEq, Repr

namespace Scalar

instance : Inhabited Scalar := ⟨.integer 0⟩

/-! ### Conversion -/

/-- The scalar as a text. -/
def asText : Scalar → String
  | .integer n => Numeral.render n
  | .real x => Scientific.render x
  | .text s => s

/-- A number, as a whole number if it is one and neither the greatest nor the least. -/
def ofRat (x : Rat) : Scalar :=
  let n := x.floor
  if x = n ∧ -(2 ^ (63 : Nat)) < n ∧ n < 2 ^ (63 : Nat) - 1 then .integer n else .real x

/-- The number a numeral stands for. -/
def ofNumeral (s : Scientific) : Scalar :=
  match s.integer? with
  | some n => if Numeral.Range.integer64.holds n then .integer n else ofRat s.value
  | none => ofRat s.value

/-- The scalar as a number, if it can be one. -/
def asNumber : Scalar → Scalar
  | .integer n => .integer n
  | .real x => ofRat x
  | .text s =>
    match Scientific.ofChars? s.toList with
    | some numeral => ofNumeral numeral
    | none => .text s

/-! ### Order -/

/-- Whether one scalar is not after another. -/
def le : Scalar → Scalar → Bool
  | .text s, .text t => s ≤ t
  | .text _, _ => false
  | _, .text _ => true
  | .integer m, .integer n => m ≤ n
  | .integer m, .real y => m ≤ y
  | .real x, .integer n => x ≤ n
  | .real x, .real y => x ≤ y

/-- Whether two scalars are at the same place in the order. -/
def same (a b : Scalar) : Bool := a.le b && b.le a

/-! ### Points in time -/

/-- The Julian day a scalar names, in milliseconds. -/
def julianDay? : Scalar → Option Int
  | .integer n => JulianDay.ofNumber? n
  | .real x => JulianDay.ofNumber? x
  | .text s => JulianDay.ofText? s

/-- The start of 1970 as a Julian day. -/
def epochDay : Rat := 4881175 / 2

/-- The instant a Julian day names, computed in the double precision. -/
def instantOfDay? (days : Rat) : Option Instant :=
  let seconds := Precision.double.round (Precision.double.round (days - epochDay) * 86400)
  let whole := truncate seconds
  let nanos := truncate (Precision.double.round ((seconds - whole).abs * 1000000000))
  if Precision.isTooLarge seconds then none else Instant.ofParts? whole nanos.toNat

/-- The instant a scalar names. -/
def instant? : Scalar → Option Instant
  | .integer n => Instant.ofParts? n 0
  | .real x => instantOfDay? x
  | .text s => Instant.ofStored? s

/-! ### Reading columns -/

/-- A whole number; nothing else can be read as one. -/
def integer? : Scalar → Option Int
  | .integer n => some n
  | _ => none

/-- True or false: any whole number but zero is true. -/
def bool? (s : Scalar) : Option Bool := s.integer?.map (· != 0)

end Scalar

end WorkspaceSearch
