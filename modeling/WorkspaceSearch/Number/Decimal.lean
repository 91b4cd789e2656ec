import WorkspaceSearch.Number.Precision
import WorkspaceSearch.Text.Numeral

/-!
# Decimal numbers

A decimal is a sign, a whole number and a power of ten.  Decimals are compared by value (`Decimal.le`).

`Decimal.renderFixed` writes a number with a fixed count of places.  The number written is the nearest value with 53
binary digits, rounded once more to the places asked for; of two equally near values each rounding takes the even one.
-/

namespace WorkspaceSearch

-- the powers of the core library, whatever else is in scope
attribute [local instance (2000)] instPowNat Rat.instPowNat

/-- A number in decimal: a sign, a whole number and a power of ten. -/
structure Decimal where
  negative : Bool := false
  digits : Nat := 0
  exponent : Int := 0
  deriving DecidableEq, Repr, Inhabited

namespace Decimal

/-- The decimal of a whole number. -/
def ofInt (n : Int) : Decimal := ⟨n < 0, n.natAbs, 0⟩

/-- The decimal of a number of tenths. -/
def ofTenths (n : Nat) : Decimal := ⟨false, n, -1⟩

/-- The number in units of a power of ten that is not above its own. -/
def units (d : Decimal) (exponent : Int) : Int :=
  let n := d.digits * 10 ^ (d.exponent - exponent).toNat
  if d.negative then -(n : Int) else n

/-- Whether one number is not above another. -/
def le (a b : Decimal) : Bool :=
  let exponent := min a.exponent b.exponent
  a.units exponent ≤ b.units exponent

/-- The number without its sign. -/
def magnitude (d : Decimal) : Rat := d.digits * 10 ^ d.exponent

/-- The value of a decimal. -/
def toRat (d : Decimal) : Rat := if d.negative then -d.magnitude else d.magnitude

/-- The decimal of a number whose denominator is a power of two. -/
def ofBinary (negative : Bool) (x : Rat) : Decimal :=
  let places := Nat.log2 x.den
  ⟨negative, x.num.natAbs * 5 ^ places, -places⟩

/-- The text of a number with a fixed count of places. -/
def renderFixed (places : Nat) (d : Decimal) : String :=
  let n := (Precision.nearest (Precision.double.round d.magnitude * 10 ^ places)).toNat
  let whole := Numeral.digits (n / 10 ^ places)
  let fraction := Numeral.padded places (n % 10 ^ places)
  .ofList ((if d.negative then ['-'] else []) ++ whole ++ '.' :: fraction)

end Decimal

end WorkspaceSearch
