/-!
# Rounding to binary digits

Numbers with a limited count of binary digits.  A value is a rational number, and a computation rounds each of its
exact outcomes to the nearest number of the precision (`Precision.round`); of two equally near ones it takes the one
whose last digit is even.
-/

namespace WorkspaceSearch

-- the powers of the core library, whatever else is in scope
attribute [local instance (2000)] instPowNat Rat.instPowNat

/-- Numbers with a count of binary digits, the last of which is not below a power of two. -/
structure Precision where
  digits : Nat
  leastPower : Int
  deriving DecidableEq, Repr

namespace Precision

/-- Fifty-three digits, the precision in which numbers are kept. -/
def double : Precision := ⟨53, -1074⟩

/-- Sixty-four digits, the precision in which decimal digits are gathered. -/
def extended : Precision := ⟨64, -16445⟩

/-- The whole number nearest to a number; a half goes to the even neighbour. -/
def nearest (x : Rat) : Int :=
  let n := x.floor
  if x - n < 1 / 2 then n else if 1 / 2 < x - n then n + 1 else if n % 2 = 0 then n else n + 1

/-- The power of two of the first digit of a number other than zero. -/
def leadingPower (x : Rat) : Int :=
  let guess : Int := (Nat.log2 x.num.natAbs : Int) - Nat.log2 x.den
  if x.abs < 2 ^ guess then guess - 1 else guess

/-- The number of a precision nearest to a number. -/
def round (p : Precision) (x : Rat) : Rat :=
  let power := max (leadingPower x - (p.digits - 1)) p.leastPower
  if x = 0 then 0 else nearest (x / 2 ^ power) * 2 ^ power

/-- Whether a number of the double precision is too large for it. -/
def isTooLarge (x : Rat) : Bool := 2 ^ (1024 : Nat) ≤ x.abs

end Precision

/-- The whole part of a number, its sign kept. -/
def truncate (x : Rat) : Int := x.num.tdiv x.den

end WorkspaceSearch
