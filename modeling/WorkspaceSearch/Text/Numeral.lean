/-!
# Decimal numerals

Reading and writing whole numbers in decimal.  A numeral is a sign, which may be left out, and one or more ASCII
digits; it is read digit by digit, so the fault reported is the leftmost one.  Written numerals have no leading zero
and no plus sign (`render`).

A numeral is read as a number of a range (`readBounded`).  Longer formats hold digits of base sixteen (`hexValue?`,
`hexDigit`), signs (`takeSign`), and numbers of fixed width (`readField`) with marks between them (`readMark`).
-/

namespace WorkspaceSearch.Numeral

-- the powers of the core library, whatever else is in scope
attribute [local instance (2000)] instPowNat Rat.instPowNat

/-- The value of an ASCII digit. -/
def digit? (c : Char) : Option Nat := if '0' ≤ c && c ≤ '9' then some (c.toNat - 48) else none

/-- The value of a hexadecimal digit of either case. -/
def hexValue? (c : Char) : Option Nat :=
  if '0' ≤ c && c ≤ '9' then some (c.toNat - 48)
  else if 'a' ≤ c && c ≤ 'f' then some (c.toNat - 87)
  else if 'A' ≤ c && c ≤ 'F' then some (c.toNat - 55)
  else none

/-- The hexadecimal digit of a number below sixteen, in upper or in lower case. -/
def hexDigit (isUpper : Bool) (n : Nat) : Char :=
  Char.ofNat (if n < 10 then 48 + n else if isUpper then 55 + n else 87 + n)

/-- An ASCII digit. -/
def isDigit (c : Char) : Bool := (digit? c).isSome

/-- The digits of a number, most significant first. -/
def digits (n : Nat) : List Char := Nat.toDigits 10 n

/-- The digits of a number, with zeros in front up to a width. -/
def padded (width n : Nat) : List Char :=
  let ds := digits n
  List.replicate (width - ds.length) '0' ++ ds

/-- The numeral of a whole number. -/
def render (n : Int) : String :=
  match n with
  | .ofNat n => .ofList (digits n)
  | .negSucc n => .ofList ('-' :: digits (n + 1))

/-- The value of a list of digits after a number already read. -/
def value (start : Nat) (cs : List Char) : Nat :=
  cs.foldl (fun n c => n * 10 + (digit? c).getD 0) start

/-! ### Parts of longer formats -/

/-- Takes a sign off the front, if there is one. -/
def takeSign : List Char → Bool × List Char
  | '-' :: rest => (true, rest)
  | '+' :: rest => (false, rest)
  | cs => (false, cs)

/-- Reads exactly `width` digits whose number lies between `least` and `most`. -/
def readField (width least most : Nat) (cs : List Char) : Option (Nat × List Char) :=
  let ds := cs.take width
  let n := value 0 ds
  if ds.length = width ∧ ds.all isDigit ∧ least ≤ n ∧ n ≤ most then some (n, cs.drop width) else none

/-- Reads a character that stands for itself. -/
def readMark (c : Char) : List Char → Option (List Char)
  | d :: rest => if d = c then some rest else none
  | [] => none

/-! ### Numerals of a range -/

/-- The values a numeral may have; zero is one of them. -/
structure Range where
  low : Int
  high : Int
  low_le : low ≤ 0 := by decide
  le_high : 0 ≤ high := by decide
  deriving DecidableEq, Repr

namespace Range

/-- Whole numbers of 32 bits without a sign. -/
def natural32 : Range := { low := 0, high := 2 ^ (32 : Nat) - 1 }

/-- Whole numbers of 64 bits without a sign. -/
def natural64 : Range := { low := 0, high := 2 ^ (64 : Nat) - 1 }

/-- Whole numbers of 64 bits with a sign. -/
def integer64 : Range := { low := -(2 ^ (63 : Nat)), high := 2 ^ (63 : Nat) - 1 }

/-- Whether a number lies in the range. -/
def holds (r : Range) (n : Int) : Bool := r.low ≤ n && n ≤ r.high

theorem holds_zero (r : Range) : r.holds 0 = true := by simp [holds, r.low_le, r.le_high]

end Range

/-- The whole numbers of a range. -/
structure Bounded (r : Range) where
  val : Int
  isIn : r.holds val = true
  deriving DecidableEq, Repr

namespace Bounded

instance (r : Range) : Inhabited (Bounded r) := ⟨⟨0, r.holds_zero⟩⟩

/-- The number, if the range has it. -/
def ofInt? (r : Range) (n : Int) : Option (Bounded r) := if h : r.holds n = true then some ⟨n, h⟩ else none

/-- The number as a natural number. -/
def toNat {r : Range} (n : Bounded r) : Nat := n.val.toNat

end Bounded

/-- Why a text is not a numeral of the range asked for. -/
inductive Fault where
  | empty
  | notDigit
  | tooLarge
  | tooSmall
  deriving DecidableEq, Repr

/-- What is said about a faulty numeral. -/
def Fault.message : Fault → String
  | .empty => "cannot parse integer from empty string"
  | .notDigit => "invalid digit found in string"
  | .tooLarge => "number too large to fit in target type"
  | .tooSmall => "number too small to fit in target type"

/-- Puts a digit behind a number; it moves the number away from zero. -/
def step (negative : Bool) (soFar : Int) (d : Nat) : Int :=
  if negative then soFar * 10 - d else soFar * 10 + d

/-- Reads the digits that are left, after `soFar`. -/
def readDigits (range : Range) (negative : Bool) (soFar : Int) : List Char → Except Fault Int
  | [] => .ok soFar
  | c :: rest =>
    match digit? c with
    | none => .error .notDigit
    | some d =>
      if step negative soFar d < range.low then .error .tooSmall
      else if range.high < step negative soFar d then .error .tooLarge
      else readDigits range negative (step negative soFar d) rest

/-- Reads a numeral whose value must lie in the range.  A minus sign is known only where the range has negative
numbers, and a sign alone is no numeral. -/
def read (range : Range) (text : String) : Except Fault Int :=
  match text.toList with
  | [] => .error .empty
  | ['+'] => .error .notDigit
  | ['-'] => .error .notDigit
  | '+' :: rest => readDigits range false 0 rest
  | '-' :: rest => if range.low < 0 then readDigits range true 0 rest else .error .notDigit
  | cs => readDigits range false 0 cs

/-- The digits that are left lead to a number of the range, if the number before them was one. -/
theorem holds_of_readDigits {range : Range} {negative : Bool} {soFar n : Int} {cs : List Char}
    (h : range.holds soFar = true) (hn : readDigits range negative soFar cs = .ok n) : range.holds n = true := by
  induction cs generalizing soFar with
  | nil =>
    simp only [readDigits, Except.ok.injEq] at hn
    exact hn ▸ h
  | cons c rest ih =>
    simp only [readDigits] at hn
    split at hn
    · simp at hn
    · split at hn
      · simp at hn
      · split at hn
        · simp at hn
        · exact ih (by simp only [Range.holds, Bool.and_eq_true, decide_eq_true_eq]; omega) hn

/-- A numeral is a number of the range asked for. -/
theorem holds_of_read {range : Range} {text : String} {n : Int} (hn : read range text = .ok n) :
    range.holds n = true := by
  simp only [read] at hn
  split at hn
  · simp at hn
  · simp at hn
  · simp at hn
  · exact holds_of_readDigits range.holds_zero hn
  · split at hn
    · exact holds_of_readDigits range.holds_zero hn
    · simp at hn
  · exact holds_of_readDigits range.holds_zero hn

/-- Reads a numeral as a number of the range. -/
def readBounded (range : Range) (text : String) : Except Fault (Bounded range) :=
  match h : read range text with
  | .ok n => .ok ⟨n, holds_of_read h⟩
  | .error fault => .error fault

end WorkspaceSearch.Numeral
