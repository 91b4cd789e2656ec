import WorkspaceSearch.Json.Value
import WorkspaceSearch.Text.Numeral

/-!
# Writing JSON

A value is written without spaces.  In strings the quote, the backslash and the control characters below U+0020 are
escaped; every other character stands for itself.  A decimal is written as a whole number and a power of ten.
-/

namespace WorkspaceSearch.Json

/-- The escape of a control character by its number. -/
def numericEscape (n : Nat) : List Char :=
  ['\\', 'u', '0', '0', Numeral.hexDigit false (n / 16), Numeral.hexDigit false (n % 16)]

/-- A character inside a string. -/
def escapeChar (c : Char) : List Char :=
  if c = '"' then ['\\', '"']
  else if c = '\\' then ['\\', '\\']
  else if c = '\x08' then ['\\', 'b']
  else if c = '\t' then ['\\', 't']
  else if c = '\n' then ['\\', 'n']
  else if c = '\x0c' then ['\\', 'f']
  else if c = '\r' then ['\\', 'r']
  else if c.toNat < 0x20 then numericEscape c.toNat
  else [c]

/-- A string in quotes. -/
def writeString (s : String) : List Char := '"' :: s.toList.flatMap escapeChar ++ ['"']

/-- A decimal: sign, whole number and power of ten. -/
def writeDecimal (d : Decimal) : List Char :=
  (if d.negative then ['-'] else []) ++ Numeral.digits d.digits ++ 'e' :: (Numeral.render d.exponent).toList

mutual

/-- The text of a value. -/
def write : Json → List Char
  | .null => ['n', 'u', 'l', 'l']
  | .bool true => ['t', 'r', 'u', 'e']
  | .bool false => ['f', 'a', 'l', 's', 'e']
  | .integer n => (Numeral.render n).toList
  | .decimal d => writeDecimal d
  | .string s => writeString s
  | .array [] => ['[', ']']
  | .array (j :: rest) => '[' :: write j ++ writeItems rest
  | .object [] => ['{', '}']
  | .object ((name, j) :: rest) => '{' :: writeString name ++ ':' :: write j ++ writeMembers rest

/-- The items behind the first one, and the bracket that ends the array. -/
def writeItems : List Json → List Char
  | [] => [']']
  | j :: rest => ',' :: write j ++ writeItems rest

/-- The members behind the first one, and the brace that ends the object. -/
def writeMembers : List (String × Json) → List Char
  | [] => ['}']
  | (name, j) :: rest => ',' :: writeString name ++ ':' :: write j ++ writeMembers rest

end

/-- The text of a value. -/
def render (j : Json) : String := .ofList (write j)

end WorkspaceSearch.Json
