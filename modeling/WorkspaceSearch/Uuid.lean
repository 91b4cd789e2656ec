import WorkspaceSearch.Text.LowerCase
import WorkspaceSearch.Text.Numeral

/-!
# Identifiers

An identifier of history entries and saved searches: 32 hexadecimal digits.  It is written in groups of 8, 4, 4, 4 and
12 digits with dashes between them.  It is also read without the dashes, and with the dashes in braces or behind
`urn:uuid:`; digits and scheme may be of either case.
-/

namespace WorkspaceSearch

/-- An identifier of 32 hexadecimal digits. -/
structure Uuid where
  digits : List (Fin 16)
  size_eq : digits.length = 32
  deriving DecidableEq, Repr

namespace Uuid

instance : Inhabited Uuid := ⟨⟨List.replicate 32 0, rfl⟩⟩

/-- The identifier with the given digits, if there are 32 of them. -/
def ofDigits? (ds : List (Fin 16)) : Option Uuid := if h : ds.length = 32 then some ⟨ds, h⟩ else none

/-- A hexadecimal digit, in lower case. -/
def renderDigit (d : Fin 16) : Char := Char.ofNat (if d.val < 10 then 48 + d.val else 87 + d.val)

/-- The value of a hexadecimal digit of either case. -/
def digit? (c : Char) : Option (Fin 16) :=
  if '0' ≤ c ∧ c ≤ '9' then some (Fin.ofNat 16 (c.toNat - 48))
  else if 'a' ≤ c ∧ c ≤ 'f' then some (Fin.ofNat 16 (c.toNat - 87))
  else if 'A' ≤ c ∧ c ≤ 'F' then some (Fin.ofNat 16 (c.toNat - 55))
  else none

/-- The lengths of the groups of digits between dashes. -/
def groups : List Nat := [8, 4, 4, 4, 12]

/-- The written form: groups of digits with dashes between them. -/
def renderGroups : List Nat → List Char → List Char
  | [], cs => cs
  | [_], cs => cs
  | n :: ns, cs => cs.take n ++ '-' :: renderGroups ns (cs.drop n)

/-- Takes the dashes out of a written form; none when they stand elsewhere. -/
def joinGroups? : List Nat → List Char → Option (List Char)
  | [], cs => if cs = [] then some [] else none
  | [n], cs => if cs.length = n then some cs else none
  | n :: ns, cs =>
    match cs.drop n with
    | '-' :: rest => (joinGroups? ns rest).map (cs.take n ++ ·)
    | _ => none

/-- The text of an identifier. -/
def render (u : Uuid) : String := .ofList (renderGroups groups (u.digits.map renderDigit))

/-- The scheme that may stand in front of an identifier. -/
def scheme : List Char := ['u', 'r', 'n', ':', 'u', 'u', 'i', 'd', ':']

/-- Takes off the braces or the scheme around an identifier with dashes. -/
def unwrap (cs : List Char) : List Char :=
  match cs with
  | '{' :: rest => if rest.getLast? = some '\x7d' then rest.dropLast else cs
  | _ => if (cs.take scheme.length).map Chars.asciiLower = scheme then cs.drop scheme.length else cs

/-- Reads an identifier. -/
def ofText? (text : String) : Option Uuid := do
  let cs := text.toList
  let hex ← if cs.length = 32 then some cs else joinGroups? groups (unwrap cs)
  let ds ← hex.mapM digit?
  ofDigits? ds

end Uuid

end WorkspaceSearch
