import WorkspaceSearch.Json.Value
import WorkspaceSearch.Text.Numeral
import WorkspaceSearch.Time.Reading
import WorkspaceSearch.Time.Writing
import WorkspaceSearch.Uuid

/-!
# Forms of documents

A form says how the values of a type are written as JSON and how they are read.  Simple forms are those of texts,
numbers, dates and identifiers; forms of optional values, lists and choices are built from others.

A record is written as an object.  It is read from an object, whose unknown members count for nothing and whose known
members occur once at most, or from an array that holds its fields in order (`Record`).  A field that is not there is
read as its default, if it has one; an optional field that an object lacks is read as nothing.
-/

namespace WorkspaceSearch

/-- How the values of a type are written as JSON and read from it. -/
structure Form (α : Type) where
  write : α → Json
  read : Json → Option α

namespace Form

/-- Any text. -/
def text : Form String where
  write := .string
  read
    | .string s => some s
    | _ => none

/-- True or false. -/
def bool : Form Bool where
  write := .bool
  read
    | .bool b => some b
    | _ => none

/-- A whole number of a range. -/
def integer (range : Numeral.Range) : Form Int where
  write := .integer
  read
    | .integer n => if range.holds n then some n else none
    | _ => none

/-- A number that is not negative, of a range. -/
def natural (range : Numeral.Range) : Form Nat where
  write n := .integer n
  read
    | .integer n => if 0 ≤ n ∧ range.holds n then some n.toNat else none
    | _ => none

/-- Any number. -/
def number : Form Decimal where
  write := .decimal
  read
    | .integer n => some (.ofInt n)
    | .decimal d => some d
    | _ => none

/-- A date, written in the form of RFC 3339 and read more loosely. -/
def instant : Form Instant where
  write t := .string t.toText
  read
    | .string s => Instant.ofExchange? s
    | _ => none

/-- An identifier, written with hyphens in lower case. -/
def uuid : Form Uuid where
  write u := .string u.render
  read
    | .string s => Uuid.ofText? s
    | _ => none

/-- Nothing is written as null. -/
def option {α : Type} (f : Form α) : Form (Option α) where
  write
    | some a => f.write a
    | none => .null
  read
    | .null => some none
    | j => (f.read j).map some

/-- A list is written as an array. -/
def list {α : Type} (f : Form α) : Form (List α) where
  write as := .array (as.map f.write)
  read
    | .array items => items.mapM f.read
    | _ => none

/-- One of a list of values, written by its name.  It is also read from an object with the name as its one member and
null as the value. -/
def choice {α : Type} (values : List α) (name : α → String) : Form α where
  write a := .string (name a)
  read
    | .string s => values.find? fun a => name a = s
    | .object [(s, .null)] => values.find? fun a => name a = s
    | _ => none

end Form

/-- What stands for a field of a record that is read. -/
inductive Slot where
  | given (j : Json)
  /-- An object has no such member. -/
  | absent
  /-- An array ends before the field. -/
  | cutOff
  deriving Inhabited

/-- A document read as a record: what stands for each field. -/
structure Record where
  slots : List (String × Slot)

namespace Record

/-- The slots of fields that an array holds in order; none when it holds more. -/
def ofItems? : List String → List Json → Option (List (String × Slot))
  | [], [] => some []
  | [], _ :: _ => none
  | n :: ns, [] => (ofItems? ns []).map ((n, .cutOff) :: ·)
  | n :: ns, j :: rest => (ofItems? ns rest).map ((n, .given j) :: ·)

/-- The slot of a field among the members of an object; none when it occurs more than once. -/
def ofMembers? (members : List (String × Json)) (name : String) : Option (String × Slot) :=
  match Json.named members name with
  | [] => some (name, .absent)
  | [j] => some (name, .given j)
  | _ => none

/-- Reads a document as a record with the given fields. -/
def ofJson? (fields : List String) : Json → Option Record
  | .object members => (fields.mapM (ofMembers? members)).map Record.mk
  | .array items => (ofItems? fields items).map Record.mk
  | _ => none

/-- Reads a document as a record with the given fields, not from an array. -/
def ofObject? (fields : List String) : Json → Option Record
  | .object members => (fields.mapM (ofMembers? members)).map Record.mk
  | _ => none

/-- What stands for a field. -/
def slot (r : Record) (name : String) : Slot :=
  match r.slots.find? fun s => s.1 = name with
  | some (_, s) => s
  | none => .absent

/-- Reads a field that must be there. -/
def required {α : Type} (r : Record) (name : String) (f : Form α) : Option α :=
  match r.slot name with
  | .given j => f.read j
  | _ => none

/-- Reads a field that an object may lack. -/
def optional {α : Type} (r : Record) (name : String) (f : Form α) : Option (Option α) :=
  match r.slot name with
  | .given j => f.option.read j
  | .absent => some none
  | .cutOff => none

/-- Reads a field that has a default. -/
def withDefault {α : Type} (r : Record) (name : String) (f : Form α) (default : α) : Option α :=
  match r.slot name with
  | .given j => f.read j
  | _ => some default

end Record

end WorkspaceSearch
