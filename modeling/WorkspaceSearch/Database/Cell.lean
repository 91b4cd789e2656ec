import WorkspaceSearch.Database.Scalar
import WorkspaceSearch.Error

/-!
# Cells

The values of the columns of a row as they are written from outside: scalars or nothing.  A row is read column by
column; a column that is missing has its default, and a column that needs a value refuses nothing.  Every value is
turned into the kind that its column keeps.
-/

namespace WorkspaceSearch

/-- The value of a column, if there is one. -/
abbrev Cell : Type := Option Scalar

/-- What a column keeps. -/
inductive ColumnKind where
  | text
  | number
  deriving DecidableEq, Repr

namespace ColumnKind

/-- The columns of numbers, timestamps among them; all others are columns of texts. -/
def numberColumns : List String :=
  ["is_admin", "file_size", "is_pinned", "usage_count", "created_at", "joined_at", "last_used_at", "updated_at",
    "rowid", "version"]

/-- What the column with a name keeps. -/
def ofColumn (column : String) : ColumnKind := if numberColumns.contains column then .number else .text

/-- What a column makes of a value. -/
def convert : ColumnKind → Scalar → Scalar
  | .text, s => .text s.asText
  | .number, s => s.asNumber

end ColumnKind

/-- Columns with their values. -/
abbrev Cells : Type := List (String × Cell)

namespace Cells

/-- The value of a column, if the row has it. -/
def named (row : Cells) (column : String) : Option Cell := (row.find? fun c => c.1 = column).map (·.2)

/-- A text that may be missing. -/
def optional (row : Cells) (column : String) : Option String := (row.named column).join.map Scalar.asText

/-- A text that must be there. -/
def required (row : Cells) (column : String) : Except DatabaseFault String :=
  match row.optional column with
  | some s => .ok s
  | none => .error .missingValue

/-- A text with a default for a missing column. -/
def withDefault (row : Cells) (column default : String) : Except DatabaseFault String :=
  if (row.named column).isNone then .ok default else row.required column

/-- A number or timestamp that may be missing. -/
def optionalNumber (row : Cells) (column : String) : Option Scalar := (row.named column).join.map Scalar.asNumber

/-- A number or timestamp with a default for a missing column. -/
def number (row : Cells) (column : String) (default : Scalar) : Except DatabaseFault Scalar :=
  match row.named column with
  | none => .ok default
  | some none => .error .missingValue
  | some (some s) => .ok s.asNumber

/-- Whether a column equals a value it is compared with, which is turned into the kind that the column keeps; nothing
equals nothing. -/
def equals (row : Cells) (column : String) (value : Cell) : Bool :=
  match (row.named column).join, value with
  | some s, some t => s.same ((ColumnKind.ofColumn column).convert t)
  | _, _ => false

end Cells

end WorkspaceSearch
