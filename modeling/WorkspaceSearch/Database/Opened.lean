import WorkspaceSearch.Database.Schema
import WorkspaceSearch.Database.Table

/-!
# An opened database

The rows of a database together with its schema.  The table of versions is a table like any other for whoever inserts,
deletes and counts rows by the name of their table; its rows are the versions recorded, and a version is the number of
its row.  The catalog of tables and indexes can be counted and not changed.
-/

namespace WorkspaceSearch

/-- The rows of a database and its schema. -/
structure OpenedDatabase where
  data : Database := {}
  schema : Schema := {}
  deriving Inhabited

namespace OpenedDatabase

/-- The columns of the table of versions. -/
def versionColumns : List String := ["version", "applied_at"]

/-- Whether a name is the name of the table of versions. -/
def isVersionTable (table : String) : Bool := Text.asciiLower table == Schema.versionTable

/-- The column of the table of versions with a name; the number of a row is its version. -/
def versionColumn (name : String) : Except DatabaseFault String :=
  let name := Text.asciiLower name
  if versionColumns.contains name then .ok name
  else if Table.numberNames.contains name then .ok "version"
  else .error .unknownName

/-- What the database says about a fault of the schema. -/
def ofSchemaFault : SchemaFault → DatabaseFault
  | .noTable => .unknownName
  | .duplicateVersion => .duplicateKey
  | .notWhole => .badNumber
  | .unreadable _ => .unreadableColumn

/-- Inserts a row into the table of versions. -/
def insertVersion (schema : Schema) (row : Cells) : Except DatabaseFault Schema := do
  let row : Cells ← row.mapM fun (column, cell) => do return (← versionColumn column, cell)
  if row.isEmpty then throw .malformed
  let version ← (schema.versionOf (row.named "version").join).mapError ofSchemaFault
  let _ ← row.number "applied_at" (.integer 0)
  (schema.execute (.recordVersion version)).mapError ofSchemaFault

/-- Inserts a row into the table with a name; `now` is the time of a row that has none. -/
def insert (d : OpenedDatabase) (now : Scalar) (table : String) (row : Cells) :
    Except DatabaseFault OpenedDatabase :=
  if isVersionTable table then return { d with schema := ← insertVersion d.schema row }
  else return { d with data := ← d.data.insert now table row }

/-- Deletes the rows of a table whose column equals a value; the answer is also how many rows of that table are gone.
The time at which a version was recorded is that of a clock, and nothing equals it. -/
def delete (d : OpenedDatabase) (table column : String) (value : Cell) :
    Except DatabaseFault (Nat × OpenedDatabase) := do
  if isVersionTable table then
    let column ← versionColumn column
    let gone (version : Int) : Bool := Cells.equals [("version", some (.integer version))] column value
    let versions := d.schema.versions.filter (!gone ·)
    return (d.schema.versions.countP gone, { d with schema := { d.schema with versions } })
  else
    let (n, data) ← d.data.delete table column value
    return (n, { d with data })

/-- The number of rows of the table with a name. -/
def count (d : OpenedDatabase) (table : String) : Except DatabaseFault Nat :=
  if isVersionTable table then .ok d.schema.versions.length
  else if Schema.catalogNames.contains (Text.asciiLower table) then .ok d.schema.catalogSize
  else if Schema.temporaryCatalogNames.contains (Text.asciiLower table) then .ok 0
  else d.data.count table

/-- Runs the migrations. -/
def migrate (d : OpenedDatabase) : Except SchemaFault OpenedDatabase :=
  return { d with schema := ← d.schema.migrate }

end OpenedDatabase

end WorkspaceSearch
