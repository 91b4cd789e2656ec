import WorkspaceSearch.Database.Basic
import WorkspaceSearch.Text.LowerCase

/-!
# Tables by name

Inserting, deleting and counting rows of a table that is given by its name, with columns by their names.  Names are
known in either case.  Every row has a number, which is a column under three names of its own.
-/

namespace WorkspaceSearch

/-- A table of the database. -/
inductive Table where
  | users
  | channels
  | memberships
  | messages
  | reactions
  | directMessages
  | files
  | history
  | saved
  deriving DecidableEq, Repr

namespace Table

/-- The name of a table. -/
def name : Table → String
  | .users => "users"
  | .channels => "channels"
  | .memberships => "channel_members"
  | .messages => "messages"
  | .reactions => "message_reactions"
  | .directMessages => "direct_messages"
  | .files => "files"
  | .history => "search_history"
  | .saved => "saved_searches"

/-- Every table; no table refers to a later one. -/
def all : List Table :=
  [.users, .channels, .memberships, .messages, .reactions, .directMessages, .files, .history, .saved]

/-- The table with a name. -/
def ofName (name : String) : Except DatabaseFault Table :=
  match all.find? fun t => t.name = Text.asciiLower name with
  | some t => .ok t
  | none => .error .unknownName

/-- The columns of a table. -/
def columns : Table → List String
  | .users => (default : Stored.User).cells.map (·.1)
  | .channels => (default : Stored.Channel).cells.map (·.1)
  | .memberships => (default : Stored.Membership).cells.map (·.1)
  | .messages => (default : Stored.Message).cells.map (·.1)
  | .reactions => (default : Stored.Reaction).cells.map (·.1)
  | .directMessages => (default : Stored.DirectMessage).cells.map (·.1)
  | .files => (default : Stored.File).cells.map (·.1)
  | .history => (default : Stored.History).cells.map (·.1)
  | .saved => (default : Stored.Saved).cells.map (·.1)

/-- The names of the column that holds the number of a row. -/
def numberNames : List String := ["rowid", "oid", "_rowid_"]

/-- The name under which the number of a row is known. -/
def numberColumn : String := "rowid"

/-- The column of a table with a name; the number of a row is a column as well. -/
def column (t : Table) (name : String) : Except DatabaseFault String :=
  let name := Text.asciiLower name
  if t.columns.contains name then .ok name
  else if numberNames.contains name then .ok numberColumn
  else .error .unknownName

end Table

namespace Cells

/-- The number that a row is given, if it is given one. -/
def rowNumber (row : Cells) : Except DatabaseFault (Option Int) :=
  match row.optionalNumber Table.numberColumn with
  | none => .ok none
  | some s =>
    match s.integer? with
    | some n => .ok (some n)
    | none => .error .badNumber

end Cells

namespace Database

/-- Something of a table, whatever its rows are. -/
def inspect {α : Type} (db : Database) (f : {Row : Type} → Rows Row → α) : Table → α
  | .users => f db.users
  | .channels => f db.channels
  | .memberships => f db.memberships
  | .messages => f db.messages
  | .reactions => f db.reactions
  | .directMessages => f db.directMessages
  | .files => f db.files
  | .history => f db.history
  | .saved => f db.saved

/-- The database with a table changed, whatever its rows are. -/
def alter (db : Database) (f : {Row : Type} → Rows Row → Rows Row) : Table → Database
  | .users => { db with users := f db.users }
  | .channels => { db with channels := f db.channels }
  | .memberships => { db with memberships := f db.memberships }
  | .messages => { db with messages := f db.messages }
  | .reactions => { db with reactions := f db.reactions }
  | .directMessages => { db with directMessages := f db.directMessages }
  | .files => { db with files := f db.files }
  | .history => { db with history := f db.history }
  | .saved => { db with saved := f db.saved }

/-- Inserts a row with known columns under the next number; `now` is the time of a row that has none. -/
def insertCells (db : Database) (now : Scalar) (row : Cells) : Table → Except DatabaseFault Database
  | .users => (Stored.User.ofCells now row).bind db.insertUser
  | .channels => (Stored.Channel.ofCells now row).bind db.insertChannel
  | .memberships => (Stored.Membership.ofCells now row).bind db.insertMembership
  | .messages => (Stored.Message.ofCells now row).bind db.insertMessage
  | .reactions => (Stored.Reaction.ofCells now row).bind db.insertReaction
  | .directMessages => (Stored.DirectMessage.ofCells now row).bind db.insertDirectMessage
  | .files => (Stored.File.ofCells now row).bind db.insertFile
  | .history => (Stored.History.ofCells now row).bind db.insertHistory
  | .saved => (Stored.Saved.ofCells now row).bind db.insertSaved

/-- Inserts a row into the table with a name; a row without any column is refused, and so is one under a number that is
taken.  A missing value is found before a taken number, and a taken number before a taken key. -/
def insert (db : Database) (now : Scalar) (table : String) (row : Cells) : Except DatabaseFault Database := do
  let t ← Table.ofName table
  let row : Cells ← row.mapM fun (column, cell) => do return (← t.column column, cell)
  if row.isEmpty then throw .malformed
  match ← row.rowNumber, db.insertCells now row t with
  | none, outcome => outcome
  | some _, .error .missingValue => throw .missingValue
  | some n, outcome =>
    if db.inspect (·.hasNumber n) t then throw .badNumber
    let db' ← outcome
    return db'.alter (·.renumberLast n) t

/-- The cells of a row and its number. -/
def numberedCells {Row : Type} (cells : Row → Cells) (e : Numbered Row) : Cells :=
  (Table.numberColumn, some (.integer e.number)) :: cells e.row

/-- Deletes some rows of a table. -/
def deleteCells (db : Database) (p : Cells → Bool) : Table → Database
  | .users => db.deleteUsers (p ∘ numberedCells Stored.User.cells)
  | .channels => db.deleteChannels (p ∘ numberedCells Stored.Channel.cells)
  | .memberships => db.deleteMemberships (p ∘ numberedCells Stored.Membership.cells)
  | .messages => db.deleteMessages (p ∘ numberedCells Stored.Message.cells)
  | .reactions => db.deleteReactions (p ∘ numberedCells Stored.Reaction.cells)
  | .directMessages => db.deleteDirectMessages (p ∘ numberedCells Stored.DirectMessage.cells)
  | .files => db.deleteFiles (p ∘ numberedCells Stored.File.cells)
  | .history => db.deleteHistory (p ∘ numberedCells Stored.History.cells)
  | .saved => db.deleteSaved (p ∘ numberedCells Stored.Saved.cells)

/-- The number of rows of a table. -/
def size (db : Database) (t : Table) : Nat := db.inspect (·.size) t

/-- Deletes the rows of a table whose column equals a value; the answer is also how many rows of that table are gone. -/
def delete (db : Database) (table column : String) (value : Cell) : Except DatabaseFault (Nat × Database) := do
  let t ← Table.ofName table
  let column ← t.column column
  let db' := db.deleteCells (·.equals column value) t
  return (db.size t - db'.size t, db')

/-- The number of rows of the table with a name. -/
def count (db : Database) (table : String) : Except DatabaseFault Nat := (Table.ofName table).map db.size

end Database

end WorkspaceSearch
