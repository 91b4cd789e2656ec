import WorkspaceSearch.Database.Cell

/-!
# The schema and its migrations

A schema is made of tables and indexes, and it records which versions of it have been reached.  A migration is a list of
statements that lead to the next version and end with recording it; every statement but the recording may be repeated.

A run applies the migrations above the greatest version recorded.  It may stop between any two statements: the next run
starts again from what has been recorded.

Any whole number can be recorded as a version, but only a version of 32 bits can be read.
-/

namespace WorkspaceSearch

-- the powers and the zero of the core library, whatever else is in scope
attribute [local instance (2000)] instPowNat Zero.ofOfNat0

/-- A statement of a migration. -/
inductive Statement where
  | createTable (name : String)
  | createIndex (name table : String)
  | recordVersion (version : Int)
  deriving DecidableEq, Repr

/-- Why a statement fails, or the current version cannot be read. -/
inductive SchemaFault where
  /-- There is no such table. -/
  | noTable
  | duplicateVersion
  /-- A version is not a whole number. -/
  | notWhole
  /-- The current version has more than 32 bits. -/
  | unreadable (fault : Numeral.Fault)
  deriving DecidableEq, Repr

/-- The wording of a fault. -/
def SchemaFault.message : SchemaFault → String
  | .noTable => "error returned from database: (code: 1) no such table"
  | .duplicateVersion => "error returned from database: (code: 1555) UNIQUE constraint failed: _migrations.version"
  | .notWhole => "error returned from database: (code: 20) datatype mismatch"
  | .unreadable fault => "error occurred while decoding column 0: " ++ fault.message

/-- The tables and indexes there are, and the versions recorded. -/
structure Schema where
  tables : List String := []
  indexes : List String := []
  versions : List Int := []
  deriving DecidableEq, Repr, Inhabited

namespace Schema

/-- The table in which versions are recorded. -/
def versionTable : String := "_migrations"

/-- Executes a statement.  A table or an index that is there already stays as it is. -/
def execute (s : Schema) : Statement → Except SchemaFault Schema
  | .createTable name => .ok (if s.tables.contains name then s else { s with tables := s.tables ++ [name] })
  | .createIndex name table =>
    if s.indexes.contains name then .ok s
    else if s.tables.contains table then .ok { s with indexes := s.indexes ++ [name] }
    else .error .noTable
  | .recordVersion version =>
    if !s.tables.contains versionTable then .error .noTable
    else if s.versions.contains version then .error .duplicateVersion
    else .ok { s with versions := s.versions ++ [version] }

/-- Executes statements one after the other. -/
def executeAll (s : Schema) (statements : List Statement) : Except SchemaFault Schema :=
  statements.foldlM execute s

/-- The greatest version recorded; zero when there is none. -/
def currentVersion (s : Schema) : Int :=
  match s.versions with
  | [] => 0
  | v :: vs => vs.foldl max v

/-- The current version, if it has 32 bits. -/
def readVersion (s : Schema) : Except SchemaFault Int :=
  if s.currentVersion < -(2 ^ (31 : Nat)) then .error (.unreadable .tooSmall)
  else if 2 ^ (31 : Nat) ≤ s.currentVersion then .error (.unreadable .tooLarge)
  else .ok s.currentVersion

/-- The version that is recorded where none is given. -/
def nextVersion (s : Schema) : Int := if s.versions.isEmpty then 1 else s.currentVersion + 1

/-- The version that a cell stands for. -/
def versionOf (s : Schema) : Cell → Except SchemaFault Int
  | none => .ok s.nextVersion
  | some v =>
    match v.asNumber.integer? with
    | some n => .ok n
    | none => .error .notWhole

/-- Records a version that is given as a cell. -/
def record (s : Schema) (version : Cell) : Except SchemaFault Schema := do
  s.execute (.recordVersion (← s.versionOf version))

/-- The version that the migrations lead to. -/
def targetVersion : Int := 3

/-- Users and channels. -/
def userStatements : List Statement :=
  [.createTable "users", .createIndex "idx_users_username" "users", .createIndex "idx_users_email" "users",
    .createTable "channels", .createIndex "idx_channels_name" "channels", .createTable "channel_members"]

/-- Messages, direct messages and files. -/
def messageStatements : List Statement :=
  [.createTable "messages", .createIndex "idx_messages_channel_id" "messages",
    .createIndex "idx_messages_sender_id" "messages", .createIndex "idx_messages_created_at" "messages",
    .createTable "message_reactions", .createTable "direct_messages",
    .createIndex "idx_direct_messages_sender_id" "direct_messages",
    .createIndex "idx_direct_messages_receiver_id" "direct_messages", .createTable "files",
    .createIndex "idx_files_message_id" "files"]

/-- History and saved searches. -/
def searchStatements : List Statement :=
  [.createTable "search_history", .createIndex "idx_search_history_user_created" "search_history",
    .createTable "saved_searches", .createIndex "idx_saved_searches_user_id" "saved_searches"]

/-- The migrations with the versions they lead to. -/
def migrations : List (Int × List Statement) := [(1, userStatements), (2, messageStatements), (3, searchStatements)]

/-- The statements of a run: the table of versions, and the migrations above the current version. -/
def pendingStatements (s : Schema) : List Statement :=
  .createTable versionTable ::
    (migrations.filter fun m => s.currentVersion < m.1).flatMap fun m => m.2 ++ [.recordVersion m.1]

/-- Runs the migrations. -/
def migrate (s : Schema) : Except SchemaFault Schema := do
  let _ ← s.readVersion
  s.executeAll s.pendingStatements

/-- Runs the migrations up to a number of statements. -/
def migrateInterrupted (s : Schema) (count : Nat) : Except SchemaFault Schema :=
  s.executeAll (s.pendingStatements.take count)

/-- The names of the catalog of tables and indexes. -/
def catalogNames : List String := ["sqlite_master", "sqlite_schema"]

/-- The names of the catalog of tables that live as long as a connection; there are none. -/
def temporaryCatalogNames : List String := ["sqlite_temp_master", "sqlite_temp_schema"]

/-- The number of keys of a table for which an index of its own is made. -/
def keyCount (table : String) : Nat :=
  if table = versionTable then 0 else if table = "users" ∨ table = "channels" then 2 else 1

/-- The number of tables and indexes, those of keys among them. -/
def catalogSize (s : Schema) : Nat := s.tables.length + s.indexes.length + (s.tables.map keyCount).sum

/-- The state of the migrations. -/
structure Status where
  current : Int
  target : Int
  needsMigration : Bool
  deriving DecidableEq, Repr

/-- The state of the migrations; asking makes the table of versions. -/
def status (s : Schema) : Except SchemaFault (Status × Schema) := do
  let s ← s.execute (.createTable versionTable)
  let version ← s.readVersion
  return (⟨version, targetVersion, version < targetVersion⟩, s)

end Schema

end WorkspaceSearch
