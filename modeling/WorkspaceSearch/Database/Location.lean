import WorkspaceSearch.Settings.Basic
import WorkspaceSearch.Text.Quoted

/-!
# Where the database is

A database is a file or lives in memory, with a number of connections.  Opening a file makes the folders above it; it
fails when a file stands where a folder is needed, and when the path is a folder or a file that is not a database.

A path is a text whose pieces stand between slashes.  An empty piece and a dot stay where they are, two dots lead to the
folder above, and any other piece is a name.
-/

namespace WorkspaceSearch

/-- Where a database is. -/
inductive DatabasePlace where
  | file (path : String)
  | memory
  deriving DecidableEq, Repr

/-- How a database is opened. -/
structure DatabaseAccess where
  place : DatabasePlace
  maxConnections : Nat
  deriving DecidableEq, Repr

namespace DatabaseAccess

/-- A database in a file. -/
def file (path : String) : DatabaseAccess := ⟨.file path, 5⟩

/-- A database in memory, which lives on its one connection. -/
def memory : DatabaseAccess := ⟨.memory, 1⟩

/-- The usual file below the folder for data. -/
def usualPath (dataFolder : String) : String := dataFolder ++ "/omnisearch/omnisearch.db"

/-- The database of the settings, by default in the usual file. -/
def ofSettings (dataFolder : String) (s : StorageSettings) : DatabaseAccess :=
  ⟨.file (s.databasePath.getD (usualPath dataFolder)), s.maxConnections.toNat⟩

/-- The same database with another number of connections. -/
def withMaxConnections (a : DatabaseAccess) (n : Nat) : DatabaseAccess := { a with maxConnections := n }

end DatabaseAccess

namespace FilePath

/-- The pieces of a path. -/
def pieces (path : String) : List String := path.splitOn "/"

/-- A piece that stays where it is. -/
def isIdle (piece : String) : Bool := piece = "" ∨ piece = "."

/-- The way from the top that is reached by a piece. -/
def step (way : List String) (piece : String) : List String :=
  if isIdle piece then way else if piece = ".." then way.dropLast else way ++ [piece]

/-- The way from the top to what a path names. -/
def way (path : String) : List String := (pieces path).foldl step []

/-- Pieces without the idle ones at the end. -/
def dropIdle (pieces : List String) : List String := (pieces.reverse.dropWhile isIdle).reverse

/-- The path without its last piece, and without idle pieces around that one. -/
def parent (path : String) : String := "/".intercalate (dropIdle (dropIdle (pieces path)).dropLast)

/-- Whether a path can name a file, as one that ends in an idle piece cannot. -/
def canNameFile (path : String) : Bool := !(pieces path).getLast?.any isIdle

/-- The longest name of a file or a folder, in bytes. -/
def nameLimit : Nat := 255

/-- The longest path of a file or a folder, in bytes. -/
def pathLimit : Nat := 4095

/-- The file beside a database whose name has an ending more. -/
def companion (way : List String) (ending : String) : List String := way.dropLast ++ [way.getLastD "" ++ ending]

/-- The journal of a database, which is written before it changes. -/
def journal (way : List String) : List String := companion way "-journal"

/-- The log of the changes of a database. -/
def log (way : List String) : List String := companion way "-wal"

/-- The index of that log, which is shared by all connections. -/
def logIndex (way : List String) : List String := companion way "-shm"

/-- The longest name of the file of a database, which leaves room for the name of its journal. -/
def databaseNameLimit : Nat := nameLimit - 8

/-- The longest path of the file of a database, which leaves room for its journal as well. -/
def databasePathLimit : Nat := 512 - 8

end FilePath

/-- Files and folders by the ways from the top to them; the files are no databases. -/
structure FileTree where
  folders : List (List String) := []
  files : List (List String) := []
  deriving DecidableEq, Repr, Inhabited

namespace FileTree

/-- The tree with some folders and files below a root. -/
def ofPaths (root : String) (folders files : List String) : FileTree :=
  let below (path : String) : List String := FilePath.way (root ++ "/" ++ path)
  ⟨FilePath.way root :: folders.map below, files.map below⟩

/-- Whether a way leads to a folder: the top, a folder itself, or above a folder or a file. -/
def isFolder (t : FileTree) (way : List String) : Bool :=
  way.isEmpty || t.folders.any way.isPrefixOf || t.files.any fun f => way.isPrefixOf f && f != way

/-- Whether a way leads to a file. -/
def isFile (t : FileTree) (way : List String) : Bool := t.files.contains way

/-- The tree with the folder to which a piece leads from a folder, and the way there. -/
def enter? (t : FileTree) (way : List String) (piece : String) : Option (FileTree × List String) :=
  let next := FilePath.step way piece
  if t.isFolder next then some (t, next)
  else if t.isFile next || FilePath.nameLimit < piece.utf8ByteSize || piece.contains '\x00' then none
  else some ({ t with folders := t.folders ++ [next] }, next)

/-- The tree with the folder at a path and all folders on the way. -/
def makeFolder? (t : FileTree) (path : String) : Option FileTree :=
  if FilePath.pathLimit < path.utf8ByteSize then none
  else ((FilePath.pieces path).foldlM (fun (tree, way) piece => enter? tree way piece) (t, [])).map Prod.fst

/-- Whether a new database can be put at the end of a way. -/
def hasRoom (t : FileTree) (way : List String) : Bool :=
  !t.isFolder way && !t.isFile way && !t.isFolder (FilePath.log way) &&
    !t.isFolder (FilePath.journal way) &&
    (way.getLastD "").utf8ByteSize ≤ FilePath.databaseNameLimit &&
    ("/".intercalate way).utf8ByteSize ≤ FilePath.databasePathLimit

end FileTree

/-- Why a database cannot be opened. -/
inductive OpeningFault where
  /-- A folder above the file cannot be made. -/
  | noFolder (path : String)
  | noConnection (path : String)
  /-- The migrations fail. -/
  | noMigration
  deriving DecidableEq, Repr

/-- The wording of a fault. -/
def OpeningFault.message : OpeningFault → String
  | .noFolder path => "Failed to create database directory: " ++ Text.quoted path
  | .noConnection path => "Failed to connect to database: File(" ++ Text.quoted path ++ ")"
  | .noMigration => "Failed to run database migrations"

/-- Opens the database in the file at a path; the answer is whether the path then names a file. -/
def FileTree.openDatabase (t : FileTree) (path : String) : Except OpeningFault Bool :=
  let way := FilePath.way path
  match t.makeFolder? (FilePath.parent path) with
  | none => .error (.noFolder (FilePath.parent path))
  | some t =>
    if path.contains '\x00' || !t.hasRoom way then .error (.noConnection path)
    else if t.isFolder (FilePath.logIndex way) then .error .noMigration
    else .ok (FilePath.canNameFile path)

end WorkspaceSearch
