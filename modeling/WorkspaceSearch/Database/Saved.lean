import WorkspaceSearch.Database.Lookup
import WorkspaceSearch.Form.SavedSearch
import WorkspaceSearch.Json.Reader
import WorkspaceSearch.Json.Writer

/-!
# History and saved searches in the database

Filters are stored as the text of their document and the scope by its name.  A stored row that was not written in this
way may fail to be read: first the times and numbers of all rows, then in each row the identifier, the filters and the
scope.

Where rows are ordered by time, it is their stored scalars that are compared.
-/

namespace WorkspaceSearch

/-- The stored text of filters. -/
def Filters.toStored (f : Filters) : String := (Form.filters.write f).render

/-- Reads stored filters. -/
def Filters.ofStored (text : String) : Except Error Filters :=
  match (Json.parseMembers? Form.filterFields text).bind Form.filters.read with
  | some f => .ok f
  | none => .error (.stored .filters)

/-- Reads a stored scope. -/
def Scope.ofStored (text : String) : Except Error Scope :=
  match Scope.ofName text with
  | .ok s => .ok s
  | .error _ => .error (.stored (.scope text))

/-- The value read from a column, if it can be read. -/
def ofColumn {α : Type} : Option α → Except Error α
  | some a => .ok a
  | none => .error (.database .unreadableColumn)

namespace HistoryEntry

/-- The row of a history entry. -/
def toStored (e : HistoryEntry) : Stored.History :=
  { id := e.id.render, userId := e.userId, query := e.query, filters := e.filters.toStored, scope := e.scope.name
    createdAt := .text e.createdAt.toStored }

/-- Reads a row whose time has been read. -/
def ofStored (h : Stored.History) (createdAt : Instant) : Except Error HistoryEntry := do
  let some id := Uuid.ofText? h.id | .error (.stored .historyId)
  let filters ← Filters.ofStored h.filters
  let scope ← Scope.ofStored h.scope
  return { id, userId := h.userId, query := h.query, filters, scope, createdAt }

/-- Reads rows. -/
def ofRows (rows : List Stored.History) : Except Error (List HistoryEntry) := do
  let timed ← rows.mapM fun h => do return (h, ← ofColumn h.createdAt.instant?)
  timed.mapM fun (h, createdAt) => ofStored h createdAt

end HistoryEntry

namespace SavedSearch

/-- The row of a saved search. -/
def toStored (s : SavedSearch) : Stored.Saved :=
  { id := s.id.render, userId := s.userId, name := s.name, query := s.query, filters := s.filters.toStored
    scope := s.scope.name, isPinned := .integer (if s.isPinned then 1 else 0), usageCount := .integer s.usageCount
    lastUsedAt := s.lastUsedAt.map fun t => .text t.toStored, createdAt := .text s.createdAt.toStored
    updatedAt := .text s.updatedAt.toStored }

/-- The times and numbers of a row. -/
structure Scalars where
  isPinned : Bool
  usageCount : Int
  lastUsedAt : Option Instant
  createdAt : Instant
  updatedAt : Instant

/-- Reads the times and numbers of a row. -/
def Scalars.ofStored (s : Stored.Saved) : Except Error Scalars := do
  let isPinned ← ofColumn s.isPinned.bool?
  let usageCount ← ofColumn s.usageCount.integer?
  let lastUsedAt ← s.lastUsedAt.mapM fun t => ofColumn t.instant?
  let createdAt ← ofColumn s.createdAt.instant?
  let updatedAt ← ofColumn s.updatedAt.instant?
  return { isPinned, usageCount, lastUsedAt, createdAt, updatedAt }

/-- Reads a row whose times and numbers have been read. -/
def ofStored (s : Stored.Saved) (t : Scalars) : Except Error SavedSearch := do
  let some id := Uuid.ofText? s.id | .error (.stored .savedId)
  let filters ← Filters.ofStored s.filters
  let scope ← Scope.ofStored s.scope
  return { id, userId := s.userId, name := s.name, query := s.query, filters, scope, isPinned := t.isPinned
           usageCount := t.usageCount, lastUsedAt := t.lastUsedAt, createdAt := t.createdAt, updatedAt := t.updatedAt }

/-- Reads rows. -/
def ofRows (rows : List Stored.Saved) : Except Error (List SavedSearch) := do
  let read ← rows.mapM fun s => do return (s, ← Scalars.ofStored s)
  read.mapM fun (s, t) => ofStored s t

end SavedSearch

namespace Database

/-! ### History -/

/-- The history of a user, the entry with the greatest time in front; of those with one time the one that was inserted
last comes first. -/
def historyOf (db : Database) (userId : String) : List Stored.History :=
  (db.history.toList.filter fun h => h.userId = userId).reverse.mergeSort fun a b => b.createdAt.le a.createdAt

/-- The latest history entries of a user. -/
def listHistory (db : Database) (userId : String) (limit : Nat) : Except Error (List HistoryEntry) :=
  HistoryEntry.ofRows ((db.historyOf userId).take limit)

/-- The greatest time of some entries, if there are any. -/
def latestUse : List Stored.History → Option Scalar
  | [] => none
  | h :: rest => some (rest.foldl (fun latest k => if latest.le k.createdAt then k.createdAt else latest) h.createdAt)

/-- Different queries of a user that start with a text, the one with the greatest time in front; those with one time
are in the order of texts, the last in front. -/
def recentQueriesWithPrefix (db : Database) (userId start : String) (limit : Nat) :
    Except DatabaseFault (List String) :=
  let pattern := Like.startingWith start
  let own := db.history.toList.filter fun h => h.userId = userId
  let entries := own.filter fun h => Like.isMatch pattern h.query
  let queries := ((entries.map (·.query)).mergeSort fun a b => b ≤ a).eraseDups
  let dated := queries.filterMap fun q => (latestUse (entries.filter (·.query = q))).map fun t => (q, t)
  guardLookup false true (0 < limit && !own.isEmpty && Like.isTooLong pattern)
    (.ok (((dated.mergeSort fun a b => b.2.le a.2).map (·.1)).take limit))

/-! ### Saved searches -/

/-- Whether a saved search may stand in front of another: pinned ones come first, then those used last, then those
created last; those never used come at the end. -/
def savedInOrder (a b : Stored.Saved) : Bool :=
  if !a.isPinned.same b.isPinned then b.isPinned.le a.isPinned
  else
    match a.lastUsedAt, b.lastUsedAt with
    | some s, some t => if !s.same t then t.le s else b.createdAt.le a.createdAt
    | some _, none => true
    | none, some _ => false
    | none, none => b.createdAt.le a.createdAt

/-- The saved searches of a user. -/
def listSavedSearches (db : Database) (userId : String) : Except Error (List SavedSearch) :=
  SavedSearch.ofRows ((db.saved.toList.filter fun s => s.userId = userId).mergeSort savedInOrder)

/-- The saved search with an identifier. -/
def getSavedSearch (db : Database) (id : Uuid) : Except Error (Option SavedSearch) :=
  match db.saved.toList.find? fun s => s.id = id.render with
  | none => .ok none
  | some s => do return some (← SavedSearch.ofStored s (← SavedSearch.Scalars.ofStored s))

/-- Writes a saved search over the row with its identifier; owner and time of creation stay. -/
def updateSavedSearch (db : Database) (s : SavedSearch) : Database :=
  let new := s.toStored
  { db with saved := db.saved.map fun old =>
      if old.id = new.id then { new with userId := old.userId, createdAt := old.createdAt } else old }

end Database

end WorkspaceSearch
