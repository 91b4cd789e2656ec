import WorkspaceSearch.Options
import WorkspaceSearch.Uuid

/-!
# Saved searches and history

A user can keep a search under a name, pin it and run it again; and every search call is recorded in the history of
its user.
-/

namespace WorkspaceSearch

/-- A search call that has been recorded. -/
structure HistoryEntry where
  id : Uuid
  userId : String
  /-- The query with its operators. -/
  query : String
  filters : Filters
  scope : Scope
  createdAt : Instant
  deriving DecidableEq, Repr

/-- A search kept under a name. -/
structure SavedSearch where
  id : Uuid
  userId : String
  name : String
  query : String
  filters : Filters
  scope : Scope
  isPinned : Bool
  usageCount : Int
  lastUsedAt : Option Instant
  createdAt : Instant
  updatedAt : Instant
  deriving DecidableEq, Repr

/-- What a user asks to be kept. -/
structure SaveRequest where
  userId : String
  name : String
  query : String
  filters : Filters := {}
  scope : Scope := .all
  deriving DecidableEq, Repr

/-- Changes to a saved search; what is not given stays. -/
structure SavedUpdate where
  name : Option String := none
  query : Option String := none
  filters : Option Filters := none
  scope : Option Scope := none
  isPinned : Option Bool := none
  deriving DecidableEq, Repr

namespace SavedSearch

/-- A new saved search: not pinned and never used. -/
def ofRequest (r : SaveRequest) (id : Uuid) (now : Instant) : SavedSearch :=
  { id, userId := r.userId, name := r.name, query := r.query, filters := r.filters, scope := r.scope
    isPinned := false, usageCount := 0, lastUsedAt := none, createdAt := now, updatedAt := now }

/-- The search that a saved search stands for. -/
def toOptions (s : SavedSearch) : SearchOptions :=
  { query := s.query, filters := s.filters, scope := s.scope, userId := s.userId }

end SavedSearch

end WorkspaceSearch
