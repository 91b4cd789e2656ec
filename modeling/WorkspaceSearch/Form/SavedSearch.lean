import WorkspaceSearch.Form.Options
import WorkspaceSearch.SavedSearch

/-!
# Documents of saved searches and of the history

The written forms of history entries, saved searches, requests to save and updates.  A request may leave out filters
and scope, and an update any field.
-/

namespace WorkspaceSearch.Form

/-- The fields of a history entry. -/
def historyFields : List String := ["id", "user_id", "query", "filters", "scope", "created_at"]

/-- A search call that has been recorded. -/
def historyEntry : Form HistoryEntry where
  write e := .object [
    ("id", uuid.write e.id),
    ("user_id", text.write e.userId),
    ("query", text.write e.query),
    ("filters", filters.write e.filters),
    ("scope", scope.write e.scope),
    ("created_at", instant.write e.createdAt)]
  read j := do
    let r ← Record.ofJson? historyFields j
    let id ← r.required "id" uuid
    let userId ← r.required "user_id" text
    let query ← r.required "query" text
    let filters ← r.required "filters" filters
    let scope ← r.required "scope" scope
    let createdAt ← r.required "created_at" instant
    some { id, userId, query, filters, scope, createdAt }

/-- The fields of a saved search. -/
def savedFields : List String :=
  ["id", "user_id", "name", "query", "filters", "scope", "is_pinned", "usage_count", "last_used_at", "created_at",
    "updated_at"]

/-- A search kept under a name. -/
def savedSearch : Form SavedSearch where
  write s := .object [
    ("id", uuid.write s.id),
    ("user_id", text.write s.userId),
    ("name", text.write s.name),
    ("query", text.write s.query),
    ("filters", filters.write s.filters),
    ("scope", scope.write s.scope),
    ("is_pinned", bool.write s.isPinned),
    ("usage_count", integer64.write s.usageCount),
    ("last_used_at", instant.option.write s.lastUsedAt),
    ("created_at", instant.write s.createdAt),
    ("updated_at", instant.write s.updatedAt)]
  read j := do
    let r ← Record.ofJson? savedFields j
    let id ← r.required "id" uuid
    let userId ← r.required "user_id" text
    let name ← r.required "name" text
    let query ← r.required "query" text
    let filters ← r.required "filters" filters
    let scope ← r.required "scope" scope
    let isPinned ← r.required "is_pinned" bool
    let usageCount ← r.required "usage_count" integer64
    let lastUsedAt ← r.optional "last_used_at" instant
    let createdAt ← r.required "created_at" instant
    let updatedAt ← r.required "updated_at" instant
    some { id, userId, name, query, filters, scope, isPinned, usageCount, lastUsedAt, createdAt, updatedAt }

/-- A request to keep a search. -/
def saveRequest : Form SaveRequest where
  write q := .object [
    ("user_id", text.write q.userId),
    ("name", text.write q.name),
    ("query", text.write q.query),
    ("filters", filters.write q.filters),
    ("scope", scope.write q.scope)]
  read j := do
    let r ← Record.ofJson? ["user_id", "name", "query", "filters", "scope"] j
    let userId ← r.required "user_id" text
    let name ← r.required "name" text
    let query ← r.required "query" text
    let filters ← r.withDefault "filters" filters {}
    let scope ← r.withDefault "scope" scope .all
    some { userId, name, query, filters, scope }

/-- Changes to a saved search. -/
def savedUpdate : Form SavedUpdate where
  write u := .object [
    ("name", text.option.write u.name),
    ("query", text.option.write u.query),
    ("filters", filters.option.write u.filters),
    ("scope", scope.option.write u.scope),
    ("is_pinned", bool.option.write u.isPinned)]
  read j := do
    let r ← Record.ofJson? ["name", "query", "filters", "scope", "is_pinned"] j
    let name ← r.withDefault "name" text.option none
    let query ← r.withDefault "query" text.option none
    let filters ← r.withDefault "filters" filters.option none
    let scope ← r.withDefault "scope" scope.option none
    let isPinned ← r.withDefault "is_pinned" bool.option none
    some { name, query, filters, scope, isPinned }

end WorkspaceSearch.Form
