import WorkspaceSearch.Database.Lookup
import WorkspaceSearch.Database.Saved
import WorkspaceSearch.Store.Call

/-!
# The database as a store

How the database answers every call to a store.  Looking up changes nothing, and a call that fails changes nothing.
-/

namespace WorkspaceSearch.Database

/-- The outcome of a lookup. -/
def found {α : Type} (db : Database) (outcome : Except DatabaseFault α) : Except Error α × Database :=
  (outcome.mapError .database, db)

/-- The outcome of a change. -/
def changed (db : Database) : Except DatabaseFault Database → Except Error Unit × Database
  | .ok db' => (.ok (), db')
  | .error fault => (.error (.database fault), db)

/-- The answer to a call, and the database afterwards. -/
def answer : Store Database
  | .searchMessages q, db => db.found (db.searchMessages q)
  | .searchDirectMessages q, db => db.found (db.searchDirectMessages q)
  | .attachmentMessageIds ids, db => db.found (db.attachmentMessageIds ids)
  | .searchFiles q, db => db.found (db.searchFiles q)
  | .searchChannels q, db => db.found (db.searchChannels q)
  | .resolveChannelIds names, db => db.found (db.resolveChannelIds names)
  | .channelNamesWithPrefix start limit, db => db.found (db.channelNamesWithPrefix start limit)
  | .searchUsers q, db => db.found (db.searchUsers q)
  | .resolveUserIds names, db => db.found (db.resolveUserIds names)
  | .fullNamesContaining fragment limit, db => db.found (db.fullNamesContaining fragment limit)
  | .recordSearch e, db => db.changed (db.insertHistory e.toStored)
  | .recentQueriesWithPrefix userId start limit, db => db.found (db.recentQueriesWithPrefix userId start limit)
  | .listHistory userId limit, db => (db.listHistory userId limit, db)
  | .clearHistory userId, db =>
    (.ok (db.history.toList.countP fun h => h.userId = userId), db.deleteHistory fun h => h.row.userId = userId)
  | .insertSavedSearch s, db => db.changed (db.insertSaved s.toStored)
  | .getSavedSearch id, db => (db.getSavedSearch id, db)
  | .listSavedSearches userId, db => (db.listSavedSearches userId, db)
  | .updateSavedSearch s, db => (.ok (), db.updateSavedSearch s)
  | .deleteSavedSearch id, db =>
    (.ok (db.saved.any fun s => s.id = id.render), db.deleteSaved fun s => s.row.id = id.render)

end WorkspaceSearch.Database
