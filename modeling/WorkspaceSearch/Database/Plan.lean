import WorkspaceSearch.Database.Stored
import WorkspaceSearch.Store.Lookup

/-!
# Plans

The conditions of a lookup may be tested in any order.  The database starts with those for which it has an index, and
tests the texts of a row only if the row has come that far.  With which conditions it starts is up to the database: a
plan tells of which messages the texts are tested.  It depends on the conditions of a lookup and neither on its bounds
in time nor on its page, and on no other row.
-/

namespace WorkspaceSearch

/-- The filters without their bounds on the date. -/
def Filters.undated (f : Filters) : Filters := { f with dateFrom := none, dateTo := none }

/-- A lookup of messages without its bounds in time and its page. -/
def MessageLookup.timeless (q : MessageLookup) : MessageLookup :=
  { q with filters := q.filters.undated, after := none, before := none, limit := 0, offset := 0 }

/-- A lookup of direct messages without its bounds in time and its page. -/
def DirectMessageLookup.timeless (q : DirectMessageLookup) : DirectMessageLookup :=
  { q with filters := q.filters.undated, after := none, before := none, limit := 0, offset := 0 }

/-- Of which messages the texts are tested. -/
structure Plan where
  testsMessage : MessageLookup → Stored.Message → Bool
  testsDirectMessage : DirectMessageLookup → Stored.DirectMessage → Bool

/-- The plan that tests every message. -/
def Plan.scan : Plan where
  testsMessage _ _ := true
  testsDirectMessage _ _ := true

instance : Inhabited Plan := ⟨.scan⟩

end WorkspaceSearch
