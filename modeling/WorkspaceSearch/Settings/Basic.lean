import WorkspaceSearch.Error

/-!
# Settings

The settings of the service in three sections: the search itself, the suggestions and the storage.  Every number has a
range of its own, which is part of its type; `Settings.validate` refuses the values in range that no service can run
with.
-/

namespace WorkspaceSearch

open Numeral (Bounded)

/-! ### The usual numbers -/

namespace Usual

def pageLength : Bounded .integer64 := ⟨20, by decide⟩

def rowsFetched : Bounded .natural32 := ⟨100, by decide⟩

def timeout : Bounded .natural64 := ⟨5000, by decide⟩

def radius : Bounded .natural64 := ⟨50, by decide⟩

def typedLength : Bounded .natural64 := ⟨2, by decide⟩

def pastQueries : Bounded .natural32 := ⟨5, by decide⟩

def names : Bounded .natural32 := ⟨3, by decide⟩

def connections : Bounded .natural32 := ⟨5, by decide⟩

end Usual

/-! ### Sections -/

/-- The settings of the search. -/
structure SearchSettings where
  /-- The length of a page when the caller asks for none. -/
  defaultLimit : Bounded .integer64 := Usual.pageLength
  /-- The least number of rows fetched for a domain. -/
  maxResultsPerDomain : Bounded .natural32 := Usual.rowsFetched
  /-- The milliseconds after which the search of a domain is given up. -/
  domainTimeout : Bounded .natural64 := Usual.timeout
  /-- The number of characters kept on both sides of a match. -/
  contextRadius : Bounded .natural64 := Usual.radius
  deriving DecidableEq, Repr, Inhabited

/-- The settings of the suggestions. -/
structure SuggestionSettings where
  /-- The least number of characters that something is suggested for. -/
  minPrefixLength : Bounded .natural64 := Usual.typedLength
  historyLimit : Bounded .natural32 := Usual.pastQueries
  channelLimit : Bounded .natural32 := Usual.names
  userLimit : Bounded .natural32 := Usual.names
  deriving DecidableEq, Repr, Inhabited

/-- The settings of the storage. -/
structure StorageSettings where
  /-- The file of the database, unless it is the usual one. -/
  databasePath : Option String := none
  maxConnections : Bounded .natural32 := Usual.connections
  deriving DecidableEq, Repr, Inhabited

/-- The settings of the service. -/
structure Settings where
  search : SearchSettings := {}
  suggestions : SuggestionSettings := {}
  storage : StorageSettings := {}
  deriving DecidableEq, Repr, Inhabited

/-- The first value that no service can run with, if there is one. -/
def Settings.problem? (s : Settings) : Option SettingProblem :=
  if s.search.defaultLimit.val < 0 then some .negativeLimit
  else if s.search.domainTimeout.val = 0 then some .zeroTimeout
  else if s.suggestions.minPrefixLength.val = 0 then some .zeroPrefixLength
  else if s.storage.maxConnections.val = 0 then some .noConnections
  else none

/-- Refuses settings that no service can run with. -/
def Settings.validate (s : Settings) : Except Error Unit :=
  match s.problem? with
  | some problem => .error (.configuration problem)
  | none => .ok ()

end WorkspaceSearch
