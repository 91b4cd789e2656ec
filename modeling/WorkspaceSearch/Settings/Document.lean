import WorkspaceSearch.Settings.Basic
import WorkspaceSearch.Toml.Reader

/-!
# Settings as a document

Settings are written as a TOML document with a table for every section.  A document is read field by field: what it
does not mention has its default, what it mentions besides counts for nothing, and a field of the wrong kind or out of
its range makes it unreadable.  A section may also be an array with its fields in order.

Numbers in a document have a sign, so the upper half of the numbers of 64 bits without one cannot be written.
-/

namespace WorkspaceSearch

open Toml (Value)
open Numeral (Bounded Range)

/-! ### Writing -/

/-- A line of a section that holds a number, unless the number is too large to be written. -/
def Settings.numberLine {range : Range} (name : String) (n : Bounded range) : Option String :=
  if Range.integer64.holds n.val then some (name ++ " = " ++ Numeral.render n.val ++ "\n") else none

/-- The lines of the search section. -/
def SearchSettings.lines (s : SearchSettings) : Option (List String) :=
  [Settings.numberLine "default_limit" s.defaultLimit,
    Settings.numberLine "max_results_per_domain" s.maxResultsPerDomain,
    Settings.numberLine "domain_timeout_ms" s.domainTimeout,
    Settings.numberLine "context_radius" s.contextRadius].mapM id

/-- The lines of the suggestion section. -/
def SuggestionSettings.lines (s : SuggestionSettings) : Option (List String) :=
  [Settings.numberLine "min_prefix_len" s.minPrefixLength,
    Settings.numberLine "history_limit" s.historyLimit,
    Settings.numberLine "channel_limit" s.channelLimit,
    Settings.numberLine "user_limit" s.userLimit].mapM id

/-- The lines of the storage section. -/
def StorageSettings.lines (s : StorageSettings) : Option (List String) :=
  let path := s.databasePath.toList.map fun p => "database_path = " ++ .ofList (Toml.quote p.toList) ++ "\n"
  (Settings.numberLine "max_connections" s.maxConnections).map fun line => path ++ [line]

/-- The document of settings, unless one of their numbers is too large to be written. -/
def Settings.toDocument? (s : Settings) : Option String := do
  let search ← s.search.lines
  let suggestions ← s.suggestions.lines
  let storage ← s.storage.lines
  some (String.join (["[search]\n"] ++ search ++ ["\n[suggestions]\n"] ++ suggestions ++ ["\n[storage]\n"] ++ storage))

/-! ### Reading -/

/-- The fields of a section: those of a table by name, those of an array by their place.  A date has none. -/
def Settings.sectionFields (names : List String) : Value → Option (String → Option Value)
  | .table entries => some fun name => (entries.find? fun e => e.1 = name).map (·.2)
  | .array items => some fun name => ((names.zip items).find? fun e => e.1 = name).map (·.2)
  | .datetime _ => some fun _ => none
  | _ => none

/-- Reads a number; a field that is missing has its default. -/
def Settings.readNumber {range : Range} (default : Bounded range) : Option Value → Option (Bounded range)
  | none => some default
  | some (.integer n) => Bounded.ofInt? range n
  | some _ => none

/-- Reads a path, which may be missing. -/
def Settings.readPath : Option Value → Option (Option String)
  | none => some none
  | some (.string s) => some (some s)
  | some _ => none

/-- Reads a section; one that is missing has its defaults. -/
def Settings.readSection {α : Type} (default : α) (read : Value → Option α) : Option Value → Option α
  | none => some default
  | some v => read v

/-- Reads the search section. -/
def SearchSettings.ofValue? (v : Value) : Option SearchSettings := do
  let default : SearchSettings := {}
  let field ← Settings.sectionFields ["default_limit", "max_results_per_domain", "domain_timeout_ms", "context_radius"] v
  let defaultLimit ← Settings.readNumber default.defaultLimit (field "default_limit")
  let maxResultsPerDomain ← Settings.readNumber default.maxResultsPerDomain (field "max_results_per_domain")
  let domainTimeout ← Settings.readNumber default.domainTimeout (field "domain_timeout_ms")
  let contextRadius ← Settings.readNumber default.contextRadius (field "context_radius")
  some { defaultLimit, maxResultsPerDomain, domainTimeout, contextRadius }

/-- Reads the suggestion section. -/
def SuggestionSettings.ofValue? (v : Value) : Option SuggestionSettings := do
  let default : SuggestionSettings := {}
  let field ← Settings.sectionFields ["min_prefix_len", "history_limit", "channel_limit", "user_limit"] v
  let minPrefixLength ← Settings.readNumber default.minPrefixLength (field "min_prefix_len")
  let historyLimit ← Settings.readNumber default.historyLimit (field "history_limit")
  let channelLimit ← Settings.readNumber default.channelLimit (field "channel_limit")
  let userLimit ← Settings.readNumber default.userLimit (field "user_limit")
  some { minPrefixLength, historyLimit, channelLimit, userLimit }

/-- Reads the storage section. -/
def StorageSettings.ofValue? (v : Value) : Option StorageSettings := do
  let default : StorageSettings := {}
  let field ← Settings.sectionFields ["database_path", "max_connections"] v
  let databasePath ← Settings.readPath (field "database_path")
  let maxConnections ← Settings.readNumber default.maxConnections (field "max_connections")
  some { databasePath, maxConnections }

/-- Reads settings. -/
def Settings.ofValue? (v : Value) : Option Settings := do
  let field ← sectionFields ["search", "suggestions", "storage"] v
  let search ← readSection {} SearchSettings.ofValue? (field "search")
  let suggestions ← readSection {} SuggestionSettings.ofValue? (field "suggestions")
  let storage ← readSection {} StorageSettings.ofValue? (field "storage")
  some { search, suggestions, storage }

/-- Reads a document of settings. -/
def Settings.ofDocument? (text : String) : Option Settings := (Toml.parse? text).bind Settings.ofValue?

end WorkspaceSearch
