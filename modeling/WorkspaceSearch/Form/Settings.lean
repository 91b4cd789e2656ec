import WorkspaceSearch.Json.Form
import WorkspaceSearch.Settings.Basic

/-!
# Documents of settings

The written forms of the settings and of their sections.  Every field may be missing; it is then read as its default.
-/

namespace WorkspaceSearch.Form

/-- A whole number of a range. -/
def bounded (range : Numeral.Range) : Form (Numeral.Bounded range) where
  write n := .integer n.val
  read
    | .integer n => Numeral.Bounded.ofInt? range n
    | _ => none

/-- The settings of the search. -/
def searchSettings : Form SearchSettings where
  write s := .object [
    ("default_limit", (bounded _).write s.defaultLimit),
    ("max_results_per_domain", (bounded _).write s.maxResultsPerDomain),
    ("domain_timeout_ms", (bounded _).write s.domainTimeout),
    ("context_radius", (bounded _).write s.contextRadius)]
  read j := do
    let default : SearchSettings := {}
    let r ← Record.ofJson? ["default_limit", "max_results_per_domain", "domain_timeout_ms", "context_radius"] j
    let defaultLimit ← r.withDefault "default_limit" (bounded _) default.defaultLimit
    let maxResultsPerDomain ← r.withDefault "max_results_per_domain" (bounded _) default.maxResultsPerDomain
    let domainTimeout ← r.withDefault "domain_timeout_ms" (bounded _) default.domainTimeout
    let contextRadius ← r.withDefault "context_radius" (bounded _) default.contextRadius
    some { defaultLimit, maxResultsPerDomain, domainTimeout, contextRadius }

/-- The settings of the suggestions. -/
def suggestionSettings : Form SuggestionSettings where
  write s := .object [
    ("min_prefix_len", (bounded _).write s.minPrefixLength),
    ("history_limit", (bounded _).write s.historyLimit),
    ("channel_limit", (bounded _).write s.channelLimit),
    ("user_limit", (bounded _).write s.userLimit)]
  read j := do
    let default : SuggestionSettings := {}
    let r ← Record.ofJson? ["min_prefix_len", "history_limit", "channel_limit", "user_limit"] j
    let minPrefixLength ← r.withDefault "min_prefix_len" (bounded _) default.minPrefixLength
    let historyLimit ← r.withDefault "history_limit" (bounded _) default.historyLimit
    let channelLimit ← r.withDefault "channel_limit" (bounded _) default.channelLimit
    let userLimit ← r.withDefault "user_limit" (bounded _) default.userLimit
    some { minPrefixLength, historyLimit, channelLimit, userLimit }

/-- The settings of the storage. -/
def storageSettings : Form StorageSettings where
  write s := .object [
    ("database_path", text.option.write s.databasePath),
    ("max_connections", (bounded _).write s.maxConnections)]
  read j := do
    let default : StorageSettings := {}
    let r ← Record.ofJson? ["database_path", "max_connections"] j
    let databasePath ← r.withDefault "database_path" text.option default.databasePath
    let maxConnections ← r.withDefault "max_connections" (bounded _) default.maxConnections
    some { databasePath, maxConnections }

/-- The settings of the service. -/
def settings : Form Settings where
  write s := .object [
    ("search", searchSettings.write s.search),
    ("suggestions", suggestionSettings.write s.suggestions),
    ("storage", storageSettings.write s.storage)]
  read j := do
    let r ← Record.ofJson? ["search", "suggestions", "storage"] j
    let search ← r.withDefault "search" searchSettings {}
    let suggestions ← r.withDefault "suggestions" suggestionSettings {}
    let storage ← r.withDefault "storage" storageSettings {}
    some { search, suggestions, storage }

end WorkspaceSearch.Form
