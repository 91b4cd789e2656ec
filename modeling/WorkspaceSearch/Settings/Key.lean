import WorkspaceSearch.Settings.Basic

/-!
# Settings by key

Every setting has a key, the name of its section and its own name with a point between them.  Settings are read and
written by key as texts: numbers as numerals, the path of the database as it is.

Writing refuses what is not a numeral of the range of the setting, and a number that no service can run with, so
settings that are valid stay valid.
-/

namespace WorkspaceSearch

open Numeral (Bounded)

/-- The key of a setting that is a number. -/
inductive NumberKey where
  | defaultLimit
  | maxResultsPerDomain
  | domainTimeout
  | contextRadius
  | minPrefixLength
  | historyLimit
  | channelLimit
  | userLimit
  | maxConnections
  deriving DecidableEq, Repr

namespace NumberKey

/-- The section of a setting. -/
def sectionName : NumberKey → String
  | .defaultLimit | .maxResultsPerDomain | .domainTimeout | .contextRadius => "search"
  | .minPrefixLength | .historyLimit | .channelLimit | .userLimit => "suggestions"
  | .maxConnections => "storage"

/-- The name of a setting in its section. -/
def fieldName : NumberKey → String
  | .defaultLimit => "default_limit"
  | .maxResultsPerDomain => "max_results_per_domain"
  | .domainTimeout => "domain_timeout_ms"
  | .contextRadius => "context_radius"
  | .minPrefixLength => "min_prefix_len"
  | .historyLimit => "history_limit"
  | .channelLimit => "channel_limit"
  | .userLimit => "user_limit"
  | .maxConnections => "max_connections"

/-- The range of a setting. -/
def range : NumberKey → Numeral.Range
  | .defaultLimit => .integer64
  | .domainTimeout | .contextRadius | .minPrefixLength => .natural64
  | .maxResultsPerDomain | .historyLimit | .channelLimit | .userLimit | .maxConnections => .natural32

/-- What is wrong with a number in range, if a service cannot run with it. -/
def problem? (key : NumberKey) (n : Int) : Option SettingProblem :=
  match key with
  | .defaultLimit => if n < 0 then some .negativeLimit else none
  | .domainTimeout => if n = 0 then some .zeroTimeout else none
  | .minPrefixLength => if n = 0 then some .zeroPrefixLength else none
  | .maxConnections => if n = 0 then some .noConnections else none
  | _ => none

end NumberKey

/-- The key of a setting. -/
inductive SettingKey where
  | number (key : NumberKey)
  | databasePath
  deriving DecidableEq, Repr

namespace SettingKey

/-- The text of a key. -/
def name : SettingKey → String
  | .number key => key.sectionName ++ "." ++ key.fieldName
  | .databasePath => "storage.database_path"

/-- Every key, in the order in which settings are listed. -/
def all : List SettingKey :=
  [.number .defaultLimit, .number .maxResultsPerDomain, .number .domainTimeout, .number .contextRadius,
    .number .minPrefixLength, .number .historyLimit, .number .channelLimit, .number .userLimit, .databasePath,
    .number .maxConnections]

/-- The key a text means. -/
def ofName? (text : String) : Option SettingKey := all.find? fun key => key.name = text

end SettingKey

/-- Why a setting cannot be read or written by key. -/
inductive SettingRefusal where
  | unknownKey (key : String)
  | notNumeral (key : NumberKey) (text : String) (fault : Numeral.Fault)
  | unusable (problem : SettingProblem)
  deriving DecidableEq, Repr

namespace SettingRefusal

/-- The wording of a number that no service can run with, when it is written by key. -/
def problemMessage : SettingProblem → String
  | .negativeLimit => "Default limit must be non-negative"
  | .zeroTimeout => "Domain timeout must be greater than zero"
  | .zeroPrefixLength => "Minimum prefix length must be at least 1"
  | .noConnections => "Connection pool needs at least one connection"
  | .described text => text

/-- The wording of a refusal. -/
def message : SettingRefusal → String
  | .unknownKey key => "Unknown configuration key: " ++ key
  | .notNumeral key text _ => "Invalid " ++ key.fieldName ++ " value: " ++ text
  | .unusable problem => problemMessage problem

/-- What is wrong with the numeral, if that is the reason. -/
def fault? : SettingRefusal → Option Numeral.Fault
  | .notNumeral _ _ fault => some fault
  | _ => none

end SettingRefusal

namespace Settings

/-- The number of a key. -/
def number (s : Settings) : (key : NumberKey) → Bounded key.range
  | .defaultLimit => s.search.defaultLimit
  | .maxResultsPerDomain => s.search.maxResultsPerDomain
  | .domainTimeout => s.search.domainTimeout
  | .contextRadius => s.search.contextRadius
  | .minPrefixLength => s.suggestions.minPrefixLength
  | .historyLimit => s.suggestions.historyLimit
  | .channelLimit => s.suggestions.channelLimit
  | .userLimit => s.suggestions.userLimit
  | .maxConnections => s.storage.maxConnections

/-- The settings with another number under a key. -/
def withNumber (s : Settings) : (key : NumberKey) → Bounded key.range → Settings
  | .defaultLimit, n => { s with search.defaultLimit := n }
  | .maxResultsPerDomain, n => { s with search.maxResultsPerDomain := n }
  | .domainTimeout, n => { s with search.domainTimeout := n }
  | .contextRadius, n => { s with search.contextRadius := n }
  | .minPrefixLength, n => { s with suggestions.minPrefixLength := n }
  | .historyLimit, n => { s with suggestions.historyLimit := n }
  | .channelLimit, n => { s with suggestions.channelLimit := n }
  | .userLimit, n => { s with suggestions.userLimit := n }
  | .maxConnections, n => { s with storage.maxConnections := n }

/-- The text of a setting. -/
def textOf (s : Settings) : SettingKey → String
  | .number key => Numeral.render (s.number key).val
  | .databasePath => s.storage.databasePath.getD "(default)"

/-- Reads a setting by key. -/
def get (s : Settings) (key : String) : Except SettingRefusal String :=
  match SettingKey.ofName? key with
  | some key => .ok (s.textOf key)
  | none => .error (.unknownKey key)

/-- Writes a number by key. -/
def setNumber (s : Settings) (key : NumberKey) (text : String) : Except SettingRefusal Settings :=
  match Numeral.readBounded key.range text with
  | .error fault => .error (.notNumeral key text fault)
  | .ok n =>
    match key.problem? n.val with
    | some problem => .error (.unusable problem)
    | none => .ok (s.withNumber key n)

/-- Writes a setting by key. -/
def set (s : Settings) (key text : String) : Except SettingRefusal Settings :=
  match SettingKey.ofName? key with
  | some (.number key) => s.setNumber key text
  | some .databasePath => .ok { s with storage.databasePath := some text }
  | none => .error (.unknownKey key)

/-- All settings with their keys. -/
def list (s : Settings) : List (String × String) := SettingKey.all.map fun key => (key.name, s.textOf key)

end Settings

end WorkspaceSearch
