import WorkspaceSearch.Text.Numeral

/-!
# Errors

Why a search, a saved search, a stored row or a configuration is refused.  An error is a cause; its wording
(`Error.message`), its stable code (`Error.code`) and the advice that goes with it (`Error.suggestion`) are functions
of the cause.
-/

namespace WorkspaceSearch

/-- What is wrong with a request. -/
inductive RequestProblem where
  | negativeLimit (limit : Int)
  | negativeOffset (offset : Int)
  | missingUser
  | unknownScope (name : String)
  | unknownSortKey (name : String)
  | unknownSortOrder (name : String)
  /-- A saved search has a blank name. -/
  | blankName
  | described (text : String)
  deriving DecidableEq, Repr

/-- The wording of a problem with a request. -/
def RequestProblem.message : RequestProblem → String
  | .negativeLimit limit => "limit must not be negative (got " ++ Numeral.render limit ++ ")"
  | .negativeOffset offset => "offset must not be negative (got " ++ Numeral.render offset ++ ")"
  | .missingUser => "user_id is required"
  | .unknownScope name => "unknown search scope '" ++ name ++ "'"
  | .unknownSortKey name => "unknown sort key '" ++ name ++ "'"
  | .unknownSortOrder name => "unknown sort order '" ++ name ++ "'"
  | .blankName => "saved search name must not be empty"
  | .described text => text

/-- What is wrong with a stored row. -/
inductive StoredProblem where
  | filters
  | historyId
  | savedId
  | scope (name : String)
  | described (text : String)
  deriving DecidableEq, Repr

/-- The wording of a problem with a stored row. -/
def StoredProblem.message : StoredProblem → String
  | .filters => "Invalid filters: not the filters of a search"
  | .historyId => "Invalid history ID: not an identifier"
  | .savedId => "Invalid saved search ID: not an identifier"
  | .scope name => "Invalid scope: " ++ name
  | .described text => text

/-- Why the database refuses a statement or its answer cannot be used. -/
inductive DatabaseFault where
  /-- A row has the key of another row. -/
  | duplicateKey
  /-- A row refers to a row that is not there. -/
  | missingParent
  /-- A column that needs a value has none. -/
  | missingValue
  /-- A stored value cannot be read as what it stands for. -/
  | unreadableColumn
  /-- There is no such table or column. -/
  | unknownName
  /-- A statement lacks a part that it needs. -/
  | malformed
  /-- A row is given a number that is not a whole number, or that is taken. -/
  | badNumber
  /-- A statement or a pattern exceeds what the database accepts. -/
  | tooComplex
  deriving DecidableEq, Repr

/-- A setting no service can run with. -/
inductive SettingProblem where
  | negativeLimit
  | zeroTimeout
  | zeroPrefixLength
  | noConnections
  | described (text : String)
  deriving DecidableEq, Repr

/-- The wording of a problem with a setting. -/
def SettingProblem.message : SettingProblem → String
  | .negativeLimit => "search.default_limit must be non-negative"
  | .zeroTimeout => "search.domain_timeout_ms must be greater than zero"
  | .zeroPrefixLength => "suggestions.min_prefix_len must be at least 1"
  | .noConnections => "storage.max_connections must be at least 1"
  | .described text => text

/-- Why an operation fails. -/
inductive Error where
  | savedSearchNotFound (id : String)
  | domainFailure (domain reason : String)
  | domainTimeout (domain : String) (milliseconds : Nat)
  | database (fault : DatabaseFault)
  | stored (problem : StoredProblem)
  | configuration (problem : SettingProblem)
  | cancelled
  | request (problem : RequestProblem)
  | permissionDenied (user savedSearch : String)
  | internal (reason : String)
  | file (reason : String)
  deriving DecidableEq, Repr

namespace Error

/-- The wording of an error; what the database itself says is not part of it. -/
def message : Error → String
  | .savedSearchNotFound id =>
    "Saved search '" ++ id ++ "' not found. List saved searches to see available ids."
  | .domainFailure domain reason => "Search domain '" ++ domain ++ "' failed: " ++ reason
  | .domainTimeout domain milliseconds =>
    "Search domain '" ++ domain ++ "' timed out after " ++ Numeral.render milliseconds ++ "ms"
  | .database _ => "Database error"
  | .stored problem => "Failed to decode stored data: " ++ problem.message
  | .configuration problem => "Configuration error: " ++ problem.message
  | .cancelled => "Search was cancelled by the caller"
  | .request problem => "Invalid search request: " ++ problem.message
  | .permissionDenied user savedSearch =>
    "User '" ++ user ++ "' is not allowed to modify saved search '" ++ savedSearch ++ "'"
  | .internal reason => "Internal search error: " ++ reason
  | .file reason => reason

/-- The stable code of an error. -/
def code : Error → String
  | .savedSearchNotFound _ => "E001"
  | .domainFailure .. => "E100"
  | .domainTimeout .. => "E101"
  | .database _ => "E400"
  | .stored _ => "E401"
  | .configuration _ => "E600"
  | .cancelled => "E700"
  | .request _ => "E800"
  | .permissionDenied .. => "E801"
  | .internal _ | .file _ => "E9999"

/-- What the caller can do about an error. -/
def suggestion : Error → Option String
  | .savedSearchNotFound _ => some "List saved searches for this user"
  | .request _ =>
    some ("Use a non-negative limit/offset, scope one of all|messages|dms|files|channels|users " ++
      "and sort one of relevance|date")
  | .permissionDenied .. => some "Only the owner of a saved search can change it"
  | .configuration _ => some "Check OMNISEARCH_CONFIG_DIR/config.toml"
  | _ => none

/-- The search failed, and the caller made no mistake. -/
def isInternal : Error → Bool
  | .database _ | .stored _ | .internal _ | .file _ => true
  | _ => false

end Error

end WorkspaceSearch
