import WorkspaceSearch.Json.Value
import WorkspaceSearch.Options

/-!
# Search results

A result of any domain has the same fields: a text, a date, a score, highlights and context; and it has details of its
own domain.
-/

namespace WorkspaceSearch

/-- A user or a channel that a result refers to. -/
structure Reference where
  id : String
  name : String
  deriving DecidableEq, Repr, Inhabited

/-- What only the results of one domain have. -/
inductive Details where
  | message (messageType : String) (attachmentId : Option String) (reactionCount : Int)
  | directMessage (receiver : Reference) (attachmentId : Option String)
  | file (fileType : String) (fileSize : Int) (url messageId : Option String)
  | channel (tier : String) (memberCount : Int)
  | user (username email : String) (isAdmin : Bool) (avatarUrl : Option String)
  deriving DecidableEq, Repr

/-- The domain that details belong to. -/
def Details.domain : Details → Domain
  | .message .. => .messages
  | .directMessage .. => .directMessages
  | .file .. => .files
  | .channel .. => .channels
  | .user .. => .users

/-- A result of a search. -/
structure SearchResult where
  id : String
  content : String
  title : Option String := none
  /-- A window around the first match. -/
  context : Option String := none
  author : Option Reference := none
  channel : Option Reference := none
  timestamp : Instant
  /-- The pieces that the words of the query match, repeated ones again. -/
  highlights : List String := []
  score : Decimal := {}
  metadata : List (String × Json) := []
  details : Details

/-- The domain that a result belongs to. -/
def SearchResult.domain (r : SearchResult) : Domain := r.details.domain

/-- A page of results. -/
structure SearchResponse where
  results : List SearchResult
  /-- The number of results of all domains before the page was cut out of them. -/
  total : Nat

end WorkspaceSearch
