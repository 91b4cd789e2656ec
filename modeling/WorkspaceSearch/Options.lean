import WorkspaceSearch.Scope
import WorkspaceSearch.Time.Instant

/-!
# Search options

What a caller asks for: a query, filters that narrow the search on top of the operators of the query, the scope, the
order and the page.  `SearchOptions.validate` refuses a negative page and a missing user.
-/

namespace WorkspaceSearch

/-- Restrictions that the caller puts on a search. -/
structure Filters where
  channelId : Option String := none
  userId : Option String := none
  fileType : Option String := none
  dateFrom : Option Instant := none
  dateTo : Option Instant := none
  hasAttachment : Option Bool := none
  messageType : Option String := none
  /-- The tier of a channel; for channels only. -/
  channelTier : Option String := none
  /-- Whether a user is an administrator; for users only. -/
  isAdmin : Option Bool := none
  deriving DecidableEq, Repr, Inhabited

namespace Filters

/-- The filters with a channel. -/
def withChannel (f : Filters) (id : String) : Filters := { f with channelId := some id }

/-- The filters with a user. -/
def withUser (f : Filters) (id : String) : Filters := { f with userId := some id }

/-- The filters with a type of files. -/
def withFileType (f : Filters) (fileType : String) : Filters := { f with fileType := some fileType }

/-- The filters with bounds on the date in place of their own. -/
def withDateRange (f : Filters) (first last : Option Instant) : Filters :=
  { f with dateFrom := first, dateTo := last }

end Filters

/-- A search as a caller asks for it. -/
structure SearchOptions where
  /-- The query with its operators. -/
  query : String
  filters : Filters := {}
  scope : Scope := .all
  limit : Int := 20
  offset : Int := 0
  sortBy : SortBy := .relevance
  sortOrder : SortOrder := .descending
  /-- The user who searches. -/
  userId : String
  /-- The channels of that user.  When they are known, no message of another channel is found. -/
  userChannelIds : Option (List String) := none
  deriving DecidableEq, Repr, Inhabited

/-- Refuses a negative limit, a negative offset and a blank user, in this order. -/
def SearchOptions.validate (o : SearchOptions) : Except Error Unit :=
  if o.limit < 0 then .error (.request (.negativeLimit o.limit))
  else if o.offset < 0 then .error (.request (.negativeOffset o.offset))
  else if Text.isBlank o.userId then .error (.request .missingUser)
  else .ok ()

end WorkspaceSearch
