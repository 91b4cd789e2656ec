import WorkspaceSearch.Json.Form
import WorkspaceSearch.Options

/-!
# Documents of search options

The written forms of domains, scopes and orders, of filters and of search options.  Every field of the filters may be
missing; of the options only the channels of the user may.
-/

namespace WorkspaceSearch.Form

/-- A domain, by its name. -/
def domain : Form Domain := choice Domain.all Domain.name

/-- A scope, by its name. -/
def scope : Form Scope := choice Scope.every Scope.name

/-- An ordering key, by its name. -/
def sortBy : Form SortBy := choice [.relevance, .date] SortBy.name

/-- A direction, by its name. -/
def sortOrder : Form SortOrder := choice [.ascending, .descending] SortOrder.name

/-- A whole number of 64 bits with a sign. -/
def integer64 : Form Int := integer .integer64

/-- The fields of filters. -/
def filterFields : List String :=
  ["channel_id", "user_id", "file_type", "date_from", "date_to", "has_attachment", "message_type", "channel_tier",
    "is_admin"]

/-- The restrictions that a caller puts on a search. -/
def filters : Form Filters where
  write f := .object [
    ("channel_id", text.option.write f.channelId),
    ("user_id", text.option.write f.userId),
    ("file_type", text.option.write f.fileType),
    ("date_from", instant.option.write f.dateFrom),
    ("date_to", instant.option.write f.dateTo),
    ("has_attachment", bool.option.write f.hasAttachment),
    ("message_type", text.option.write f.messageType),
    ("channel_tier", text.option.write f.channelTier),
    ("is_admin", bool.option.write f.isAdmin)]
  read j := do
    let r ← Record.ofJson? filterFields j
    let channelId ← r.withDefault "channel_id" text.option none
    let userId ← r.withDefault "user_id" text.option none
    let fileType ← r.withDefault "file_type" text.option none
    let dateFrom ← r.withDefault "date_from" instant.option none
    let dateTo ← r.withDefault "date_to" instant.option none
    let hasAttachment ← r.withDefault "has_attachment" bool.option none
    let messageType ← r.withDefault "message_type" text.option none
    let channelTier ← r.withDefault "channel_tier" text.option none
    let isAdmin ← r.withDefault "is_admin" bool.option none
    some { channelId, userId, fileType, dateFrom, dateTo, hasAttachment, messageType, channelTier, isAdmin }

/-- The fields of search options. -/
def optionFields : List String :=
  ["query", "filters", "scope", "limit", "offset", "sort_by", "sort_order", "user_id", "user_channel_ids"]

/-- A search as a caller asks for it. -/
def searchOptions : Form SearchOptions where
  write o := .object [
    ("query", text.write o.query),
    ("filters", filters.write o.filters),
    ("scope", scope.write o.scope),
    ("limit", integer64.write o.limit),
    ("offset", integer64.write o.offset),
    ("sort_by", sortBy.write o.sortBy),
    ("sort_order", sortOrder.write o.sortOrder),
    ("user_id", text.write o.userId),
    ("user_channel_ids", text.list.option.write o.userChannelIds)]
  read j := do
    let r ← Record.ofJson? optionFields j
    let query ← r.required "query" text
    let filters ← r.required "filters" filters
    let scope ← r.required "scope" scope
    let limit ← r.required "limit" integer64
    let offset ← r.required "offset" integer64
    let sortBy ← r.required "sort_by" sortBy
    let sortOrder ← r.required "sort_order" sortOrder
    let userId ← r.required "user_id" text
    let userChannelIds ← r.withDefault "user_channel_ids" text.list.option none
    some { query, filters, scope, limit, offset, sortBy, sortOrder, userId, userChannelIds }

end WorkspaceSearch.Form
