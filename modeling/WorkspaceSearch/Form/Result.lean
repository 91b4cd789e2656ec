import WorkspaceSearch.Form.Options
import WorkspaceSearch.Result

/-!
# Documents of results

A result is written as one object: the fields that all results share, and beside them the details of its domain under
the tag `type`.  Members that no field has taken belong to the details.  The tag is also read as a number, counting the
domains from zero.
-/

namespace WorkspaceSearch.Form

/-- A user or a channel that a result refers to. -/
def reference : Form Reference where
  write r := .object [("id", text.write r.id), ("name", text.write r.name)]
  read j := do
    let r ← Record.ofJson? ["id", "name"] j
    let id ← r.required "id" text
    let name ← r.required "name" text
    some { id, name }

/-- The tag of the details of a domain. -/
def detailsTag : Domain → String
  | .messages => "message"
  | .directMessages => "dm"
  | .files => "file"
  | .channels => "channel"
  | .users => "user"

/-- Reads the tag of details. -/
def readTag : Json → Option Domain
  | .string s => Domain.all.find? fun d => detailsTag d = s
  | .integer (.ofNat n) => Domain.all[n]?
  | _ => none

/-- The members that details are written as, behind their tag. -/
def detailsMembers : Details → List (String × Json)
  | .message messageType attachmentId reactionCount =>
    [("message_type", text.write messageType), ("attachment_id", text.option.write attachmentId),
      ("reaction_count", integer64.write reactionCount)]
  | .directMessage receiver attachmentId =>
    [("receiver", reference.write receiver), ("attachment_id", text.option.write attachmentId)]
  | .file fileType fileSize url messageId =>
    [("file_type", text.write fileType), ("file_size", integer64.write fileSize),
      ("url", text.option.write url), ("message_id", text.option.write messageId)]
  | .channel tier memberCount =>
    [("tier", text.write tier), ("member_count", integer64.write memberCount)]
  | .user username email isAdmin avatarUrl =>
    [("username", text.write username), ("email", text.write email), ("is_admin", bool.write isAdmin),
      ("avatar_url", text.option.write avatarUrl)]

/-- Reads the details of a domain from the members, or items, behind their tag. -/
def readDetails (domain : Domain) (j : Json) : Option Details :=
  match domain with
  | .messages => do
    let r ← Record.ofJson? ["message_type", "attachment_id", "reaction_count"] j
    let messageType ← r.required "message_type" text
    let attachmentId ← r.optional "attachment_id" text
    let reactionCount ← r.required "reaction_count" integer64
    some (.message messageType attachmentId reactionCount)
  | .directMessages => do
    let r ← Record.ofJson? ["receiver", "attachment_id"] j
    let receiver ← r.required "receiver" reference
    let attachmentId ← r.optional "attachment_id" text
    some (.directMessage receiver attachmentId)
  | .files => do
    let r ← Record.ofJson? ["file_type", "file_size", "url", "message_id"] j
    let fileType ← r.required "file_type" text
    let fileSize ← r.required "file_size" integer64
    let url ← r.optional "url" text
    let messageId ← r.optional "message_id" text
    some (.file fileType fileSize url messageId)
  | .channels => do
    let r ← Record.ofJson? ["tier", "member_count"] j
    let tier ← r.required "tier" text
    let memberCount ← r.required "member_count" integer64
    some (.channel tier memberCount)
  | .users => do
    let r ← Record.ofJson? ["username", "email", "is_admin", "avatar_url"] j
    let username ← r.required "username" text
    let email ← r.required "email" text
    let isAdmin ← r.required "is_admin" bool
    let avatarUrl ← r.optional "avatar_url" text
    some (.user username email isAdmin avatarUrl)

/-- What only the results of one domain have. -/
def details : Form Details where
  write d := .object (("type", .string (detailsTag d.domain)) :: detailsMembers d)
  read
    | .object members => do
      let [tag] := Json.named members "type" | none
      readDetails (← readTag tag) (.object (members.filter fun m => m.1 ≠ "type"))
    | .array (tag :: items) => do readDetails (← readTag tag) (.array items)
    | _ => none

/-- The fields that all results share. -/
def resultFields : List String :=
  ["id", "content", "title", "context", "author", "channel", "timestamp", "highlights", "score", "metadata"]

/-- Any members. -/
def members : Form (List (String × Json)) where
  write := .object
  read
    | .object members => some members
    | _ => none

/-- A result of a search. -/
def searchResult : Form SearchResult where
  write r := .object ([
    ("id", text.write r.id),
    ("content", text.write r.content),
    ("title", text.option.write r.title),
    ("context", text.option.write r.context),
    ("author", reference.option.write r.author),
    ("channel", reference.option.write r.channel),
    ("timestamp", instant.write r.timestamp),
    ("highlights", text.list.write r.highlights),
    ("score", number.write r.score),
    ("metadata", members.write r.metadata),
    ("type", .string (detailsTag r.details.domain))] ++ detailsMembers r.details)
  read j := do
    let r ← Record.ofObject? resultFields j
    let id ← r.required "id" text
    let content ← r.required "content" text
    let title ← r.optional "title" text
    let context ← r.optional "context" text
    let author ← r.optional "author" reference
    let channel ← r.optional "channel" reference
    let timestamp ← r.required "timestamp" instant
    let highlights ← r.required "highlights" text.list
    let score ← r.required "score" number
    let metadata ← r.required "metadata" members
    let details ← details.read (.object (j.membersOutside resultFields))
    some { id, content, title, context, author, channel, timestamp, highlights, score, metadata, details }

/-- A page of results. -/
def searchResponse : Form SearchResponse where
  write r := .object [("results", searchResult.list.write r.results), ("total", (natural .natural64).write r.total)]
  read j := do
    let r ← Record.ofJson? ["results", "total"] j
    let results ← r.required "results" searchResult.list
    let total ← r.required "total" (natural .natural64)
    some { results, total }

end WorkspaceSearch.Form
