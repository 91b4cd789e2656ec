import WorkspaceSearch.Database.Cell

/-!
# Stored rows

The rows of the nine tables as they are stored.  Timestamps and numbers are scalars, which may be anything; reading them
is a matter of the lookups.

Every kind of row is read from cells (`ofCells`) and shown as cells (`cells`).
-/

namespace WorkspaceSearch.Stored

/-- A user; whoever has a whole number other than zero in `isAdmin` is an administrator. -/
structure User where
  id : String
  username : String
  firstName : String
  lastName : String
  email : String
  avatarUrl : Option String
  isAdmin : Scalar
  createdAt : Scalar
  deriving DecidableEq, Repr, Inhabited

/-- A channel. -/
structure Channel where
  id : String
  name : String
  description : Option String
  purpose : Option String
  tier : String
  createdAt : Scalar
  deriving DecidableEq, Repr, Inhabited

/-- A user in a channel. -/
structure Membership where
  channelId : String
  userId : String
  joinedAt : Scalar
  deriving DecidableEq, Repr, Inhabited

/-- A message of a user in a channel. -/
structure Message where
  id : String
  channelId : String
  senderId : String
  content : String
  formattedContent : Option String
  messageType : String
  attachmentId : Option String
  createdAt : Scalar
  deriving DecidableEq, Repr, Inhabited

/-- A reaction of a user to a message. -/
structure Reaction where
  messageId : String
  userId : String
  emoji : String
  createdAt : Scalar
  deriving DecidableEq, Repr, Inhabited

/-- A message from one user to another. -/
structure DirectMessage where
  id : String
  senderId : String
  receiverId : String
  content : String
  formattedContent : Option String
  attachmentId : Option String
  createdAt : Scalar
  deriving DecidableEq, Repr, Inhabited

/-- A file; the message it is attached to need not be there. -/
structure File where
  id : String
  messageId : Option String
  uploaderId : Option String
  fileName : String
  fileType : String
  fileSize : Scalar
  url : Option String
  createdAt : Scalar
  deriving DecidableEq, Repr, Inhabited

/-- A search call that has been recorded; filters and scope are texts. -/
structure History where
  id : String
  userId : String
  query : String
  filters : String
  scope : String
  createdAt : Scalar
  deriving DecidableEq, Repr, Inhabited

/-- A saved search; filters and scope are texts. -/
structure Saved where
  id : String
  userId : String
  name : String
  query : String
  filters : String
  scope : String
  isPinned : Scalar
  usageCount : Scalar
  lastUsedAt : Option Scalar
  createdAt : Scalar
  updatedAt : Scalar
  deriving DecidableEq, Repr, Inhabited

/-- First and last name with a space between them. -/
def User.rawName (u : User) : String := u.firstName ++ " " ++ u.lastName

/-- A text without the spaces at both ends; other blanks stay. -/
def trimSpaces (s : String) : String :=
  .ofList ((s.toList.dropWhile (· == ' ')).reverse.dropWhile (· == ' ')).reverse

/-- The name a user is shown with: the full name, or the username when there is none. -/
def User.displayName (u : User) : String :=
  let name := trimSpaces u.rawName
  if name = "" then u.username else name

/-! ### Cells -/

namespace User

/-- The columns of a user. -/
def cells (u : User) : Cells :=
  [("id", some (.text u.id)), ("username", some (.text u.username)), ("first_name", some (.text u.firstName)),
    ("last_name", some (.text u.lastName)), ("email", some (.text u.email)), ("avatar_url", u.avatarUrl.map .text),
    ("is_admin", some u.isAdmin), ("created_at", some u.createdAt)]

/-- Reads a user; `now` is the time of a row that has none. -/
def ofCells (now : Scalar) (row : Cells) : Except DatabaseFault User := do
  return {
    id := ← row.required "id"
    username := ← row.required "username"
    firstName := ← row.withDefault "first_name" ""
    lastName := ← row.withDefault "last_name" ""
    email := ← row.withDefault "email" ""
    avatarUrl := row.optional "avatar_url"
    isAdmin := ← row.number "is_admin" (.integer 0)
    createdAt := ← row.number "created_at" now }

end User

namespace Channel

/-- The columns of a channel. -/
def cells (c : Channel) : Cells :=
  [("id", some (.text c.id)), ("name", some (.text c.name)), ("description", c.description.map .text),
    ("purpose", c.purpose.map .text), ("tier", some (.text c.tier)), ("created_at", some c.createdAt)]

/-- Reads a channel; `now` is the time of a row that has none. -/
def ofCells (now : Scalar) (row : Cells) : Except DatabaseFault Channel := do
  return {
    id := ← row.required "id"
    name := ← row.required "name"
    description := row.optional "description"
    purpose := row.optional "purpose"
    tier := ← row.withDefault "tier" "public"
    createdAt := ← row.number "created_at" now }

end Channel

namespace Membership

/-- The columns of a membership. -/
def cells (m : Membership) : Cells :=
  [("channel_id", some (.text m.channelId)), ("user_id", some (.text m.userId)), ("joined_at", some m.joinedAt)]

/-- Reads a membership; `now` is the time of a row that has none. -/
def ofCells (now : Scalar) (row : Cells) : Except DatabaseFault Membership := do
  return {
    channelId := ← row.required "channel_id"
    userId := ← row.required "user_id"
    joinedAt := ← row.number "joined_at" now }

end Membership

namespace Message

/-- The columns of a message. -/
def cells (m : Message) : Cells :=
  [("id", some (.text m.id)), ("channel_id", some (.text m.channelId)), ("sender_id", some (.text m.senderId)),
    ("content", some (.text m.content)), ("formatted_content", m.formattedContent.map .text),
    ("message_type", some (.text m.messageType)), ("attachment_id", m.attachmentId.map .text),
    ("created_at", some m.createdAt)]

/-- Reads a message; `now` is the time of a row that has none. -/
def ofCells (now : Scalar) (row : Cells) : Except DatabaseFault Message := do
  return {
    id := ← row.required "id"
    channelId := ← row.required "channel_id"
    senderId := ← row.required "sender_id"
    content := ← row.withDefault "content" ""
    formattedContent := row.optional "formatted_content"
    messageType := ← row.withDefault "message_type" "text"
    attachmentId := row.optional "attachment_id"
    createdAt := ← row.number "created_at" now }

end Message

namespace Reaction

/-- The columns of a reaction. -/
def cells (r : Reaction) : Cells :=
  [("message_id", some (.text r.messageId)), ("user_id", some (.text r.userId)), ("emoji", some (.text r.emoji)),
    ("created_at", some r.createdAt)]

/-- Reads a reaction; `now` is the time of a row that has none. -/
def ofCells (now : Scalar) (row : Cells) : Except DatabaseFault Reaction := do
  return {
    messageId := ← row.required "message_id"
    userId := ← row.required "user_id"
    emoji := ← row.required "emoji"
    createdAt := ← row.number "created_at" now }

end Reaction

namespace DirectMessage

/-- The columns of a direct message. -/
def cells (m : DirectMessage) : Cells :=
  [("id", some (.text m.id)), ("sender_id", some (.text m.senderId)), ("receiver_id", some (.text m.receiverId)),
    ("content", some (.text m.content)), ("formatted_content", m.formattedContent.map .text),
    ("attachment_id", m.attachmentId.map .text), ("created_at", some m.createdAt)]

/-- Reads a direct message; `now` is the time of a row that has none. -/
def ofCells (now : Scalar) (row : Cells) : Except DatabaseFault DirectMessage := do
  return {
    id := ← row.required "id"
    senderId := ← row.required "sender_id"
    receiverId := ← row.required "receiver_id"
    content := ← row.withDefault "content" ""
    formattedContent := row.optional "formatted_content"
    attachmentId := row.optional "attachment_id"
    createdAt := ← row.number "created_at" now }

end DirectMessage

namespace File

/-- The columns of a file. -/
def cells (f : File) : Cells :=
  [("id", some (.text f.id)), ("message_id", f.messageId.map .text), ("uploader_id", f.uploaderId.map .text),
    ("file_name", some (.text f.fileName)), ("file_type", some (.text f.fileType)), ("file_size", some f.fileSize),
    ("url", f.url.map .text), ("created_at", some f.createdAt)]

/-- Reads a file; `now` is the time of a row that has none. -/
def ofCells (now : Scalar) (row : Cells) : Except DatabaseFault File := do
  return {
    id := ← row.required "id"
    messageId := row.optional "message_id"
    uploaderId := row.optional "uploader_id"
    fileName := ← row.required "file_name"
    fileType := ← row.withDefault "file_type" ""
    fileSize := ← row.number "file_size" (.integer 0)
    url := row.optional "url"
    createdAt := ← row.number "created_at" now }

end File

namespace History

/-- The columns of a history entry. -/
def cells (h : History) : Cells :=
  [("id", some (.text h.id)), ("user_id", some (.text h.userId)), ("query", some (.text h.query)),
    ("filters", some (.text h.filters)), ("scope", some (.text h.scope)), ("created_at", some h.createdAt)]

/-- Reads a history entry; `now` is the time of a row that has none. -/
def ofCells (now : Scalar) (row : Cells) : Except DatabaseFault History := do
  return {
    id := ← row.required "id"
    userId := ← row.required "user_id"
    query := ← row.required "query"
    filters := ← row.withDefault "filters" "\x7b\x7d"
    scope := ← row.withDefault "scope" "all"
    createdAt := ← row.number "created_at" now }

end History

namespace Saved

/-- The columns of a saved search. -/
def cells (s : Saved) : Cells :=
  [("id", some (.text s.id)), ("user_id", some (.text s.userId)), ("name", some (.text s.name)),
    ("query", some (.text s.query)), ("filters", some (.text s.filters)), ("scope", some (.text s.scope)),
    ("is_pinned", some s.isPinned), ("usage_count", some s.usageCount), ("last_used_at", s.lastUsedAt),
    ("created_at", some s.createdAt), ("updated_at", some s.updatedAt)]

/-- Reads a saved search; `now` is the time of a row that has none. -/
def ofCells (now : Scalar) (row : Cells) : Except DatabaseFault Saved := do
  return {
    id := ← row.required "id"
    userId := ← row.required "user_id"
    name := ← row.required "name"
    query := ← row.required "query"
    filters := ← row.withDefault "filters" "\x7b\x7d"
    scope := ← row.withDefault "scope" "all"
    isPinned := ← row.number "is_pinned" (.integer 0)
    usageCount := ← row.number "usage_count" (.integer 0)
    lastUsedAt := row.optionalNumber "last_used_at"
    createdAt := ← row.number "created_at" now
    updatedAt := ← row.number "updated_at" now }

end Saved

end WorkspaceSearch.Stored
