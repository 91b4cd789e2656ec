import WorkspaceSearch.Text.Blank
import WorkspaceSearch.Time.Instant

/-!
# Rows

What a store answers to a lookup: messages with the names of their channel and sender, direct messages with the names
of both sides, files with their uploader and channel as far as there are any, channels with the number of their
members, and users.
-/

namespace WorkspaceSearch

/-- A message of a channel. -/
structure MessageRow where
  id : String := ""
  channelId : String := ""
  channelName : String := ""
  senderId : String := ""
  senderName : String := ""
  content : String := ""
  formattedContent : Option String := none
  messageType : String := ""
  attachmentId : Option String := none
  reactionCount : Int := 0
  createdAt : Instant := Instant.epoch
  deriving DecidableEq, Repr, Inhabited

/-- A direct message. -/
structure DirectMessageRow where
  id : String := ""
  senderId : String := ""
  senderName : String := ""
  receiverId : String := ""
  receiverName : String := ""
  content : String := ""
  formattedContent : Option String := none
  attachmentId : Option String := none
  createdAt : Instant := Instant.epoch
  deriving DecidableEq, Repr, Inhabited

/-- A file. -/
structure FileRow where
  id : String := ""
  messageId : Option String := none
  uploaderId : Option String := none
  uploaderName : Option String := none
  fileName : String := ""
  fileType : String := ""
  fileSize : Int := 0
  url : Option String := none
  channelId : Option String := none
  channelName : Option String := none
  createdAt : Instant := Instant.epoch
  deriving DecidableEq, Repr, Inhabited

/-- A channel. -/
structure ChannelRow where
  id : String := ""
  name : String := ""
  description : Option String := none
  purpose : Option String := none
  tier : String := ""
  memberCount : Int := 0
  createdAt : Instant := Instant.epoch
  deriving DecidableEq, Repr, Inhabited

/-- A user. -/
structure UserRow where
  id : String := ""
  username : String := ""
  firstName : String := ""
  lastName : String := ""
  email : String := ""
  avatarUrl : Option String := none
  isAdmin : Bool := false
  createdAt : Instant := Instant.epoch
  deriving DecidableEq, Repr, Inhabited

/-- First and last name with a space between them, blanks at both ends dropped. -/
def UserRow.fullName (u : UserRow) : String := Text.trim (u.firstName ++ " " ++ u.lastName)

end WorkspaceSearch
