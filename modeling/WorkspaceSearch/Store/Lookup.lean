import WorkspaceSearch.Options

/-!
# Lookups

What the searchers ask of a store.  A lookup joins everything it is given: a row must satisfy the condition on its text
and every restriction that is filled in.  Of the rows that do, `limit` are returned after the first `offset`.
-/

namespace WorkspaceSearch

/-- A condition on the text of a row. -/
structure TextMatch where
  /-- A text that must occur; a blank one asks for nothing. -/
  phrase : String := ""
  /-- Words of which one must occur, in place of the phrase, unless there are none. -/
  anyOf : List String := []
  /-- Texts that must not occur in the primary text of a row. -/
  exclude : List String := []
  deriving DecidableEq, Repr, Inhabited

/-- The condition asks for no text. -/
def TextMatch.isEmpty (t : TextMatch) : Bool := Text.isBlank t.phrase && t.anyOf.isEmpty

/-- A lookup of channel messages. -/
structure MessageLookup where
  text : TextMatch := {}
  /-- Channels, unless there are none. -/
  channelIds : List String := []
  /-- Senders, unless there are none. -/
  senderIds : List String := []
  /-- The channels that the user may see; when they are known no other message is found. -/
  accessibleChannelIds : Option (List String) := none
  filters : Filters := {}
  requireAttachment : Bool := false
  requireLink : Bool := false
  requireReaction : Bool := false
  /-- The first instant allowed; the dates of the filters are part of it. -/
  after : Option Instant := none
  /-- The last instant allowed; the dates of the filters are part of it. -/
  before : Option Instant := none
  limit : Nat := 0
  offset : Nat := 0
  deriving DecidableEq, Repr, Inhabited

/-- A lookup of the direct messages of one user. -/
structure DirectMessageLookup where
  text : TextMatch := {}
  /-- The user who has sent or received the messages. -/
  participantId : String := ""
  /-- Senders, unless there are none. -/
  senderIds : List String := []
  filters : Filters := {}
  requireAttachment : Bool := false
  requireLink : Bool := false
  after : Option Instant := none
  before : Option Instant := none
  limit : Nat := 0
  offset : Nat := 0
  deriving DecidableEq, Repr, Inhabited

/-- A lookup of files. -/
structure FileLookup where
  text : TextMatch := {}
  /-- Uploaders, unless there are none. -/
  uploaderIds : List String := []
  /-- The messages that a file must belong to. -/
  messageIds : Option (List String) := none
  filters : Filters := {}
  after : Option Instant := none
  before : Option Instant := none
  limit : Nat := 0
  offset : Nat := 0
  deriving DecidableEq, Repr, Inhabited

/-- A lookup of channels. -/
structure ChannelLookup where
  text : TextMatch := {}
  tier : Option String := none
  limit : Nat := 0
  offset : Nat := 0
  deriving DecidableEq, Repr, Inhabited

/-- A lookup of users. -/
structure UserLookup where
  text : TextMatch := {}
  isAdmin : Option Bool := none
  limit : Nat := 0
  offset : Nat := 0
  deriving DecidableEq, Repr, Inhabited

end WorkspaceSearch
