import WorkspaceSearch.Search.Request

/-!
# Searching messages

The searcher of channel messages looks only into the channels of the user, when these are known, and narrows the search
to the channels and senders that the query names; a name that nobody has counts for nothing.  The searcher of direct
messages looks only into messages that the user has sent or received.

Both check the answer of the store once more: excluded terms, bounds on the date, and the user of a direct message.
-/

namespace WorkspaceSearch

namespace MessageRow

/-- The result of a message. -/
def toResult (m : MessageRow) : SearchResult :=
  { id := m.id
    content := m.content
    author := some ⟨m.senderId, m.senderName⟩
    channel := some ⟨m.channelId, m.channelName⟩
    timestamp := m.createdAt
    metadata := metadataText "formatted_content" m.formattedContent
    details := .message m.messageType m.attachmentId m.reactionCount }

end MessageRow

namespace DirectMessageRow

/-- The result of a direct message. -/
def toResult (m : DirectMessageRow) : SearchResult :=
  { id := m.id
    content := m.content
    author := some ⟨m.senderId, m.senderName⟩
    timestamp := m.createdAt
    metadata := metadataText "formatted_content" m.formattedContent
    details := .directMessage ⟨m.receiverId, m.receiverName⟩ m.attachmentId }

/-- Whether a user has sent or received a message. -/
def isOf (m : DirectMessageRow) (userId : String) : Bool := m.senderId == userId || m.receiverId == userId

end DirectMessageRow

namespace Request

/-- What has to be checked of the results of messages and files. -/
def datedCondition (r : Request) : Condition :=
  (Condition.always.excluding r.operators.exclude).between r.after r.before

/-- The lookup of channel messages, given the channels and senders that the query names. -/
def messageLookup (r : Request) (channelIds senderIds : List String) : MessageLookup :=
  { text := r.textMatch
    channelIds
    senderIds
    accessibleChannelIds := r.userChannelIds
    filters := r.filters
    requireAttachment := r.operators.wantsAttachment
    requireLink := r.operators.wantsLink
    requireReaction := r.operators.wantsReaction
    after := r.after
    before := r.before
    limit := r.limit
    offset := r.offset }

/-- The lookup of direct messages, given the senders that the query names. -/
def directMessageLookup (r : Request) (senderIds : List String) : DirectMessageLookup :=
  { text := r.textMatch
    participantId := r.userId
    senderIds
    filters := r.filters
    requireAttachment := r.operators.wantsAttachment
    requireLink := r.operators.wantsLink
    after := r.after
    before := r.before
    limit := r.limit
    offset := r.offset }

end Request

/-- Searches the messages of channels. -/
def searchMessages : Searcher := fun r => ExceptT.run do
  if !r.hasCriteria || r.userChannelIds = some [] then return []
  let channelIds ← r.channelIds
  let senderIds ← r.senderIds
  let rows ← Attempt.ask (.searchMessages (r.messageLookup channelIds senderIds))
  r.results r.datedCondition MessageRow.toResult MessageRow.content rows

/-- Searches the direct messages of the user. -/
def searchDirectMessages : Searcher := fun r => ExceptT.run do
  if !r.hasCriteria then return []
  let senderIds ← r.senderIds
  let rows ← Attempt.ask (.searchDirectMessages (r.directMessageLookup senderIds))
  r.results r.datedCondition DirectMessageRow.toResult DirectMessageRow.content
    (rows.filter fun row => row.isOf r.userId)

end WorkspaceSearch
