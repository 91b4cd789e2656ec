import WorkspaceSearch.Search.Request

/-!
# Searching channels and users

Channels and users are searched by text only: without text there are no results, whatever the operators say.  Excluded
terms are checked once more on what the store answers.
-/

namespace WorkspaceSearch

/-- The result of a channel. -/
def ChannelRow.toResult (c : ChannelRow) : SearchResult :=
  { id := c.id
    content := c.name
    title := some ("#" ++ c.name)
    channel := some ⟨c.id, c.name⟩
    timestamp := c.createdAt
    metadata := metadataText "description" c.description ++ metadataText "purpose" c.purpose
    details := .channel c.tier c.memberCount }

/-- The result of a user. -/
def UserRow.toResult (u : UserRow) : SearchResult :=
  { id := u.id
    content := u.fullName
    title := some ("@" ++ u.username)
    author := some ⟨u.id, u.fullName⟩
    timestamp := u.createdAt
    details := .user u.username u.email u.isAdmin u.avatarUrl }

namespace Request

/-- What has to be checked of the results of channels and users. -/
def undatedCondition (r : Request) : Condition := Condition.always.excluding r.operators.exclude

/-- The lookup of channels. -/
def channelLookup (r : Request) : ChannelLookup :=
  { text := r.textMatch, tier := r.filters.channelTier, limit := r.limit, offset := r.offset }

/-- The lookup of users. -/
def userLookup (r : Request) : UserLookup :=
  { text := r.textMatch, isAdmin := r.filters.isAdmin, limit := r.limit, offset := r.offset }

end Request

/-- Searches channels. -/
def searchChannels : Searcher := fun r => ExceptT.run do
  if !r.hasText then return []
  let rows ← Attempt.ask (.searchChannels r.channelLookup)
  r.results r.undatedCondition ChannelRow.toResult ChannelRow.name rows

/-- Searches users. -/
def searchUsers : Searcher := fun r => ExceptT.run do
  if !r.hasText then return []
  let rows ← Attempt.ask (.searchUsers r.userLookup)
  r.results r.undatedCondition UserRow.toResult UserRow.fullName rows

end WorkspaceSearch
