import WorkspaceSearch.Search.Message

/-!
# Searching files

A file belongs to a channel through the message that it is attached to.  When the search is narrowed to channels, by
name or by a filter, the searcher first asks for the messages of these channels that have an attachment; without such a
message there is nothing to search.
-/

namespace WorkspaceSearch

/-- The channel that a file is shown with: its id and name must both be known. -/
def FileRow.channel (f : FileRow) : Option Reference :=
  match f.channelId, f.channelName with
  | some id, some name => some ⟨id, name⟩
  | _, _ => none

/-- The result of a file. -/
def FileRow.toResult (f : FileRow) : SearchResult :=
  { id := f.id
    content := f.fileName
    title := some f.fileName
    author := f.uploaderId.map fun id => ⟨id, f.uploaderName.getD ""⟩
    channel := f.channel
    timestamp := f.createdAt
    details := .file f.fileType f.fileSize f.url f.messageId }

namespace Request

/-- The channels that the messages of a file must be in, given those that the query names: these, the one of the
filters, or what both have in common.  Without either there is no restriction. -/
def channelRestriction (r : Request) (named : List String) : Option (List String) :=
  match r.filters.channelId, named with
  | none, [] => none
  | none, named => some named
  | some id, [] => some [id]
  | some id, named => some (named.filter (· == id))

/-- The lookup of files, given the uploaders that the query names and the messages a file must belong to. -/
def fileLookup (r : Request) (messageIds : Option (List String)) (uploaderIds : List String) : FileLookup :=
  { text := r.textMatch
    uploaderIds
    messageIds
    filters := r.filters
    after := r.after
    before := r.before
    limit := r.limit
    offset := r.offset }

end Request

/-- Searches files among those that belong to some messages, or among all. -/
def searchFilesOf (r : Request) (messageIds : Option (List String)) : Attempt (List SearchResult) := do
  let uploaderIds ← r.senderIds
  let rows ← Attempt.ask (.searchFiles (r.fileLookup messageIds uploaderIds))
  r.results r.datedCondition FileRow.toResult FileRow.fileName rows

/-- Searches files. -/
def searchFiles : Searcher := fun r => ExceptT.run do
  if !r.hasCriteria then return []
  let named ← r.channelIds
  match r.channelRestriction named with
  | none => searchFilesOf r none
  | some [] => return []
  | some channelIds =>
    let messageIds ← Attempt.ask (.attachmentMessageIds channelIds)
    if messageIds.isEmpty then return []
    searchFilesOf r (some messageIds)

end WorkspaceSearch
