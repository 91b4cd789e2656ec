import WorkspaceSearch.Database.Basic
import WorkspaceSearch.Database.Limits
import WorkspaceSearch.Store.Row
import WorkspaceSearch.Time.Writing

/-!
# Lookups in the database

How the database answers lookups.  Texts are matched by patterns, so without regard to the case of ASCII letters, and
times are compared on the scale of Julian days: a row whose time cannot be read is within no bound, and comes after
all others where rows are ordered by time.

A page is cut out of the rows found; only the times and numbers of the rows on the page are read, and one that cannot
be read makes the lookup fail.

A lookup also fails when its statement exceeds the limits of the database, or a row is tested against a pattern that
is too long.  Of which messages the texts are tested is up to the plan of the database.
-/

namespace WorkspaceSearch

namespace TextMatch

/-- Whether one of the columns contains one of the texts, or no text is asked for. -/
def findsIn (t : TextMatch) (columns : List String) : Bool :=
  t.needles.isEmpty || t.needles.any fun needle => columns.any (Like.isMatch (Like.containing needle))

/-- Whether the primary text contains none of the texts that must not occur. -/
def sparesText (t : TextMatch) (primary : String) : Bool :=
  t.excluded.all fun term => !Like.isMatch (Like.containing term) primary

/-- Whether the columns of a row satisfy the condition. -/
def holds (t : TextMatch) (columns : List String) (primary : String) : Bool :=
  t.findsIn columns && t.sparesText primary

end TextMatch

namespace Database

/-! ### Parts of a lookup -/

/-- Whether a stored time is not before an instant, on the scale of Julian days. -/
def notBefore (bound : Instant) (stored : Scalar) : Bool :=
  match JulianDay.ofText? bound.toStored, stored.julianDay? with
  | some b, some s => b ≤ s
  | _, _ => false

/-- Whether a stored time is not after an instant, on the scale of Julian days. -/
def notAfter (bound : Instant) (stored : Scalar) : Bool :=
  match JulianDay.ofText? bound.toStored, stored.julianDay? with
  | some b, some s => s ≤ b
  | _, _ => false

/-- Whether a stored time is within bounds. -/
def isWithin (after before : Option Instant) (stored : Scalar) : Bool :=
  after.all (notBefore · stored) && before.all (notAfter · stored)

/-- Whether a content has a link. -/
def hasLink (content : String) : Bool := Like.isMatch "%http%" content

/-- Whether a row may stand in front of another in the order of time, the latest first; rows of one time are in the
order of their identifiers, and rows without a time come at the end. -/
def newestFirst (a b : Option Int × String) : Bool :=
  match a.1, b.1 with
  | some s, some t => t < s || (s == t && a.2 ≤ b.2)
  | some _, none => true
  | none, some _ => false
  | none, none => a.2 ≤ b.2

/-- The place of a row in the order of time. -/
def timeKey (createdAt : Scalar) (id : String) : Option Int × String := (createdAt.julianDay?, id)

/-- The rows on a page. -/
def cutPage {Row : Type} (limit offset : Nat) (rows : List Row) : List Row := (rows.drop offset).take limit

/-- The value read from a column, if it can be read. -/
def readable {α : Type} : Option α → Except DatabaseFault α
  | some a => .ok a
  | none => .error .unreadableColumn

/-- Reads a stored time. -/
def readTime (stored : Scalar) : Except DatabaseFault Instant := readable stored.instant?

/-- The outcome of a lookup: no rows when it is empty from the start, and a fault when its statement does not fit or a
row comes to a pattern that is too long. -/
def guardLookup {Row : Type} (isEmpty fits overruns : Bool) (rows : Except DatabaseFault (List Row)) :
    Except DatabaseFault (List Row) :=
  if isEmpty then .ok [] else if !fits || overruns then .error .tooComplex else rows

/-- Whether a value is in a list of values asked for, which asks for nothing when it is empty. -/
def isAmong (asked : List String) (value : String) : Bool := asked.isEmpty || asked.contains value

/-- Whether a value is the one asked for, if one is. -/
def isAsked (asked : Option String) (value : String) : Bool := asked.all (· == value)

/-- Whether an attachment is there as it should be: it must be there when it is required, and otherwise as the filter
says. -/
def attachmentFits (required : Bool) (filter : Option Bool) (attachment : Option String) : Bool :=
  if required || filter = some true then attachment.isSome
  else if filter = some false then attachment.isNone
  else true

/-- The rows joined with those they refer to. -/
def join {A B : Type} (rows : List A) (others : List B) (refers : A → B → Bool) : List (A × B) :=
  rows.flatMap fun a => (others.filter (refers a)).map fun b => (a, b)

/-- The rows joined with those they refer to; a row that refers to none is kept alone. -/
def joinMaybe {A B : Type} (rows : List A) (others : List B) (refers : A → B → Bool) : List (A × Option B) :=
  rows.flatMap fun a =>
    match others.filter (refers a) with
    | [] => [(a, none)]
    | found => found.map fun b => (a, some b)

/-! ### Messages -/

/-- The number of reactions to a message. -/
def reactionCount (db : Database) (messageId : String) : Nat :=
  db.reactions.toList.countP fun r => r.messageId = messageId

/-- Every message with its channel and its sender. -/
def messagesInPlace (db : Database) : List ((Stored.Message × Stored.Channel) × Stored.User) :=
  let placed := join db.messages.toList db.channels.toList fun m c => c.id = m.channelId
  join placed db.users.toList fun m u => u.id = m.1.senderId

/-- Whether a message is in the channels that are looked up. -/
def isInChannels (q : MessageLookup) (m : Stored.Message) : Bool :=
  isAmong q.channelIds m.channelId
    && q.accessibleChannelIds.all (·.contains m.channelId)
    && isAsked q.filters.channelId m.channelId

/-- Whether a message is of the senders that are looked up. -/
def isFromSenders (q : MessageLookup) (m : Stored.Message) : Bool :=
  isAmong q.senderIds m.senderId && isAsked q.filters.userId m.senderId

/-- Whether a message is one that is looked up. -/
def messageFits (db : Database) (q : MessageLookup) (m : Stored.Message) : Bool :=
  isInChannels q m
    && isFromSenders q m
    && q.text.holds [m.content, m.formattedContent.getD ""] m.content
    && isAsked q.filters.messageType m.messageType
    && attachmentFits q.requireAttachment q.filters.hasAttachment m.attachmentId
    && (!q.requireLink || hasLink m.content)
    && (!q.requireReaction || db.reactions.toList.any fun r => r.messageId = m.id)
    && isWithin q.after q.before m.createdAt

/-- The answer for a message. -/
def messageRow (db : Database) (m : Stored.Message) (c : Stored.Channel) (u : Stored.User) :
    Except DatabaseFault MessageRow := do
  let createdAt ← readTime m.createdAt
  return { id := m.id, channelId := m.channelId, channelName := c.name, senderId := m.senderId
           senderName := u.displayName, content := m.content, formattedContent := m.formattedContent
           messageType := m.messageType, attachmentId := m.attachmentId, reactionCount := db.reactionCount m.id
           createdAt }

/-- Whether the test of a message comes to a pattern that is too long. -/
def messageOverruns (db : Database) (q : MessageLookup) (m : Stored.Message) : Bool :=
  db.plan.testsMessage q.timeless m && q.text.overruns [m.content, m.formattedContent.getD ""] m.content

/-- Looks messages up. -/
def searchMessages (db : Database) (q : MessageLookup) : Except DatabaseFault (List MessageRow) :=
  let overruns := 0 < q.limit && db.messages.any (db.messageOverruns q)
  let found := db.messagesInPlace.filter fun ((m, _), _) => db.messageFits q m
  let sorted := found.mergeSort fun ((m, _), _) ((n, _), _) =>
    newestFirst (timeKey m.createdAt m.id) (timeKey n.createdAt n.id)
  guardLookup (q.accessibleChannelIds = some []) q.shape.fits overruns
    ((cutPage q.limit q.offset sorted).mapM fun ((m, c), u) => db.messageRow m c u)

/-- The messages of some channels that have an attachment. -/
def attachmentMessageIds (db : Database) (channelIds : List String) : Except DatabaseFault (List String) :=
  let found := db.messages.toList.filter fun m => m.attachmentId.isSome && channelIds.contains m.channelId
  guardLookup false (fitsValues [channelIds]) false (.ok (found.map (·.id)))

/-! ### Direct messages -/

/-- Every direct message with its sender and its receiver. -/
def directMessagesInPlace (db : Database) : List ((Stored.DirectMessage × Stored.User) × Stored.User) :=
  let sent := join db.directMessages.toList db.users.toList fun m s => s.id = m.senderId
  join sent db.users.toList fun m r => r.id = m.1.receiverId

/-- Whether a user has sent or received a direct message. -/
def isBetween (m : Stored.DirectMessage) (userId : String) : Bool := m.senderId == userId || m.receiverId == userId

/-- Whether a direct message is one that is looked up. -/
def directMessageFits (q : DirectMessageLookup) (m : Stored.DirectMessage) : Bool :=
  isBetween m q.participantId
    && q.text.holds [m.content, m.formattedContent.getD ""] m.content
    && isAmong q.senderIds m.senderId
    && q.filters.userId.all (isBetween m)
    && attachmentFits q.requireAttachment q.filters.hasAttachment m.attachmentId
    && (!q.requireLink || hasLink m.content)
    && isWithin q.after q.before m.createdAt

/-- The answer for a direct message. -/
def directMessageRow (m : Stored.DirectMessage) (s r : Stored.User) : Except DatabaseFault DirectMessageRow := do
  let createdAt ← readTime m.createdAt
  return { id := m.id, senderId := m.senderId, senderName := s.displayName, receiverId := m.receiverId
           receiverName := r.displayName, content := m.content, formattedContent := m.formattedContent
           attachmentId := m.attachmentId, createdAt }

/-- Whether the test of a direct message comes to a pattern that is too long; the user who has sent or received it is
asked for first. -/
def directMessageOverruns (db : Database) (q : DirectMessageLookup) (m : Stored.DirectMessage) : Bool :=
  isBetween m q.participantId && db.plan.testsDirectMessage q.timeless m
    && q.text.overruns [m.content, m.formattedContent.getD ""] m.content

/-- Looks direct messages up. -/
def searchDirectMessages (db : Database) (q : DirectMessageLookup) : Except DatabaseFault (List DirectMessageRow) :=
  let overruns := 0 < q.limit && db.directMessages.any (db.directMessageOverruns q)
  let found := db.directMessagesInPlace.filter fun ((m, _), _) => directMessageFits q m
  let sorted := found.mergeSort fun ((m, _), _) ((n, _), _) =>
    newestFirst (timeKey m.createdAt m.id) (timeKey n.createdAt n.id)
  guardLookup false q.shape.fits overruns
    ((cutPage q.limit q.offset sorted).mapM fun ((m, s), r) => directMessageRow m s r)

/-! ### Files -/

/-- A file with its uploader, its message and the channel of that message, as far as there are any. -/
structure FilePlace where
  file : Stored.File
  uploader : Option Stored.User
  message : Option Stored.Message
  channel : Option Stored.Channel

/-- Every file in its place. -/
def filesInPlace (db : Database) : List FilePlace :=
  let uploaded := joinMaybe db.files.toList db.users.toList fun f u => f.uploaderId = some u.id
  let attached := joinMaybe uploaded db.messages.toList fun f m => f.1.messageId = some m.id
  let placed := joinMaybe attached db.channels.toList fun f c => (f.2.map (·.channelId)) = some c.id
  placed.map fun (((f, u), m), c) => ⟨f, u, m, c⟩

/-- Whether a file belongs to the messages that are looked up. -/
def isAttached (q : FileLookup) (f : Stored.File) : Bool := q.messageIds.all fun ids => f.messageId.any ids.contains

/-- Whether a file is of the uploaders that are looked up. -/
def isUploaded (q : FileLookup) (f : Stored.File) : Bool :=
  q.uploaderIds.isEmpty || f.uploaderId.any q.uploaderIds.contains

/-- Whether a file is one that is looked up. -/
def fileFits (q : FileLookup) (f : Stored.File) : Bool :=
  isAttached q f
    && q.text.holds [f.fileName, f.fileType] f.fileName
    && isUploaded q f
    && q.filters.fileType.all (fun t => Like.isMatch (Like.containing t) f.fileType)
    && q.filters.userId.all (fun id => f.uploaderId = some id)
    && isWithin q.after q.before f.createdAt

/-- The answer for a file. -/
def fileRow (p : FilePlace) : Except DatabaseFault FileRow := do
  let createdAt ← readTime p.file.createdAt
  let fileSize ← readable p.file.fileSize.integer?
  return { id := p.file.id, messageId := p.file.messageId, uploaderId := p.file.uploaderId
           uploaderName := p.uploader.map (·.displayName), fileName := p.file.fileName, fileType := p.file.fileType
           fileSize, url := p.file.url, channelId := p.message.map (·.channelId)
           channelName := p.channel.map (·.name), createdAt }

/-- Whether the test of a file comes to a pattern that is too long.  No file is tested when the one uploader asked for is
not among those asked for. -/
def fileOverruns (q : FileLookup) (f : Stored.File) : Bool :=
  isAttached q f && q.filters.userId.all (isAmong q.uploaderIds) &&
    match q.text.test? [f.fileName, f.fileType] f.fileName with
    | none => true
    | some holds =>
      holds && (q.filters.userId.isSome || isUploaded q f) &&
        q.filters.fileType.any fun t => Like.isTooLong (Like.containing t)

/-- Looks files up. -/
def searchFiles (db : Database) (q : FileLookup) : Except DatabaseFault (List FileRow) :=
  let overruns := 0 < q.limit && db.files.any (fileOverruns q)
  let found := db.filesInPlace.filter fun p => fileFits q p.file
  let sorted := found.mergeSort fun p r =>
    newestFirst (timeKey p.file.createdAt p.file.id) (timeKey r.file.createdAt r.file.id)
  guardLookup (q.messageIds = some []) q.shape.fits overruns ((cutPage q.limit q.offset sorted).mapM fileRow)

/-! ### Channels -/

/-- The number of members of a channel. -/
def memberCount (db : Database) (channelId : String) : Nat :=
  db.memberships.toList.countP fun m => m.channelId = channelId

/-- Whether a channel is one that is looked up. -/
def channelFits (q : ChannelLookup) (c : Stored.Channel) : Bool :=
  q.text.holds [c.name, c.description.getD "", c.purpose.getD ""] c.name && isAsked q.tier c.tier

/-- Tests whether a channel is one that is looked up; none when a pattern is too long.  The excluded texts come first. -/
def testChannel? (q : ChannelLookup) (c : Stored.Channel) : Option Bool := do
  if ← q.text.spares? c.name then
    return (← q.text.finds? [c.name, c.description.getD "", c.purpose.getD ""]) && isAsked q.tier c.tier
  else return false

/-- Whether the test of channels one after the other, up to a number of them that are looked up, comes to a pattern that
is too long. -/
def channelsOverrun (q : ChannelLookup) : Nat → List Stored.Channel → Bool
  | 0, _ => false
  | _ + 1, [] => false
  | wanted + 1, c :: rest =>
    match testChannel? q c with
    | none => true
    | some true => channelsOverrun q wanted rest
    | some false => channelsOverrun q (wanted + 1) rest

/-- The answer for a channel. -/
def channelRow (db : Database) (c : Stored.Channel) : Except DatabaseFault ChannelRow := do
  let createdAt ← readTime c.createdAt
  return { id := c.id, name := c.name, description := c.description, purpose := c.purpose, tier := c.tier
           memberCount := db.memberCount c.id, createdAt }

/-- Looks channels up; they are tested in the order of their names, up to the end of the page. -/
def searchChannels (db : Database) (q : ChannelLookup) : Except DatabaseFault (List ChannelRow) :=
  let sorted := db.channels.toList.mergeSort fun c d => c.name ≤ d.name
  let overruns := 0 < q.limit && q.text.hasLongPattern && channelsOverrun q (q.offset + q.limit) sorted
  let found := sorted.filter (channelFits q)
  guardLookup false q.shape.fits overruns ((cutPage q.limit q.offset found).mapM db.channelRow)

/-- The channels with some names, in lower case, or some identifiers. -/
def resolveChannelIds (db : Database) (names : List String) : Except DatabaseFault (List String) :=
  let lowered := names.map Text.lower
  let found := db.channels.toList.filter fun c => lowered.contains (Text.asciiLower c.name) || names.contains c.id
  guardLookup names.isEmpty (fitsValues [lowered, names]) false
    (.ok ((found.mergeSort fun c d => c.name ≤ d.name).map (·.id)))

/-- The names of channels that start with a text. -/
def channelNamesWithPrefix (db : Database) (start : String) (limit : Nat) : Except DatabaseFault (List String) :=
  let pattern := Like.startingWith start
  let names := db.channels.toList.map (·.name)
  let found := names.filter (Like.isMatch pattern)
  guardLookup false true (0 < limit && !names.isEmpty && Like.isTooLong pattern)
    (.ok ((found.mergeSort fun a b => a ≤ b).take limit))

/-! ### Users -/

/-- Whether a user is one that is looked up. -/
def userFits (q : UserLookup) (u : Stored.User) : Bool :=
  q.text.holds [u.firstName, u.lastName, u.email, u.rawName] u.rawName
    && q.isAdmin.all fun b => u.isAdmin.same (.integer (if b then 1 else 0))

/-- Whether the test of a user comes to a pattern that is too long. -/
def userOverruns (q : UserLookup) (u : Stored.User) : Bool :=
  q.text.overruns [u.firstName, u.lastName, u.email, u.rawName] u.rawName

/-- The answer for a user. -/
def userRow (u : Stored.User) : Except DatabaseFault UserRow := do
  let createdAt ← readTime u.createdAt
  let isAdmin ← readable u.isAdmin.bool?
  return { id := u.id, username := u.username, firstName := u.firstName, lastName := u.lastName, email := u.email
           avatarUrl := u.avatarUrl, isAdmin, createdAt }

/-- Whether a user may stand in front of another in the order of names. -/
def byName (u v : Stored.User) : Bool :=
  u.firstName < v.firstName ||
    (u.firstName == v.firstName && (u.lastName < v.lastName || (u.lastName == v.lastName && u.id ≤ v.id)))

/-- Looks users up. -/
def searchUsers (db : Database) (q : UserLookup) : Except DatabaseFault (List UserRow) :=
  let overruns := 0 < q.limit && db.users.any (userOverruns q)
  guardLookup false q.shape.fits overruns
    ((cutPage q.limit q.offset ((db.users.toList.filter (userFits q)).mergeSort byName)).mapM userRow)

/-- The users with some names or addresses, in lower case, or some identifiers. -/
def resolveUserIds (db : Database) (names : List String) : Except DatabaseFault (List String) :=
  let lowered := names.map Text.lower
  let found := db.users.toList.filter fun u =>
    lowered.contains (Text.asciiLower u.username) || lowered.contains (Text.asciiLower u.email) || names.contains u.id
  guardLookup names.isEmpty (fitsValues [lowered, lowered, names]) false
    (.ok ((found.mergeSort fun u v => u.username ≤ v.username).map (·.id)))

/-- The full names, without spaces at both ends, that contain a text. -/
def fullNamesContaining (db : Database) (fragment : String) (limit : Nat) : Except DatabaseFault (List String) :=
  let pattern := Like.containing fragment
  let names := db.users.toList.map (·.rawName)
  let found := names.filter (Like.isMatch pattern)
  guardLookup false true (0 < limit && !names.isEmpty && Like.isTooLong pattern)
    (.ok (((found.map Stored.trimSpaces).mergeSort fun a b => a ≤ b).take limit))

end Database

end WorkspaceSearch
