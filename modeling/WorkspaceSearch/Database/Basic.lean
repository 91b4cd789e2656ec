import WorkspaceSearch.Database.Plan
import WorkspaceSearch.Database.Rows
import WorkspaceSearch.Database.Stored

/-!
# The database

Nine tables of rows, in the order in which the rows were inserted.  A row is inserted only if its key is new and the
rows it refers to are there.  A row that is deleted takes with it the rows that depend on it: a channel its memberships
and messages, a message its reactions, and a user memberships, messages, reactions and direct messages; the files of a
user stay, without their uploader.

The plan by which lookups are run belongs to the database as well; nothing that is done to rows changes it.
-/

namespace WorkspaceSearch

/-- The tables of the database, and the plan by which it runs lookups. -/
structure Database where
  users : Rows Stored.User := {}
  channels : Rows Stored.Channel := {}
  memberships : Rows Stored.Membership := {}
  messages : Rows Stored.Message := {}
  reactions : Rows Stored.Reaction := {}
  directMessages : Rows Stored.DirectMessage := {}
  files : Rows Stored.File := {}
  history : Rows Stored.History := {}
  saved : Rows Stored.Saved := {}
  plan : Plan := .scan
  deriving Inhabited

namespace Database

/-! ### Inserting -/

/-- Whether there is a user with that identifier. -/
def hasUser (db : Database) (id : String) : Bool := db.users.any fun u => u.id = id

/-- Whether there is a channel with that identifier. -/
def hasChannel (db : Database) (id : String) : Bool := db.channels.any fun c => c.id = id

/-- Whether there is a message with that identifier. -/
def hasMessage (db : Database) (id : String) : Bool := db.messages.any fun m => m.id = id

/-- The outcome of an insertion: refused when the key is there already, or a row it refers to is not there. -/
def guarded (taken parents : Bool) (db : Database) : Except DatabaseFault Database :=
  if taken then .error .duplicateKey else if parents then .ok db else .error .missingParent

/-- Inserts a user; identifier and username must be new. -/
def insertUser (db : Database) (u : Stored.User) : Except DatabaseFault Database :=
  guarded (db.users.any fun v => v.id = u.id ∨ v.username = u.username) true { db with users := db.users.push u }

/-- Inserts a channel; identifier and name must be new. -/
def insertChannel (db : Database) (c : Stored.Channel) : Except DatabaseFault Database :=
  guarded (db.channels.any fun d => d.id = c.id ∨ d.name = c.name) true { db with channels := db.channels.push c }

/-- Inserts a membership; a user is in a channel once. -/
def insertMembership (db : Database) (m : Stored.Membership) : Except DatabaseFault Database :=
  guarded (db.memberships.any fun n => n.channelId = m.channelId ∧ n.userId = m.userId)
    (db.hasChannel m.channelId && db.hasUser m.userId) { db with memberships := db.memberships.push m }

/-- Inserts a message into a channel that is there, by a user who is there. -/
def insertMessage (db : Database) (m : Stored.Message) : Except DatabaseFault Database :=
  guarded (db.hasMessage m.id) (db.hasChannel m.channelId && db.hasUser m.senderId)
    { db with messages := db.messages.push m }

/-- Inserts a reaction; a user reacts to a message with an emoji once. -/
def insertReaction (db : Database) (r : Stored.Reaction) : Except DatabaseFault Database :=
  guarded (db.reactions.any fun s => s.messageId = r.messageId ∧ s.userId = r.userId ∧ s.emoji = r.emoji)
    (db.hasMessage r.messageId && db.hasUser r.userId) { db with reactions := db.reactions.push r }

/-- Inserts a direct message between users who are there. -/
def insertDirectMessage (db : Database) (m : Stored.DirectMessage) : Except DatabaseFault Database :=
  guarded (db.directMessages.any fun n => n.id = m.id) (db.hasUser m.senderId && db.hasUser m.receiverId)
    { db with directMessages := db.directMessages.push m }

/-- Inserts a file; its uploader, if it has one, must be there, and its message need not be. -/
def insertFile (db : Database) (f : Stored.File) : Except DatabaseFault Database :=
  guarded (db.files.any fun g => g.id = f.id) (f.uploaderId.all db.hasUser) { db with files := db.files.push f }

/-- Inserts a history entry; its user need not be there. -/
def insertHistory (db : Database) (h : Stored.History) : Except DatabaseFault Database :=
  guarded (db.history.any fun k => k.id = h.id) true { db with history := db.history.push h }

/-- Inserts a saved search; its user need not be there. -/
def insertSaved (db : Database) (s : Stored.Saved) : Except DatabaseFault Database :=
  guarded (db.saved.any fun t => t.id = s.id) true { db with saved := db.saved.push s }

/-! ### Deleting -/

/-- Deletes reactions. -/
def deleteReactions (db : Database) (p : Numbered Stored.Reaction → Bool) : Database :=
  { db with reactions := db.reactions.erase p }

/-- Deletes memberships. -/
def deleteMemberships (db : Database) (p : Numbered Stored.Membership → Bool) : Database :=
  { db with memberships := db.memberships.erase p }

/-- Deletes messages and the reactions to them. -/
def deleteMessages (db : Database) (p : Numbered Stored.Message → Bool) : Database :=
  let gone (id : String) : Bool := db.messages.entries.any fun m => p m && m.row.id = id
  { db.deleteReactions (gone ·.row.messageId) with messages := db.messages.erase p }

/-- Deletes direct messages. -/
def deleteDirectMessages (db : Database) (p : Numbered Stored.DirectMessage → Bool) : Database :=
  { db with directMessages := db.directMessages.erase p }

/-- Deletes files. -/
def deleteFiles (db : Database) (p : Numbered Stored.File → Bool) : Database :=
  { db with files := db.files.erase p }

/-- Deletes history entries. -/
def deleteHistory (db : Database) (p : Numbered Stored.History → Bool) : Database :=
  { db with history := db.history.erase p }

/-- Deletes saved searches. -/
def deleteSaved (db : Database) (p : Numbered Stored.Saved → Bool) : Database :=
  { db with saved := db.saved.erase p }

/-- Deletes channels, their memberships and their messages. -/
def deleteChannels (db : Database) (p : Numbered Stored.Channel → Bool) : Database :=
  let gone (id : String) : Bool := db.channels.entries.any fun c => p c && c.row.id = id
  let db' := (db.deleteMemberships (gone ·.row.channelId)).deleteMessages (gone ·.row.channelId)
  { db' with channels := db.channels.erase p }

/-- Takes the uploader off files. -/
def dropUploaders (db : Database) (gone : String → Bool) : Database :=
  { db with files := db.files.map fun f => if f.uploaderId.any gone then { f with uploaderId := none } else f }

/-- Deletes users and everything that depends on them. -/
def deleteUsers (db : Database) (p : Numbered Stored.User → Bool) : Database :=
  let gone (id : String) : Bool := db.users.entries.any fun u => p u && u.row.id = id
  let db' := (db.deleteMemberships (gone ·.row.userId)).deleteMessages (gone ·.row.senderId)
  let db' := db'.deleteReactions (gone ·.row.userId)
  let db' := db'.deleteDirectMessages fun m => gone m.row.senderId || gone m.row.receiverId
  { db'.dropUploaders gone with users := db.users.erase p }

end Database

end WorkspaceSearch
