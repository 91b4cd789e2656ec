import WorkspaceSearch.Database.Table

/-!
# What a deletion takes with it

A row has owners, the rows without which it cannot be: a membership its channel and its user, a message its channel and
its sender, a reaction its message and its user, and a direct message its sender and its receiver.  A file refers to its
uploader as well, and can do without.

When rows are deleted, whatever they own falls with them (`Database.Falls`), over any number of steps.  All other rows
stay as they are, save that files lose an uploader who falls (`Database.has_deleteCells`).
-/

namespace WorkspaceSearch

/-- A row of one of the tables, with its number. -/
inductive Entry where
  | user (e : Numbered Stored.User)
  | channel (e : Numbered Stored.Channel)
  | membership (e : Numbered Stored.Membership)
  | message (e : Numbered Stored.Message)
  | reaction (e : Numbered Stored.Reaction)
  | directMessage (e : Numbered Stored.DirectMessage)
  | file (e : Numbered Stored.File)
  | history (e : Numbered Stored.History)
  | saved (e : Numbered Stored.Saved)

namespace Entry

/-- The table of a row. -/
def table : Entry → Table
  | user _ => .users
  | channel _ => .channels
  | membership _ => .memberships
  | message _ => .messages
  | reaction _ => .reactions
  | directMessage _ => .directMessages
  | file _ => .files
  | history _ => .history
  | saved _ => .saved

/-- The cells of a row and its number. -/
def cells : Entry → Cells
  | user e => Database.numberedCells Stored.User.cells e
  | channel e => Database.numberedCells Stored.Channel.cells e
  | membership e => Database.numberedCells Stored.Membership.cells e
  | message e => Database.numberedCells Stored.Message.cells e
  | reaction e => Database.numberedCells Stored.Reaction.cells e
  | directMessage e => Database.numberedCells Stored.DirectMessage.cells e
  | file e => Database.numberedCells Stored.File.cells e
  | history e => Database.numberedCells Stored.History.cells e
  | saved e => Database.numberedCells Stored.Saved.cells e

/-- What other rows call a row: its table and its identifier. -/
def name? : Entry → Option (Table × String)
  | user e => some (.users, e.row.id)
  | channel e => some (.channels, e.row.id)
  | message e => some (.messages, e.row.id)
  | _ => none

/-- The names of the rows without which a row cannot be. -/
def owners : Entry → List (Table × String)
  | membership e => [(.channels, e.row.channelId), (.users, e.row.userId)]
  | message e => [(.channels, e.row.channelId), (.users, e.row.senderId)]
  | reaction e => [(.messages, e.row.messageId), (.users, e.row.userId)]
  | directMessage e => [(.users, e.row.senderId), (.users, e.row.receiverId)]
  | _ => []

/-- The name of the uploader of a file. -/
def uploader? : Entry → Option (Table × String)
  | file e => e.row.uploaderId.map ((.users, ·))
  | _ => none

/-- The row without its uploader. -/
def withoutUploader : Entry → Entry
  | file e => file { e with row := { e.row with uploaderId := none } }
  | e => e

/-- The row under another number. -/
def withNumber (n : Int) : Entry → Entry
  | user e => user { e with number := n }
  | channel e => channel { e with number := n }
  | membership e => membership { e with number := n }
  | message e => message { e with number := n }
  | reaction e => reaction { e with number := n }
  | directMessage e => directMessage { e with number := n }
  | file e => file { e with number := n }
  | history e => history { e with number := n }
  | saved e => saved { e with number := n }

@[simp] theorem owners_withNumber (e : Entry) (n : Int) : (e.withNumber n).owners = e.owners := by cases e <;> rfl

@[simp] theorem uploader?_withNumber (e : Entry) (n : Int) : (e.withNumber n).uploader? = e.uploader? := by
  cases e <;> rfl

@[simp] theorem owners_withoutUploader (e : Entry) : e.withoutUploader.owners = e.owners := by cases e <;> rfl

@[simp] theorem name?_withoutUploader (e : Entry) : e.withoutUploader.name? = e.name? := by cases e <;> rfl

@[simp] theorem uploader?_withoutUploader (e : Entry) : e.withoutUploader.uploader? = none := by cases e <;> rfl

end Entry

namespace Database

/-- A row is in the database. -/
def Has (db : Database) : Entry → Prop
  | .user e => e ∈ db.users.entries
  | .channel e => e ∈ db.channels.entries
  | .membership e => e ∈ db.memberships.entries
  | .message e => e ∈ db.messages.entries
  | .reaction e => e ∈ db.reactions.entries
  | .directMessage e => e ∈ db.directMessages.entries
  | .file e => e ∈ db.files.entries
  | .history e => e ∈ db.history.entries
  | .saved e => e ∈ db.saved.entries

/-- The rows that fall when some rows of a table are deleted: these rows, and whatever is owned by a row that falls. -/
inductive Falls (db : Database) (t : Table) (p : Cells → Bool) : Entry → Prop
  | chosen {e : Entry} (hthere : db.Has e) (htable : e.table = t) (hchosen : p e.cells = true) : Falls db t p e
  | owned {e f : Entry} {name : Table × String} (hthere : db.Has e) (howner : name ∈ e.owners)
      (hname : f.name? = some name) (hfalls : Falls db t p f) : Falls db t p e

/-- A row loses its uploader, who falls. -/
def Orphans (db : Database) (t : Table) (p : Cells → Bool) (e : Entry) : Prop :=
  ∃ u name, e.uploader? = some name ∧ u.name? = some name ∧ db.Falls t p u

/-- What is left of a row that stays. -/
def Leaves (db : Database) (t : Table) (p : Cells → Bool) (e e' : Entry) : Prop :=
  (db.Orphans t p e → e' = e.withoutUploader) ∧ (¬db.Orphans t p e → e' = e)

/-! ### The rows that fall, computed -/

section

variable (db : Database) (t : Table) (p : Cells → Bool)

/-- Whether a row is one of those that are deleted. -/
private def isChosen (e : Entry) : Bool := e.table = t && p e.cells

/-- Whether a user with that identifier falls. -/
private def userFalls (id : String) : Bool := db.users.entries.any fun u => isChosen t p (.user u) && u.row.id = id

/-- Whether a channel with that identifier falls. -/
private def channelFalls (id : String) : Bool :=
  db.channels.entries.any fun c => isChosen t p (.channel c) && c.row.id = id

/-- Whether a message falls. -/
private def isFallingMessage (m : Numbered Stored.Message) : Bool :=
  isChosen t p (.message m) || channelFalls db t p m.row.channelId || userFalls db t p m.row.senderId

/-- Whether a message with that identifier falls. -/
private def messageFalls (id : String) : Bool :=
  db.messages.entries.any fun m => isFallingMessage db t p m && m.row.id = id

/-- Whether a row with that name falls. -/
private def nameFalls : Table × String → Bool
  | (.users, id) => userFalls db t p id
  | (.channels, id) => channelFalls db t p id
  | (.messages, id) => messageFalls db t p id
  | _ => false

/-- Whether a row falls. -/
private def isFalling (e : Entry) : Bool := isChosen t p e || e.owners.any (nameFalls db t p)

/-- The database without the rows that fall. -/
def remainder : Database where
  users := db.users.erase fun e => isFalling db t p (.user e)
  channels := db.channels.erase fun e => isFalling db t p (.channel e)
  memberships := db.memberships.erase fun e => isFalling db t p (.membership e)
  messages := db.messages.erase fun e => isFalling db t p (.message e)
  reactions := db.reactions.erase fun e => isFalling db t p (.reaction e)
  directMessages := db.directMessages.erase fun e => isFalling db t p (.directMessage e)
  files := (db.files.erase fun e => isFalling db t p (.file e)).map fun f =>
    if f.uploaderId.any fun id => userFalls db t p id then { f with uploaderId := none } else f
  history := db.history.erase fun e => isFalling db t p (.history e)
  saved := db.saved.erase fun e => isFalling db t p (.saved e)
  plan := db.plan

end

variable {db : Database} {t : Table} {p : Cells → Bool}

private theorem erase_false {Row : Type} (t : Rows Row) : (t.erase fun _ => false) = t := by
  simp [Rows.erase, List.filter_eq_self.2]

private theorem erase_erase {Row : Type} (t : Rows Row) (p q : Numbered Row → Bool) :
    (t.erase p).erase q = t.erase fun e => p e || q e := by
  simp only [Rows.erase, List.filter_filter, Bool.not_or, Bool.and_comm]

private theorem any_false {α : Type} (as : List α) : (as.any fun _ => false) = false := by simp

private theorem map_self {Row : Type} (t : Rows Row) : (t.map fun r => r) = t := by simp [Rows.map]

private theorem isChosen_eq (e : Entry) : isChosen t p e = (e.table = t && p e.cells) := rfl

private theorem userFalls_of_ne (h : t ≠ .users) : userFalls db t p = fun _ => false := by
  funext id
  simp [userFalls, isChosen_eq, Entry.table, h.symm, any_false]

private theorem channelFalls_of_ne (h : t ≠ .channels) : channelFalls db t p = fun _ => false := by
  funext id
  simp [channelFalls, isChosen_eq, Entry.table, h.symm, any_false]

/-- Deleting leaves the rows that do not fall, whatever their table. -/
theorem deleteCells_eq (db : Database) (t : Table) (p : Cells → Bool) :
    db.deleteCells p t = remainder db t p := by
  cases t with
  | users =>
    simp [deleteCells, remainder, isFalling, isChosen_eq, Entry.table, Entry.cells, Entry.owners, nameFalls, userFalls,
      channelFalls_of_ne, messageFalls, isFallingMessage, erase_false, erase_erase, deleteUsers, deleteMessages,
      deleteMemberships, deleteReactions, deleteDirectMessages, dropUploaders, Function.comp_def]
  | channels =>
    simp [deleteCells, remainder, isFalling, isChosen_eq, Entry.table, Entry.cells, Entry.owners, nameFalls,
      userFalls_of_ne, channelFalls, messageFalls, isFallingMessage, erase_false, map_self, deleteChannels,
      deleteMessages, deleteMemberships, deleteReactions, Function.comp_def]
  | messages =>
    simp [deleteCells, remainder, isFalling, isChosen_eq, Entry.table, Entry.cells, Entry.owners, nameFalls,
      userFalls_of_ne, channelFalls_of_ne, messageFalls, isFallingMessage, erase_false, map_self, deleteMessages,
      deleteReactions, Function.comp_def]
  | _ =>
    simp [deleteCells, remainder, isFalling, isChosen_eq, Entry.table, Entry.cells, Entry.owners, nameFalls,
      userFalls_of_ne, channelFalls_of_ne, messageFalls, isFallingMessage, erase_false, map_self, any_false,
      deleteMemberships, deleteReactions, deleteDirectMessages, deleteFiles, deleteHistory, deleteSaved,
      Function.comp_def]

/-- A row that falls by its name does so in the computation. -/
private theorem nameFalls_of_isFalling {f : Entry} {name : Table × String} (hf : db.Has f)
    (hname : f.name? = some name) (h : isFalling db t p f = true) : nameFalls db t p name = true := by
  cases f <;> cases hname
  case user u =>
    refine List.any_eq_true.2 ⟨u, hf, ?_⟩
    simpa [isFalling, Entry.owners] using h
  case channel c =>
    refine List.any_eq_true.2 ⟨c, hf, ?_⟩
    simpa [isFalling, Entry.owners] using h
  case message m =>
    refine List.any_eq_true.2 ⟨m, hf, ?_⟩
    simpa [isFalling, isFallingMessage, Entry.owners, nameFalls, or_assoc] using h

private theorem Falls.has {e : Entry} (h : db.Falls t p e) : db.Has e := by cases h <;> assumption

private theorem isFalling_of_falls {e : Entry} (h : db.Falls t p e) : isFalling db t p e = true := by
  induction h with
  | chosen hthere htable hchosen => simp [isFalling, isChosen, htable, hchosen]
  | owned hthere howner hname hfalls ih =>
    have howned := List.any_eq_true.2 ⟨_, howner, nameFalls_of_isFalling hfalls.has hname ih⟩
    exact Bool.or_eq_true_iff.2 (.inr howned)

private theorem falls_of_isChosen {e : Entry} (hthere : db.Has e) (h : isChosen t p e = true) : db.Falls t p e := by
  obtain ⟨htable, hchosen⟩ := Bool.and_eq_true_iff.1 h
  exact .chosen hthere (of_decide_eq_true htable) hchosen

private theorem exists_falls_of_userFalls {id : String} (h : userFalls db t p id = true) :
    ∃ f : Entry, f.name? = some (.users, id) ∧ db.Falls t p f := by
  obtain ⟨u, hu, h⟩ := List.any_eq_true.1 h
  obtain ⟨hchosen, hid⟩ := Bool.and_eq_true_iff.1 h
  exact ⟨.user u, by rw [Entry.name?, of_decide_eq_true hid], falls_of_isChosen hu hchosen⟩

private theorem exists_falls_of_channelFalls {id : String} (h : channelFalls db t p id = true) :
    ∃ f : Entry, f.name? = some (.channels, id) ∧ db.Falls t p f := by
  obtain ⟨c, hc, h⟩ := List.any_eq_true.1 h
  obtain ⟨hchosen, hid⟩ := Bool.and_eq_true_iff.1 h
  exact ⟨.channel c, by rw [Entry.name?, of_decide_eq_true hid], falls_of_isChosen hc hchosen⟩

private theorem exists_falls_of_messageFalls {id : String} (h : messageFalls db t p id = true) :
    ∃ f : Entry, f.name? = some (.messages, id) ∧ db.Falls t p f := by
  obtain ⟨m, hm, h⟩ := List.any_eq_true.1 h
  obtain ⟨hfalling, hid⟩ := Bool.and_eq_true_iff.1 h
  refine ⟨.message m, by rw [Entry.name?, of_decide_eq_true hid], ?_⟩
  rw [isFallingMessage, Bool.or_eq_true, Bool.or_eq_true] at hfalling
  obtain (hchosen | hchannel) | hsender := hfalling
  · exact falls_of_isChosen hm hchosen
  · obtain ⟨f, hname, hfalls⟩ := exists_falls_of_channelFalls hchannel
    exact .owned hm (by simp [Entry.owners]) hname hfalls
  · obtain ⟨f, hname, hfalls⟩ := exists_falls_of_userFalls hsender
    exact .owned hm (by simp [Entry.owners]) hname hfalls

private theorem exists_falls_of_nameFalls {name : Table × String} (h : nameFalls db t p name = true) :
    ∃ f : Entry, f.name? = some name ∧ db.Falls t p f := by
  obtain ⟨t', id⟩ := name
  cases t' with
  | users => exact exists_falls_of_userFalls h
  | channels => exact exists_falls_of_channelFalls h
  | messages => exact exists_falls_of_messageFalls h
  | _ => cases h

private theorem falls_iff {e : Entry} (hthere : db.Has e) : db.Falls t p e ↔ isFalling db t p e = true := by
  refine ⟨isFalling_of_falls, fun h => ?_⟩
  rcases Bool.or_eq_true_iff.1 h with hchosen | howned
  · exact falls_of_isChosen hthere hchosen
  · obtain ⟨name, howner, hname⟩ := List.any_eq_true.1 howned
    obtain ⟨f, hf, hfalls⟩ := exists_falls_of_nameFalls hname
    exact .owned hthere howner hf hfalls

private theorem orphans_file_iff {f : Numbered Stored.File} :
    db.Orphans t p (.file f) ↔ (f.row.uploaderId.any fun id => userFalls db t p id) = true := by
  rw [Option.any_eq_true]
  constructor
  · rintro ⟨u, name, huploader, hname, hfalls⟩
    obtain ⟨id, hid, rfl⟩ := Option.map_eq_some_iff.1 huploader
    exact ⟨id, hid, nameFalls_of_isFalling hfalls.has hname (isFalling_of_falls hfalls)⟩
  · rintro ⟨id, hid, huser⟩
    obtain ⟨u, hname, hfalls⟩ := exists_falls_of_userFalls huser
    exact ⟨u, _, by rw [Entry.uploader?, hid]; rfl, hname, hfalls⟩

/-! ### The rows that stay -/

private theorem mem_erase {Row : Type} {t : Rows Row} {q : Numbered Row → Bool} {e : Numbered Row} :
    e ∈ (t.erase q).entries ↔ e ∈ t.entries ∧ ¬q e = true := by
  simp [Rows.erase]

private theorem leaves_iff_eq {e e' : Entry} (h : e.uploader? = none) : db.Leaves t p e e' ↔ e' = e := by
  have horphans : ¬db.Orphans t p e := by
    rintro ⟨u, name, huploader, -⟩
    rw [h] at huploader
    cases huploader
  exact ⟨fun hleaves => hleaves.2 horphans, fun heq => ⟨fun horphan => absurd horphan horphans, fun _ => heq⟩⟩

private theorem mem_files_remainder {f' : Numbered Stored.File} :
    f' ∈ (remainder db t p).files.entries ↔
      ∃ f ∈ db.files.entries, ¬isFalling db t p (.file f) = true ∧ db.Leaves t p (.file f) (.file f') := by
  simp only [remainder, Rows.map, List.mem_map, mem_erase, and_assoc]
  refine exists_congr fun f => and_congr_right fun _ => and_congr_right fun _ => ?_
  rw [Leaves, orphans_file_iff]
  split
  · next horphan => simp [horphan, Entry.withoutUploader, eq_comm]
  · next horphan => simp [horphan, eq_comm]

/-- A deletion takes the rows that fall, and takes nothing from the others but uploaders who fall. -/
theorem has_deleteCells {e' : Entry} :
    (db.deleteCells p t).Has e' ↔ ∃ e, db.Has e ∧ ¬db.Falls t p e ∧ db.Leaves t p e e' := by
  rw [deleteCells_eq]
  constructor
  · intro h
    have hkept : db.Has e' → ¬isFalling db t p e' = true → e'.uploader? = none →
        ∃ e, db.Has e ∧ ¬db.Falls t p e ∧ db.Leaves t p e e' := fun hthere hfalling hplain =>
      ⟨e', hthere, mt (falls_iff hthere).1 hfalling, (leaves_iff_eq hplain).2 rfl⟩
    cases e' with
    | file f' =>
      obtain ⟨f, hf, hfalling, hleaves⟩ := mem_files_remainder.1 h
      exact ⟨.file f, hf, mt (falls_iff (e := .file f) hf).1 hfalling, hleaves⟩
    | _ => exact hkept (mem_erase.1 h).1 (mem_erase.1 h).2 rfl
  · rintro ⟨e, hthere, hfalls, hleaves⟩
    rw [falls_iff hthere] at hfalls
    cases e with
    | file f =>
      obtain ⟨f', rfl⟩ : ∃ f', e' = .file f' := by
        by_cases horphan : db.Orphans t p (.file f)
        · exact ⟨_, hleaves.1 horphan⟩
        · exact ⟨f, hleaves.2 horphan⟩
      exact mem_files_remainder.2 ⟨f, hthere, hfalls, hleaves⟩
    | _ =>
      obtain rfl := (leaves_iff_eq rfl).1 hleaves
      exact mem_erase.2 ⟨hthere, hfalls⟩

end Database

end WorkspaceSearch
