import WorkspaceSearch.Proofs.Database.Unique
import WorkspaceSearch.Proofs.Database.Visible

/-!
# Rows in another order

Two databases may have the same rows, put into their tables in different orders (`Rearranged`).  A lookup sorts the rows
it finds by an order that ends with a key, and cuts the page out after that; so it answers the same on both.  Only the
messages with an attachment are answered as they are arranged (`Rearranged.attachmentMessageIds`), and a lookup of files
does not depend on the order of the messages it is given (`Rearranged.searchFiles_of`).
-/

namespace WorkspaceSearch.Database

/-- The same rows in every table that is searched, however they are arranged, and the same plan for lookups. -/
structure Rearranged (db db' : Database) : Prop where
  users : db.users.toList.Perm db'.users.toList
  channels : db.channels.toList.Perm db'.channels.toList
  memberships : db.memberships.toList.Perm db'.memberships.toList
  messages : db.messages.toList.Perm db'.messages.toList
  reactions : db.reactions.toList.Perm db'.reactions.toList
  directMessages : db.directMessages.toList.Perm db'.directMessages.toList
  files : db.files.toList.Perm db'.files.toList
  plan : db.plan = db'.plan

/-! ### Orders that end with a key -/

/-- Rows in the order of time do not depend on how they were arranged. -/
private theorem sorted_by_time {Row : Type} {rows rows' : List Row} (createdAt : Row → Scalar) (id : Row → String)
    (h : rows.Perm rows') (hid : (rows.map id).Nodup) (p : Row → Bool) :
    ((rows.filter p).mergeSort fun r q => newestFirst (timeKey (createdAt r) (id r)) (timeKey (createdAt q) (id q))) =
      (rows'.filter p).mergeSort fun r q =>
        newestFirst (timeKey (createdAt r) (id r)) (timeKey (createdAt q) (id q)) := by
  refine sorted_eq_of_perm id (fun x y z => ?_) (fun x y => ?_) (fun x y hxy hyx => ?_) h hid p
  · exact newestFirst_trans _ _ _
  · exact newestFirst_total _ _
  · exact congrArg Prod.snd (newestFirst_antisymm hxy hyx)

private theorem byName_iff {u v : Stored.User} :
    byName u v = true ↔ u.firstName < v.firstName ∨
      u.firstName = v.firstName ∧ (u.lastName < v.lastName ∨ u.lastName = v.lastName ∧ u.id ≤ v.id) := by
  simp [byName]

theorem byName_trans (u v w : Stored.User) (h : byName u v = true) (h' : byName v w = true) :
    byName u w = true := by
  rw [byName_iff] at *
  rcases h with h | ⟨h, hlast⟩
  · rcases h' with h' | ⟨h', -⟩
    · exact .inl (String.lt_trans h h')
    · exact .inl (h' ▸ h)
  · rw [h]
    refine h'.imp_right fun ⟨h', hlast'⟩ => ⟨h', ?_⟩
    rcases hlast with hlast | ⟨hlast, hid⟩
    · rcases hlast' with hlast' | ⟨hlast', -⟩
      · exact .inl (String.lt_trans hlast hlast')
      · exact .inl (hlast' ▸ hlast)
    · rw [hlast]
      exact hlast'.imp_right fun ⟨hlast', hid'⟩ => ⟨hlast', String.le_trans hid hid'⟩

private theorem lt_or_eq_or_gt (x y : String) : x < y ∨ x = y ∨ y < x := by
  by_cases hxy : x < y
  · exact .inl hxy
  · by_cases hyx : y < x
    · exact .inr (.inr hyx)
    · exact .inr (.inl (String.le_antisymm hyx hxy))

theorem byName_total (u v : Stored.User) : (byName u v || byName v u) = true := by
  rw [Bool.or_eq_true, byName_iff, byName_iff]
  rcases lt_or_eq_or_gt u.firstName v.firstName with h | h | h
  · exact .inl (.inl h)
  · rcases lt_or_eq_or_gt u.lastName v.lastName with hlast | hlast | hlast
    · exact .inl (.inr ⟨h, .inl hlast⟩)
    · exact (String.le_total u.id v.id).imp (fun hid => .inr ⟨h, .inr ⟨hlast, hid⟩⟩) fun hid =>
        .inr ⟨h.symm, .inr ⟨hlast.symm, hid⟩⟩
    · exact .inr (.inr ⟨h.symm, .inl hlast⟩)
  · exact .inr (.inl h)

private theorem id_eq_of_byName (u v : Stored.User) (h : byName u v = true) (h' : byName v u = true) :
    u.id = v.id := by
  rw [byName_iff] at *
  rcases h with h | ⟨h, hlast⟩
  · rcases h' with h' | ⟨h', -⟩
    · exact absurd (String.lt_trans h h') (String.lt_irrefl _)
    · exact absurd (h' ▸ h) (String.lt_irrefl _)
  · rcases h' with h' | ⟨-, hlast'⟩
    · exact absurd (h ▸ h') (String.lt_irrefl _)
    · rcases hlast with hlast | ⟨hlast, hid⟩
      · rcases hlast' with hlast' | ⟨hlast', -⟩
        · exact absurd (String.lt_trans hlast hlast') (String.lt_irrefl _)
        · exact absurd (hlast' ▸ hlast) (String.lt_irrefl _)
      · rcases hlast' with hlast' | ⟨-, hid'⟩
        · exact absurd (hlast ▸ hlast') (String.lt_irrefl _)
        · exact String.le_antisymm hid hid'

/-! ### Lookups -/

namespace Rearranged

variable {db db' : Database} (h : Rearranged db db')

include h

theorem people : SamePeople db db' := ⟨h.users, h.channels⟩

private theorem messageFits (q : MessageLookup) : db.messageFits q = db'.messageFits q := by
  funext m
  simp only [Database.messageFits, h.reactions.any_eq]

private theorem messageRow : db.messageRow = db'.messageRow := by
  funext m c u
  simp only [Database.messageRow, reactionCount, h.reactions.countP_eq]

private theorem messageOverruns (q : MessageLookup) : db.messageOverruns q = db'.messageOverruns q := by
  funext m
  rw [Database.messageOverruns, Database.messageOverruns, h.plan]

private theorem channelRow : db.channelRow = db'.channelRow := by
  funext c
  simp only [Database.channelRow, memberCount, h.memberships.countP_eq]

private theorem messagesInPlace : db.messagesInPlace.Perm db'.messagesInPlace :=
  join_perm (join_perm h.messages h.channels) h.users

private theorem filesInPlace : db.filesInPlace.Perm db'.filesInPlace :=
  (joinMaybe_perm (joinMaybe_perm (joinMaybe_perm h.files h.users) h.messages) h.channels).map _

/-- The messages with an attachment are the same, in some order. -/
theorem attachmentMessageIds (channelIds : List String) :
    db.attachmentMessageIds channelIds = db'.attachmentMessageIds channelIds ∨
      ∃ ids ids', ids.Perm ids' ∧ db.attachmentMessageIds channelIds = .ok ids ∧
        db'.attachmentMessageIds channelIds = .ok ids' := by
  unfold Database.attachmentMessageIds guardLookup
  split
  · exact .inl rfl
  · split
    · exact .inl rfl
    · exact .inr ⟨_, _, (h.messages.filter _).map _, rfl, rfl⟩

variable (hkeyed : db.Keyed)

include hkeyed

theorem searchMessages (q : MessageLookup) : db.searchMessages q = db'.searchMessages q := by
  have hids := hkeyed.messages.sublist ((map_message_messagesInPlace_sublist hkeyed).map (·.id))
  rw [List.map_map] at hids
  have hfound : db.foundMessages q = db'.foundMessages q := by
    unfold foundMessages
    rw [h.messageFits q]
    exact sorted_by_time (fun x => x.1.1.createdAt) (fun x => x.1.1.id) h.messagesInPlace hids _
  rw [searchMessages_eq, searchMessages_eq, hfound, h.messageRow, h.messageOverruns, Rows.any, Rows.any,
    h.messages.any_eq]

private theorem searchFiles_congr {q q' : FileLookup} (hfits : fileFits q = fileFits q')
    (hoverruns : fileOverruns q = fileOverruns q') (hnone : q.messageIds = some [] ↔ q'.messageIds = some [])
    (hshape : q.shape = q'.shape) (hlimit : q.limit = q'.limit) (hoffset : q.offset = q'.offset) :
    db.searchFiles q = db'.searchFiles q' := by
  have hids : (db.filesInPlace.map fun p => p.file.id).Nodup := by
    have hfiles := congrArg (List.map (·.id)) (map_file_filesInPlace hkeyed)
    rw [List.map_map] at hfiles
    exact hfiles ▸ hkeyed.files
  have hsorted := sorted_by_time (fun p : FilePlace => p.file.createdAt) (fun p => p.file.id) h.filesInPlace hids
    fun p => fileFits q' p.file
  unfold Database.searchFiles
  simp only [hfits, hsorted, hoverruns, Rows.any, h.files.any_eq, hnone, hshape, hlimit, hoffset]

theorem searchFiles (q : FileLookup) : db.searchFiles q = db'.searchFiles q :=
  h.searchFiles_congr hkeyed rfl rfl Iff.rfl rfl rfl rfl

/-- A lookup of files among those of some messages does not depend on the order of these messages. -/
theorem searchFiles_of (q : FileLookup) {ids ids' : List String} (hids : ids.Perm ids') :
    db.searchFiles { q with messageIds := some ids } = db'.searchFiles { q with messageIds := some ids' } := by
  have hattached : isAttached { q with messageIds := some ids } = isAttached { q with messageIds := some ids' } := by
    funext f
    simp only [isAttached, Option.all_some]
    congr 1
    funext id
    rw [Bool.eq_iff_iff, List.contains_iff_mem, List.contains_iff_mem, hids.mem_iff]
  have hclauses : listClauses ids = listClauses ids' := by
    rw [listClauses, listClauses, hids.isEmpty_eq, Clause.membership, Clause.membership, hids.length_eq]
  refine h.searchFiles_congr hkeyed ?_ ?_ ?_ ?_ rfl rfl
  · funext f
    simp only [fileFits, hattached]
    rfl
  · funext f
    simp only [fileOverruns, hattached]
    rfl
  · simp only [Option.some.injEq]
    exact ⟨fun hnil => (hnil ▸ hids).nil_eq.symm, fun hnil => (hnil ▸ hids).eq_nil⟩
  · simp only [FileLookup.shape, Option.getD_some, hclauses]

theorem searchChannels (q : ChannelLookup) : db.searchChannels q = db'.searchChannels q := by
  have hsorted := sorted_by_key (·.name) h.channels hkeyed.channelNames fun _ => true
  rw [List.filter_true, List.filter_true] at hsorted
  unfold Database.searchChannels
  rw [hsorted, h.channelRow]

theorem searchUsers (q : UserLookup) : db.searchUsers q = db'.searchUsers q := by
  have hsorted := sorted_eq_of_perm (·.id) byName_trans byName_total id_eq_of_byName h.users hkeyed.users (userFits q)
  unfold Database.searchUsers
  rw [hsorted, Rows.any, Rows.any, h.users.any_eq]

end Rearranged

end WorkspaceSearch.Database
