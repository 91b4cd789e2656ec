import WorkspaceSearch.Database.Table
import WorkspaceSearch.Proofs.Outcome

/-!
# Keys

No two users, channels, messages, direct messages or files have the same identifier, no two users the same username,
and no two channels the same name (`Keyed`).  The empty database is keyed, and it stays so when rows are deleted
(`Keyed.within_deleteCells`) and when one is inserted whose key is new (`Keyed.insertCells`).
-/

namespace WorkspaceSearch.Database

/-! ### What an insertion does -/

theorem guarded_eq_ok {taken parents : Bool} {db db' : Database} :
    guarded taken parents db = .ok db' ↔ taken = false ∧ parents = true ∧ db' = db := by
  cases taken <;> cases parents <;> simp [guarded, eq_comm]

/-- An insertion that is accepted inserts a row, and may give it a number of its own. -/
theorem insert_eq_ok {db db' : Database} {now : Scalar} {table : String} {row : Cells}
    (h : db.insert now table row = .ok db') :
    ∃ cells t next, db.insertCells now cells t = .ok next ∧
      (db' = next ∨ ∃ n, db' = next.alter (·.renumberLast n) t) := by
  obtain ⟨t, -, h⟩ := Outcome.bind_eq_ok.1 h
  obtain ⟨cells, -, h⟩ := Outcome.bind_eq_ok.1 h
  split at h
  · cases h
  · obtain ⟨number, -, h⟩ := Outcome.bind_eq_ok.1 h
    split at h
    · exact ⟨cells, t, db', h, .inl rfl⟩
    · cases h
    · split at h
      · cases h
      · obtain ⟨next, hnext, h⟩ := Outcome.bind_eq_ok.1 h
        exact ⟨cells, t, next, hnext, .inr ⟨_, (Except.ok.inj h).symm⟩⟩

/-! ### Unique keys -/

/-- The keys of the tables that are searched are unique. -/
structure Keyed (db : Database) : Prop where
  users : (db.users.toList.map (·.id)).Nodup
  usernames : (db.users.toList.map (·.username)).Nodup
  channels : (db.channels.toList.map (·.id)).Nodup
  channelNames : (db.channels.toList.map (·.name)).Nodup
  messages : (db.messages.toList.map (·.id)).Nodup
  directMessages : (db.directMessages.toList.map (·.id)).Nodup
  files : (db.files.toList.map (·.id)).Nodup

namespace Keyed

theorem empty (plan : Plan) : Keyed { plan } := ⟨.nil, .nil, .nil, .nil, .nil, .nil, .nil⟩

/-- A database without some of the rows of another; its files may have lost what they refer to. -/
structure Within (db db' : Database) : Prop where
  users : db.users.toList.Sublist db'.users.toList
  channels : db.channels.toList.Sublist db'.channels.toList
  messages : db.messages.toList.Sublist db'.messages.toList
  directMessages : db.directMessages.toList.Sublist db'.directMessages.toList
  files : (db.files.toList.map (·.id)).Sublist (db'.files.toList.map (·.id))

variable {db db' : Database}

theorem of_within (h : Keyed db') (hw : Within db db') : Keyed db :=
  ⟨h.users.sublist (hw.users.map _), h.usernames.sublist (hw.users.map _), h.channels.sublist (hw.channels.map _),
    h.channelNames.sublist (hw.channels.map _), h.messages.sublist (hw.messages.map _),
    h.directMessages.sublist (hw.directMessages.map _), h.files.sublist hw.files⟩

/-! ### Deleting -/

private theorem ids_dropUploaders (db : Database) (gone : String → Bool) :
    (db.dropUploaders gone).files.toList.map (·.id) = db.files.toList.map (·.id) := by
  rw [dropUploaders, Rows.toList_map, List.map_map]
  refine List.map_congr_left fun f _ => ?_
  rw [Function.comp_apply]
  split <;> rfl

private theorem within_deleteMessages (db : Database) (p : Numbered Stored.Message → Bool) :
    Within (db.deleteMessages p) db :=
  ⟨.refl _, .refl _, Rows.toList_erase_sublist _ _, .refl _, .refl _⟩

private theorem within_deleteChannels (db : Database) (p : Numbered Stored.Channel → Bool) :
    Within (db.deleteChannels p) db :=
  ⟨.refl _, Rows.toList_erase_sublist _ _, Rows.toList_erase_sublist _ _, .refl _, .refl _⟩

private theorem within_deleteUsers (db : Database) (p : Numbered Stored.User → Bool) :
    Within (db.deleteUsers p) db :=
  ⟨Rows.toList_erase_sublist _ _, .refl _, Rows.toList_erase_sublist _ _, Rows.toList_erase_sublist _ _,
    ids_dropUploaders db _ ▸ .refl _⟩

/-- Deleting rows leaves the others. -/
theorem within_deleteCells (db : Database) (p : Cells → Bool) (t : Table) : Within (db.deleteCells p t) db := by
  cases t with
  | users => exact within_deleteUsers db _
  | channels => exact within_deleteChannels db _
  | messages => exact within_deleteMessages db _
  | directMessages => exact ⟨.refl _, .refl _, .refl _, Rows.toList_erase_sublist _ _, .refl _⟩
  | files => exact ⟨.refl _, .refl _, .refl _, .refl _, (Rows.toList_erase_sublist _ _).map _⟩
  | _ => exact ⟨.refl _, .refl _, .refl _, .refl _, .refl _⟩

/-! ### Inserting -/

theorem nodup_push {Row Key : Type} {t : Rows Row} {r : Row} {key : Row → Key}
    (h : (t.toList.map key).Nodup) (hnew : ∀ q ∈ t.toList, key q ≠ key r) : ((t.push r).toList.map key).Nodup := by
  rw [Rows.toList_push, List.map_append, List.nodup_append]
  refine ⟨h, by simp, ?_⟩
  intro x hx y hy
  obtain ⟨q, hq, rfl⟩ := List.mem_map.1 hx
  obtain rfl : y = key r := by simpa using hy
  exact hnew q hq

private theorem insertUser (h : Keyed db) {u : Stored.User} (hinsert : db.insertUser u = .ok db') : Keyed db' := by
  obtain ⟨htaken, -, rfl⟩ := guarded_eq_ok.1 hinsert
  simp only [Rows.any, List.any_eq_false, decide_eq_true_eq, not_or] at htaken
  exact { h with
    users := nodup_push h.users fun v hv => (htaken v hv).1
    usernames := nodup_push h.usernames fun v hv => (htaken v hv).2 }

private theorem insertChannel (h : Keyed db) {c : Stored.Channel} (hinsert : db.insertChannel c = .ok db') :
    Keyed db' := by
  obtain ⟨htaken, -, rfl⟩ := guarded_eq_ok.1 hinsert
  simp only [Rows.any, List.any_eq_false, decide_eq_true_eq, not_or] at htaken
  exact { h with
    channels := nodup_push h.channels fun d hd => (htaken d hd).1
    channelNames := nodup_push h.channelNames fun d hd => (htaken d hd).2 }

private theorem insertMessage (h : Keyed db) {m : Stored.Message} (hinsert : db.insertMessage m = .ok db') :
    Keyed db' := by
  obtain ⟨htaken, -, rfl⟩ := guarded_eq_ok.1 hinsert
  simp only [hasMessage, Rows.any, List.any_eq_false, decide_eq_true_eq] at htaken
  exact { h with messages := nodup_push h.messages htaken }

private theorem insertDirectMessage (h : Keyed db) {m : Stored.DirectMessage}
    (hinsert : db.insertDirectMessage m = .ok db') : Keyed db' := by
  obtain ⟨htaken, -, rfl⟩ := guarded_eq_ok.1 hinsert
  simp only [Rows.any, List.any_eq_false, decide_eq_true_eq] at htaken
  exact { h with directMessages := nodup_push h.directMessages htaken }

private theorem insertFile (h : Keyed db) {f : Stored.File} (hinsert : db.insertFile f = .ok db') : Keyed db' := by
  obtain ⟨htaken, -, rfl⟩ := guarded_eq_ok.1 hinsert
  simp only [Rows.any, List.any_eq_false, decide_eq_true_eq] at htaken
  exact { h with files := nodup_push h.files htaken }

/-- Inserting a row keeps the keys unique. -/
theorem insertCells (h : Keyed db) {now : Scalar} {row : Cells} {t : Table}
    (hinsert : db.insertCells now row t = .ok db') : Keyed db' := by
  cases t <;> obtain ⟨r, -, hr⟩ := Outcome.bind_eq_ok.1 hinsert
  case users => exact h.insertUser hr
  case channels => exact h.insertChannel hr
  case messages => exact h.insertMessage hr
  case directMessages => exact h.insertDirectMessage hr
  case files => exact h.insertFile hr
  all_goals
    obtain ⟨-, -, rfl⟩ := guarded_eq_ok.1 hr
    exact { h with }

theorem renumberLast (h : Keyed db) (n : Int) (t : Table) : Keyed (db.alter (·.renumberLast n) t) := by
  refine h.of_within ?_
  cases t <;> constructor <;> simp only [alter, Rows.toList_renumberLast] <;> exact .refl _

end Keyed

end WorkspaceSearch.Database
