import WorkspaceSearch.Database.Opened
import WorkspaceSearch.Proofs.Database.Anchored
import WorkspaceSearch.Proofs.Database.Cascade

/-!
# Intact databases

A database is intact when the keys of all its tables are unique (`FullyKeyed`) and every row that another one refers to
is there (`Supported`).  An insertion that is accepted adds one row, whose key is new and whose references are there
(`insert_eq_add`), and a deletion takes a row only together with all that refers to it.  So whatever is inserted and
deleted, in whatever order, leaves an intact database intact (`OpenedDatabase.intact_edits`).
-/

namespace WorkspaceSearch

namespace Database

/-- There is a row with a name. -/
def Names (db : Database) (name : Table × String) : Prop := ∃ f, db.Has f ∧ f.name? = some name

/-- Every row that a row refers to is there. -/
structure Supports (db : Database) (e : Entry) : Prop where
  owners : ∀ name ∈ e.owners, db.Names name
  uploader : ∀ name, e.uploader? = some name → db.Names name

/-- Every row that another one refers to is there. -/
def Supported (db : Database) : Prop := ∀ e, db.Has e → db.Supports e

/-- The keys of all tables are unique. -/
structure FullyKeyed (db : Database) : Prop extends Keyed db where
  memberships : (db.memberships.toList.map fun m => (m.channelId, m.userId)).Nodup
  reactions : (db.reactions.toList.map fun r => (r.messageId, r.userId, r.emoji)).Nodup
  history : (db.history.toList.map (·.id)).Nodup
  saved : (db.saved.toList.map (·.id)).Nodup

/-- The keys of all tables are unique, and every row that another one refers to is there. -/
structure Intact (db : Database) : Prop where
  keys : db.FullyKeyed
  references : db.Supported

theorem Intact.empty (plan : Plan) : Intact { plan } :=
  ⟨⟨Keyed.empty plan, .nil, .nil, .nil, .nil⟩, fun e he => by cases e <;> cases he⟩

variable {db db' : Database}

/-! ### Deleting -/

private theorem FullyKeyed.deleteCells (h : FullyKeyed db) (p : Cells → Bool) (t : Table) :
    FullyKeyed (db.deleteCells p t) := by
  have hkeyed : (db.deleteCells p t).Keyed := h.toKeyed.of_within (Keyed.within_deleteCells db p t)
  rw [deleteCells_eq] at hkeyed ⊢
  exact ⟨hkeyed, h.memberships.sublist ((Rows.toList_erase_sublist _ _).map _),
    h.reactions.sublist ((Rows.toList_erase_sublist _ _).map _),
    h.history.sublist ((Rows.toList_erase_sublist _ _).map _), h.saved.sublist ((Rows.toList_erase_sublist _ _).map _)⟩

/-- A row that does not fall is still there, under its name. -/
private theorem names_deleteCells {t : Table} {p : Cells → Bool} {name : Table × String} (h : db.Names name)
    (hstays : ∀ f : Entry, f.name? = some name → ¬db.Falls t p f) : (db.deleteCells p t).Names name := by
  obtain ⟨f, hf, hname⟩ := h
  by_cases horphan : db.Orphans t p f
  · exact ⟨f.withoutUploader, has_deleteCells.2 ⟨f, hf, hstays f hname, fun _ => rfl, absurd horphan⟩,
      f.name?_withoutUploader.trans hname⟩
  · exact ⟨f, has_deleteCells.2 ⟨f, hf, hstays f hname, fun h => absurd h horphan, fun _ => rfl⟩, hname⟩

/-- Whatever refers to a row that falls either falls with it or forgets it. -/
private theorem Supported.deleteCells (h : Supported db) (p : Cells → Bool) (t : Table) :
    Supported (db.deleteCells p t) := by
  intro e' he'
  obtain ⟨e, he, hstays, horphan, hwhole⟩ := has_deleteCells.1 he'
  have howners : e'.owners = e.owners := by
    by_cases ho : db.Orphans t p e
    · rw [horphan ho, e.owners_withoutUploader]
    · rw [hwhole ho]
  constructor
  · intro name hname
    rw [howners] at hname
    exact names_deleteCells ((h e he).owners name hname) fun f hf hfalls => hstays (.owned he hname hf hfalls)
  · intro name hname
    have ho : ¬db.Orphans t p e := by
      intro ho
      rw [horphan ho, e.uploader?_withoutUploader] at hname
      cases hname
    rw [hwhole ho] at hname
    exact names_deleteCells ((h e he).uploader name hname) fun f hf hfalls => ho ⟨f, name, hname, hf, hfalls⟩

private theorem Intact.deleteCells (h : Intact db) (p : Cells → Bool) (t : Table) : Intact (db.deleteCells p t) :=
  ⟨h.keys.deleteCells p t, h.references.deleteCells p t⟩

/-! ### Inserting -/

/-- The database with a row at the end of its table. -/
def add (db : Database) : Entry → Database
  | .user e => { db with users := ⟨db.users.entries ++ [e]⟩ }
  | .channel e => { db with channels := ⟨db.channels.entries ++ [e]⟩ }
  | .membership e => { db with memberships := ⟨db.memberships.entries ++ [e]⟩ }
  | .message e => { db with messages := ⟨db.messages.entries ++ [e]⟩ }
  | .reaction e => { db with reactions := ⟨db.reactions.entries ++ [e]⟩ }
  | .directMessage e => { db with directMessages := ⟨db.directMessages.entries ++ [e]⟩ }
  | .file e => { db with files := ⟨db.files.entries ++ [e]⟩ }
  | .history e => { db with history := ⟨db.history.entries ++ [e]⟩ }
  | .saved e => { db with saved := ⟨db.saved.entries ++ [e]⟩ }

private theorem has_add {e f : Entry} : (db.add e).Has f ↔ db.Has f ∨ f = e := by
  cases e <;> cases f <;> simp [add, Has]

private theorem renumberLast_append {Row : Type} (es : List (Numbered Row)) (e : Numbered Row) (n : Int) :
    Rows.renumberLast ⟨es ++ [e]⟩ n = ⟨es ++ [{ e with number := n }]⟩ := by
  simp [Rows.renumberLast]

private theorem renumberLast_add (e : Entry) (n : Int) :
    (db.add e).alter (·.renumberLast n) e.table = db.add (e.withNumber n) := by
  cases e <;> simp [add, alter, Entry.table, Entry.withNumber, renumberLast_append]

theorem hasUser_iff {id : String} : db.hasUser id = true ↔ db.Names (.users, id) := by
  constructor
  · intro h
    obtain ⟨u, hu, hid⟩ := List.any_eq_true.1 h
    obtain ⟨e, he, rfl⟩ := List.mem_map.1 hu
    exact ⟨.user e, he, by rw [Entry.name?, of_decide_eq_true hid]⟩
  · rintro ⟨f, hf, hname⟩
    cases f <;> cases hname
    exact List.any_eq_true.2 ⟨_, List.mem_map_of_mem hf, decide_eq_true rfl⟩

theorem hasChannel_iff {id : String} : db.hasChannel id = true ↔ db.Names (.channels, id) := by
  constructor
  · intro h
    obtain ⟨c, hc, hid⟩ := List.any_eq_true.1 h
    obtain ⟨e, he, rfl⟩ := List.mem_map.1 hc
    exact ⟨.channel e, he, by rw [Entry.name?, of_decide_eq_true hid]⟩
  · rintro ⟨f, hf, hname⟩
    cases f <;> cases hname
    exact List.any_eq_true.2 ⟨_, List.mem_map_of_mem hf, decide_eq_true rfl⟩

private theorem hasMessage_iff {id : String} : db.hasMessage id = true ↔ db.Names (.messages, id) := by
  constructor
  · intro h
    obtain ⟨m, hm, hid⟩ := List.any_eq_true.1 h
    obtain ⟨e, he, rfl⟩ := List.mem_map.1 hm
    exact ⟨.message e, he, by rw [Entry.name?, of_decide_eq_true hid]⟩
  · rintro ⟨f, hf, hname⟩
    cases f <;> cases hname
    exact List.any_eq_true.2 ⟨_, List.mem_map_of_mem hf, decide_eq_true rfl⟩

/-- A row whose owners are there and that has no uploader. -/
private theorem supports_of_owners {e : Entry} {a b : Table × String} (howners : e.owners = [a, b])
    (huploader : e.uploader? = none) (ha : db.Names a) (hb : db.Names b) : db.Supports e := by
  constructor
  · intro name hname
    rw [howners, List.mem_pair] at hname
    obtain rfl | rfl := hname
    · exact ha
    · exact hb
  · intro name hname
    rw [huploader] at hname
    cases hname

private theorem supports_of_free {e : Entry} (howners : e.owners = []) (huploader : e.uploader? = none) :
    db.Supports e := by
  constructor
  · intro name hname
    rw [howners] at hname
    cases hname
  · intro name hname
    rw [huploader] at hname
    cases hname

private theorem insertCells_eq_add {now : Scalar} {row : Cells} {t : Table}
    (h : db.insertCells now row t = .ok db') : ∃ e : Entry, e.table = t ∧ db' = db.add e ∧ db.Supports e := by
  cases t <;> obtain ⟨r, -, hr⟩ := Outcome.bind_eq_ok.1 h <;>
    obtain ⟨-, hparents, rfl⟩ := guarded_eq_ok.1 hr
  case users => exact ⟨.user ⟨_, r⟩, rfl, rfl, supports_of_free rfl rfl⟩
  case channels => exact ⟨.channel ⟨_, r⟩, rfl, rfl, supports_of_free rfl rfl⟩
  case memberships =>
    obtain ⟨hchannel, huser⟩ := Bool.and_eq_true_iff.1 hparents
    exact ⟨.membership ⟨_, r⟩, rfl, rfl,
      supports_of_owners rfl rfl (hasChannel_iff.1 hchannel) (hasUser_iff.1 huser)⟩
  case messages =>
    obtain ⟨hchannel, hsender⟩ := Bool.and_eq_true_iff.1 hparents
    exact ⟨.message ⟨_, r⟩, rfl, rfl,
      supports_of_owners rfl rfl (hasChannel_iff.1 hchannel) (hasUser_iff.1 hsender)⟩
  case reactions =>
    obtain ⟨hmessage, huser⟩ := Bool.and_eq_true_iff.1 hparents
    exact ⟨.reaction ⟨_, r⟩, rfl, rfl,
      supports_of_owners rfl rfl (hasMessage_iff.1 hmessage) (hasUser_iff.1 huser)⟩
  case directMessages =>
    obtain ⟨hsender, hreceiver⟩ := Bool.and_eq_true_iff.1 hparents
    exact ⟨.directMessage ⟨_, r⟩, rfl, rfl,
      supports_of_owners rfl rfl (hasUser_iff.1 hsender) (hasUser_iff.1 hreceiver)⟩
  case files =>
    refine ⟨.file ⟨_, r⟩, rfl, rfl, nofun, fun name hname => ?_⟩
    obtain ⟨id, hid, rfl⟩ := Option.map_eq_some_iff.1 hname
    exact hasUser_iff.1 ((Option.all_eq_true _ _).1 hparents id hid)
  case history => exact ⟨.history ⟨_, r⟩, rfl, rfl, supports_of_free rfl rfl⟩
  case saved => exact ⟨.saved ⟨_, r⟩, rfl, rfl, supports_of_free rfl rfl⟩

/-- An insertion that is accepted adds one row, and the rows that it refers to are there. -/
theorem insert_eq_add {now : Scalar} {table : String} {row : Cells} (h : db.insert now table row = .ok db') :
    ∃ e, db' = db.add e ∧ db.Supports e := by
  obtain ⟨cells, t, next, hnext, hdb'⟩ := insert_eq_ok h
  obtain ⟨e, rfl, rfl, hsupports⟩ := insertCells_eq_add hnext
  obtain rfl | ⟨n, rfl⟩ := hdb'
  · exact ⟨e, rfl, hsupports⟩
  · refine ⟨e.withNumber n, renumberLast_add e n, ?_, ?_⟩
    · rw [e.owners_withNumber]
      exact hsupports.owners
    · rw [e.uploader?_withNumber]
      exact hsupports.uploader

private theorem Names.add {name : Table × String} (h : db.Names name) (e : Entry) : (db.add e).Names name := by
  obtain ⟨f, hf, hname⟩ := h
  exact ⟨f, has_add.2 (.inl hf), hname⟩

private theorem Supported.add (h : Supported db) {e : Entry} (he : db.Supports e) : Supported (db.add e) := by
  intro f hf
  have hsupports : db.Supports f := by
    rcases has_add.1 hf with hf | rfl
    · exact h f hf
    · exact he
  exact ⟨fun name hname => (hsupports.owners name hname).add e, fun name hname => (hsupports.uploader name hname).add e⟩

private theorem FullyKeyed.insertCells (h : FullyKeyed db) {now : Scalar} {row : Cells} {t : Table}
    (hinsert : db.insertCells now row t = .ok db') : FullyKeyed db' := by
  have hkeyed := h.toKeyed.insertCells hinsert
  cases t <;> obtain ⟨r, -, hr⟩ := Outcome.bind_eq_ok.1 hinsert <;>
    obtain ⟨htaken, -, rfl⟩ := guarded_eq_ok.1 hr
  case memberships =>
    have hnew : ∀ m ∈ db.memberships.toList, (m.channelId, m.userId) ≠ (r.channelId, r.userId) := fun m hm heq =>
      List.any_eq_false.1 htaken m hm (decide_eq_true (Prod.mk.inj heq))
    exact { h with toKeyed := hkeyed, memberships := Keyed.nodup_push h.memberships hnew }
  case reactions =>
    have hnew : ∀ s ∈ db.reactions.toList, (s.messageId, s.userId, s.emoji) ≠ (r.messageId, r.userId, r.emoji) := by
      intro s hs heq
      refine List.any_eq_false.1 htaken s hs (decide_eq_true ?_)
      simpa only [Prod.mk.injEq] using heq
    exact { h with toKeyed := hkeyed, reactions := Keyed.nodup_push h.reactions hnew }
  case history =>
    have hnew : ∀ k ∈ db.history.toList, k.id ≠ r.id := fun k hk heq =>
      List.any_eq_false.1 htaken k hk (decide_eq_true heq)
    exact { h with toKeyed := hkeyed, history := Keyed.nodup_push h.history hnew }
  case saved =>
    have hnew : ∀ s ∈ db.saved.toList, s.id ≠ r.id := fun s hs heq =>
      List.any_eq_false.1 htaken s hs (decide_eq_true heq)
    exact { h with toKeyed := hkeyed, saved := Keyed.nodup_push h.saved hnew }
  all_goals exact { h with toKeyed := hkeyed }

/-- Only the rows themselves matter, not their numbers. -/
private theorem FullyKeyed.renumberLast (h : FullyKeyed db) (n : Int) (t : Table) :
    FullyKeyed (db.alter (·.renumberLast n) t) := by
  have hkeyed := h.toKeyed.renumberLast n t
  cases t with
  | memberships =>
    exact { h with
      toKeyed := hkeyed
      memberships := by simpa only [alter, Rows.toList_renumberLast] using h.memberships }
  | reactions =>
    exact { h with
      toKeyed := hkeyed
      reactions := by simpa only [alter, Rows.toList_renumberLast] using h.reactions }
  | history =>
    exact { h with
      toKeyed := hkeyed
      history := by simpa only [alter, Rows.toList_renumberLast] using h.history }
  | saved =>
    exact { h with
      toKeyed := hkeyed
      saved := by simpa only [alter, Rows.toList_renumberLast] using h.saved }
  | _ => exact { h with toKeyed := hkeyed }

private theorem FullyKeyed.insert (h : FullyKeyed db) {now : Scalar} {table : String} {row : Cells}
    (hinsert : db.insert now table row = .ok db') : FullyKeyed db' := by
  obtain ⟨cells, t, next, hnext, rfl | ⟨n, rfl⟩⟩ := insert_eq_ok hinsert
  · exact h.insertCells hnext
  · exact (h.insertCells hnext).renumberLast n t

private theorem Intact.insert (h : Intact db) {now : Scalar} {table : String} {row : Cells}
    (hinsert : db.insert now table row = .ok db') : Intact db' := by
  refine ⟨h.keys.insert hinsert, ?_⟩
  obtain ⟨e, rfl, he⟩ := insert_eq_add hinsert
  exact h.references.add he

end Database

/-! ### Edits -/

namespace OpenedDatabase

/-- What is done to the rows of a database from outside: one is inserted, or some are deleted, by the value of a column or
by any condition on their cells. -/
inductive Edit where
  | insert (now : Scalar) (table : String) (row : Cells)
  | delete (table column : String) (value : Cell)
  | deleteWhere (t : Table) (p : Cells → Bool)

/-- The answer to an edit and what it leaves behind; an edit that is refused leaves everything as it was. -/
def edit (d : OpenedDatabase) : Edit → Except DatabaseFault Unit × OpenedDatabase
  | .insert now table row =>
    match d.insert now table row with
    | .ok d' => (.ok (), d')
    | .error fault => (.error fault, d)
  | .delete table column value =>
    match d.delete table column value with
    | .ok (_, d') => (.ok (), d')
    | .error fault => (.error fault, d)
  | .deleteWhere t p => (.ok (), { d with data := d.data.deleteCells p t })

/-- What some edits leave behind, one after the other. -/
def edits (d : OpenedDatabase) (es : List Edit) : OpenedDatabase := es.foldl (fun d e => (d.edit e).2) d

variable {d d' : OpenedDatabase}

theorem edit_refused {e : Edit} {fault : DatabaseFault} (h : (d.edit e).1 = .error fault) : (d.edit e).2 = d := by
  cases e with
  | insert now table row =>
    rw [edit] at h ⊢
    split at h
    · cases h
    · rfl
  | delete table column value =>
    rw [edit] at h ⊢
    split at h
    · cases h
    · rfl
  | deleteWhere t p => cases h

/-- An insertion goes into the table of versions or into one of the others. -/
theorem data_insert {now : Scalar} {table : String} {row : Cells} (h : d.insert now table row = .ok d') :
    d'.data = d.data ∨ d.data.insert now table row = .ok d'.data := by
  rw [OpenedDatabase.insert] at h
  split at h
  · obtain ⟨schema, -, hd'⟩ := Outcome.bind_eq_ok.1 h
    obtain rfl := Except.ok.inj hd'
    exact .inl rfl
  · obtain ⟨data, hdata, hd'⟩ := Outcome.bind_eq_ok.1 h
    obtain rfl := Except.ok.inj hd'
    exact .inr hdata

/-- A deletion takes rows out of the table of versions or out of one of the others. -/
private theorem data_delete {table column : String} {value : Cell} {n : Nat}
    (h : d.delete table column value = .ok (n, d')) : d'.data = d.data ∨ ∃ t p, d'.data = d.data.deleteCells p t := by
  rw [OpenedDatabase.delete] at h
  split at h
  · obtain ⟨name, -, hd'⟩ := Outcome.bind_eq_ok.1 h
    obtain ⟨-, rfl⟩ := Prod.mk.inj (Except.ok.inj hd')
    exact .inl rfl
  · obtain ⟨⟨m, data⟩, hdata, hd'⟩ := Outcome.bind_eq_ok.1 h
    obtain ⟨-, rfl⟩ := Prod.mk.inj (Except.ok.inj hd')
    obtain ⟨t, -, hdata⟩ := Outcome.bind_eq_ok.1 hdata
    obtain ⟨name, -, hdata⟩ := Outcome.bind_eq_ok.1 hdata
    obtain ⟨-, rfl⟩ := Prod.mk.inj (Except.ok.inj hdata)
    exact .inr ⟨t, _, rfl⟩

/-- One edit leaves an intact database intact. -/
private theorem intact_edit (h : d.data.Intact) (e : Edit) : (d.edit e).2.data.Intact := by
  cases e with
  | insert now table row =>
    rw [edit]
    split
    · next d' hinsert =>
      rcases data_insert hinsert with hdata | hdata
      · exact hdata ▸ h
      · exact h.insert hdata
    · exact h
  | delete table column value =>
    rw [edit]
    split
    · next n d' hdelete =>
      rcases data_delete hdelete with hdata | ⟨t, p, hdata⟩
      · exact hdata ▸ h
      · exact hdata ▸ h.deleteCells p t
    · exact h
  | deleteWhere t p => exact h.deleteCells p t

/-- Edits leave an intact database intact, however many and in whatever order. -/
theorem intact_edits (h : d.data.Intact) (es : List Edit) : (d.edits es).data.Intact := by
  induction es generalizing d with
  | nil => exact h
  | cons e es ih => exact ih (intact_edit h e)

end OpenedDatabase

end WorkspaceSearch
