import Mathlib.Data.List.Nodup
import WorkspaceSearch.Database.Answer
import WorkspaceSearch.Proofs.Database.Keys
import WorkspaceSearch.Proofs.SavedSearch.Stored

/-!
# The table of saved searches

What the three writes to the table do to it: a saved search that is inserted, written over or deleted is there, is
changed or is gone, and everything beside it stays (`SameBeside`).  No write gives two rows the same identifier or
leaves a row that cannot be read, if there was none (`SavedKeyed`, `SavedReadable`).
-/

namespace WorkspaceSearch.Database

/-- No two saved searches have the same identifier. -/
def SavedKeyed (db : Database) : Prop := (db.saved.toList.map (·.id)).Nodup

/-- Every saved search can be read. -/
def SavedReadable (db : Database) : Prop := ∀ row ∈ db.saved.toList, ∃ s, SavedSearch.ofRow row = .ok s

/-- The rows of the saved searches of a user. -/
def savedOf (db : Database) (userId : String) : List Stored.Saved := db.saved.toList.filter (·.userId = userId)

/-- The row of the saved search with an identifier. -/
def savedRow? (db : Database) (id : Uuid) : Option Stored.Saved := db.saved.toList.find? (·.id = id.render)

/-- A saved search is stored and belongs to a user. -/
def Owned (db : Database) (id : Uuid) (userId : String) (s : SavedSearch) : Prop :=
  db.getSavedSearch id = .ok (some s) ∧ s.userId = userId

/-- Two databases are the same but for the saved search with an identifier. -/
structure SameBeside (id : Uuid) (db db' : Database) : Prop where
  others : db'.saved.toList.filter (·.id ≠ id.render) = db.saved.toList.filter (·.id ≠ id.render)
  elsewhere : { db' with saved := db.saved } = db

/-- Every saved search that is in both databases has the same owner and time of creation in both. -/
def SameOrigins (db db' : Database) : Prop :=
  ∀ row ∈ db.saved.toList, ∀ row' ∈ db'.saved.toList, row'.id = row.id →
    row'.userId = row.userId ∧ row'.createdAt = row.createdAt

/-! ### Looking up -/

section

variable {db : Database} {id : Uuid} {userId : String} {s : SavedSearch} {row : Stored.Saved}

private theorem savedRow?_eq_none : db.savedRow? id = none ↔ ∀ row ∈ db.saved.toList, row.id ≠ id.render := by
  simp [savedRow?]

theorem getSavedSearch_eq_none : db.getSavedSearch id = .ok none ↔ db.savedRow? id = none := by
  unfold getSavedSearch
  rw [savedRow?]
  cases db.saved.toList.find? fun row => row.id = id.render with
  | none => exact iff_of_true rfl rfl
  | some row =>
    refine iff_of_false (fun h => ?_) nofun
    obtain ⟨scalars, -, h⟩ := Outcome.bind_eq_ok.1 h
    obtain ⟨s, -, h⟩ := Outcome.bind_eq_ok.1 h
    cases h

theorem getSavedSearch_eq_some :
    db.getSavedSearch id = .ok (some s) ↔ ∃ row, db.savedRow? id = some row ∧ SavedSearch.ofRow row = .ok s := by
  unfold getSavedSearch
  rw [savedRow?]
  cases db.saved.toList.find? fun row => row.id = id.render with
  | none => exact iff_of_false nofun (by rintro ⟨row, h, -⟩; cases h)
  | some row =>
    constructor
    · intro h
      obtain ⟨scalars, hscalars, h⟩ := Outcome.bind_eq_ok.1 h
      obtain ⟨s', hs, h⟩ := Outcome.bind_eq_ok.1 h
      obtain rfl := Option.some.inj (Except.ok.inj h)
      exact ⟨row, rfl, Outcome.bind_eq_ok.2 ⟨scalars, hscalars, hs⟩⟩
    · rintro ⟨row', hrow, h⟩
      obtain rfl := Option.some.inj hrow
      obtain ⟨scalars, hscalars, hs⟩ := Outcome.bind_eq_ok.1 h
      simp only [hscalars, hs, Outcome.ok_bind]
      rfl

private theorem SavedKeyed.eq_of_id (h : db.SavedKeyed) {row' : Stored.Saved} (hrow : row ∈ db.saved.toList)
    (hrow' : row' ∈ db.saved.toList) (hid : row.id = row'.id) : row = row' :=
  List.inj_on_of_nodup_map h hrow hrow' hid

theorem Owned.exists_row (h : db.Owned id userId s) :
    ∃ row, db.savedRow? id = some row ∧ row ∈ db.saved.toList ∧ row.id = id.render ∧ row.userId = userId ∧
      SavedSearch.ofRow row = .ok s := by
  obtain ⟨row, hrow, hs⟩ := getSavedSearch_eq_some.1 h.1
  obtain ⟨-, huser, -⟩ := SavedSearch.ofRow_eq_ok hs
  exact ⟨row, hrow, List.mem_of_find?_eq_some hrow, by simpa using List.find?_some hrow, huser ▸ h.2, hs⟩

theorem Owned.id_eq (h : db.Owned id userId s) : s.id = id := by
  obtain ⟨row, -, -, hid, -, hs⟩ := h.exists_row
  obtain ⟨hread, -, -⟩ := SavedSearch.ofRow_eq_ok hs
  rw [hid, Uuid.ofText?_render] at hread
  exact (Option.some.inj hread).symm

/-- The owner of a saved search is the user in its row. -/
private theorem Owned.userId_eq (h : db.Owned id userId s) (hkeyed : db.SavedKeyed) (hrow : row ∈ db.saved.toList)
    (hid : row.id = id.render) : row.userId = userId := by
  obtain ⟨row', -, hrow', hid', huser, -⟩ := h.exists_row
  rw [hkeyed.eq_of_id hrow hrow' (hid.trans hid'.symm), huser]

end

section

variable {db : Database} {userId : String}

theorem mem_savedOf {row : Stored.Saved} : row ∈ db.savedOf userId ↔ row ∈ db.saved.toList ∧ row.userId = userId := by
  rw [savedOf, List.mem_filter, decide_eq_true_eq]

/-- The saved searches of a user are found when their rows can be read. -/
theorem exists_listSavedSearches {records : List SavedSearch}
    (h : (db.savedOf userId).mapM SavedSearch.ofRow = .ok records) :
    ∃ found, db.listSavedSearches userId = .ok found ∧ found.Perm records := by
  have hsort := (List.mergeSort_perm (db.savedOf userId) savedInOrder).symm
  obtain ⟨found, hfound, hperm⟩ := Outcome.exists_mapM_of_perm hsort h
  exact ⟨found, SavedSearch.ofRows_eq_ok.2 hfound, hperm⟩

end

/-- What stays beside a saved search of other users is all that a user has. -/
private theorem SameBeside.savedOf_eq {db db' : Database} {id : Uuid} {userId : String} (h : SameBeside id db db')
    (hdb : ∀ row ∈ db.saved.toList, row.id = id.render → row.userId ≠ userId)
    (hdb' : ∀ row ∈ db'.saved.toList, row.id = id.render → row.userId ≠ userId) :
    db'.savedOf userId = db.savedOf userId := by
  have hbeside : ∀ rows : List Stored.Saved, (∀ row ∈ rows, row.id = id.render → row.userId ≠ userId) →
      rows.filter (·.userId = userId) = (rows.filter (·.id ≠ id.render)).filter (·.userId = userId) := by
    intro rows hrows
    rw [List.filter_filter]
    refine List.filter_congr fun row hrow => ?_
    have := hrows row hrow
    grind
  rw [savedOf, savedOf, hbeside _ hdb, hbeside _ hdb', h.others]

theorem SameOrigins.refl {db : Database} (hkeyed : db.SavedKeyed) : SameOrigins db db := by
  intro row hrow row' hrow' hid
  rw [hkeyed.eq_of_id hrow' hrow hid]
  exact ⟨rfl, rfl⟩

/-! ### Inserting -/

section

variable {db : Database} {s : SavedSearch}

/-- The database after a saved search has been put into the table. -/
def pushSaved (db : Database) (s : SavedSearch) : Database := { db with saved := db.saved.push s.toStored }

theorem answer_insertSavedSearch (db : Database) (s : SavedSearch) :
    answer (.insertSavedSearch s) db =
      if db.savedRow? s.id = none then (.ok (), db.pushSaved s) else (.error (.database .duplicateKey), db) := by
  have htaken : (db.saved.any fun t => t.id = s.toStored.id) = false ↔ db.savedRow? s.id = none := by
    rw [savedRow?_eq_none, Rows.any, List.any_eq_false]
    simp only [decide_eq_true_eq]
    rfl
  simp only [answer, insertSaved, guarded, ← htaken]
  cases db.saved.any fun t => t.id = s.toStored.id <;> rfl

theorem toList_pushSaved : (db.pushSaved s).saved.toList = db.saved.toList ++ [s.toStored] := Rows.toList_push _ _

theorem sameBeside_pushSaved (db : Database) (s : SavedSearch) : SameBeside s.id db (db.pushSaved s) := by
  refine ⟨?_, rfl⟩
  rw [toList_pushSaved, List.filter_append]
  simp [SavedSearch.toStored]

theorem savedReadable_pushSaved (h : db.SavedReadable) : (db.pushSaved s).SavedReadable := by
  intro row hrow
  rw [toList_pushSaved, List.mem_append, List.mem_singleton] at hrow
  rcases hrow with hrow | rfl
  · exact h row hrow
  · exact ⟨s, s.ofRow_toStored⟩

theorem savedOf_pushSaved (db : Database) {userId : String} (huser : s.userId ≠ userId) :
    (db.pushSaved s).savedOf userId = db.savedOf userId := by
  rw [savedOf, toList_pushSaved, List.filter_append]
  simp [savedOf, SavedSearch.toStored, huser]

variable (hnew : db.savedRow? s.id = none)

include hnew

theorem getSavedSearch_pushSaved : (db.pushSaved s).getSavedSearch s.id = .ok (some s) := by
  refine getSavedSearch_eq_some.2 ⟨s.toStored, ?_, s.ofRow_toStored⟩
  have hself : s.toStored.id = s.id.render := rfl
  rw [savedRow?] at hnew
  rw [savedRow?, toList_pushSaved, List.find?_append, hnew]
  simp [hself]

theorem savedKeyed_pushSaved (hkeyed : db.SavedKeyed) : (db.pushSaved s).SavedKeyed :=
  Keyed.nodup_push hkeyed (savedRow?_eq_none.1 hnew)

theorem sameOrigins_pushSaved (hkeyed : db.SavedKeyed) : SameOrigins db (db.pushSaved s) := by
  intro row hrow row' hrow' hid
  rw [toList_pushSaved, List.mem_append, List.mem_singleton] at hrow'
  rcases hrow' with hrow' | rfl
  · exact SameOrigins.refl hkeyed row hrow row' hrow' hid
  · exact absurd hid.symm (savedRow?_eq_none.1 hnew row hrow)

end

/-! ### Writing over -/

section

variable {db : Database} {old new : SavedSearch} {id : Uuid} {userId : String}

/-- A row after a saved search has been written over the row with its identifier. -/
def overwrite (s : SavedSearch) (row : Stored.Saved) : Stored.Saved :=
  if row.id = s.id.render then { s.toStored with userId := row.userId, createdAt := row.createdAt } else row

theorem toList_updateSavedSearch (db : Database) (s : SavedSearch) :
    (db.updateSavedSearch s).saved.toList = db.saved.toList.map (overwrite s) :=
  Rows.toList_map _ _

private theorem overwrite_of_ne {s : SavedSearch} {row : Stored.Saved} (h : row.id ≠ s.id.render) :
    overwrite s row = row :=
  if_neg h

private theorem id_overwrite (s : SavedSearch) (row : Stored.Saved) : (overwrite s row).id = row.id := by
  unfold overwrite
  split
  · next h => exact h.symm
  · rfl

theorem origin_overwrite (s : SavedSearch) (row : Stored.Saved) :
    (overwrite s row).userId = row.userId ∧ (overwrite s row).createdAt = row.createdAt := by
  unfold overwrite
  split <;> exact ⟨rfl, rfl⟩

private theorem savedRow?_updateSavedSearch (db : Database) (s : SavedSearch) (id : Uuid) :
    (db.updateSavedSearch s).savedRow? id = (db.savedRow? id).map (overwrite s) := by
  rw [savedRow?, savedRow?, toList_updateSavedSearch, List.find?_map]
  simp only [Function.comp_def, id_overwrite]

theorem savedKeyed_updateSavedSearch (hkeyed : db.SavedKeyed) (s : SavedSearch) :
    (db.updateSavedSearch s).SavedKeyed := by
  unfold SavedKeyed at *
  rw [toList_updateSavedSearch, List.map_map]
  simpa only [Function.comp_def, id_overwrite] using hkeyed

theorem sameOrigins_updateSavedSearch (hkeyed : db.SavedKeyed) (s : SavedSearch) :
    SameOrigins db (db.updateSavedSearch s) := by
  intro row hrow row' hrow' hid
  rw [toList_updateSavedSearch] at hrow'
  obtain ⟨first, hfirst, rfl⟩ := List.mem_map.1 hrow'
  rw [id_overwrite] at hid
  obtain rfl := hkeyed.eq_of_id hfirst hrow hid
  exact origin_overwrite s first

theorem sameBeside_updateSavedSearch (db : Database) (s : SavedSearch) :
    SameBeside s.id db (db.updateSavedSearch s) := by
  refine ⟨?_, rfl⟩
  rw [toList_updateSavedSearch, List.filter_map]
  simp only [Function.comp_def, id_overwrite]
  refine (List.map_congr_left fun row hrow => ?_).trans (List.map_id _)
  exact overwrite_of_ne (by simpa using (List.mem_filter.1 hrow).2)

theorem savedOf_updateSavedSearch (hkeyed : db.SavedKeyed) (h : db.Owned id userId old) (hid : new.id = old.id)
    {other : String} (huser : userId ≠ other) : (db.updateSavedSearch new).savedOf other = db.savedOf other := by
  have hbeside := sameBeside_updateSavedSearch db new
  rw [hid, h.id_eq] at hbeside
  refine hbeside.savedOf_eq (fun row hrow hrowid => ?_) fun row hrow hrowid => ?_
  · rwa [h.userId_eq hkeyed hrow hrowid]
  · rw [toList_updateSavedSearch] at hrow
    obtain ⟨first, hfirst, rfl⟩ := List.mem_map.1 hrow
    rw [id_overwrite] at hrowid
    rwa [(origin_overwrite new first).1, h.userId_eq hkeyed hfirst hrowid]

/-- A saved search that is written over one of the same origin is stored as it is. -/
theorem getSavedSearch_updateSavedSearch (h : db.Owned id userId old) (hid : new.id = old.id)
    (huser : new.userId = old.userId) (hcreated : new.createdAt = old.createdAt) :
    (db.updateSavedSearch new).getSavedSearch id = .ok (some new) := by
  obtain ⟨row, hrow, -, hrowid, -, hold⟩ := h.exists_row
  obtain ⟨-, howner, hinstant⟩ := SavedSearch.ofRow_eq_ok hold
  refine getSavedSearch_eq_some.2 ⟨overwrite new row, ?_, ?_⟩
  · rw [savedRow?_updateSavedSearch, hrow, Option.map_some]
  · rw [overwrite, if_pos (by rw [hrowid, hid, h.id_eq]), new.ofRow_toStored_keeping row.userId hinstant, ← howner,
      ← huser, ← hcreated]

theorem savedReadable_updateSavedSearch (h : db.SavedReadable) (s : SavedSearch) :
    (db.updateSavedSearch s).SavedReadable := by
  intro row hrow
  rw [toList_updateSavedSearch] at hrow
  obtain ⟨first, hfirst, rfl⟩ := List.mem_map.1 hrow
  obtain ⟨s', hs'⟩ := h first hfirst
  unfold overwrite
  split
  · obtain ⟨-, -, hcreated⟩ := SavedSearch.ofRow_eq_ok hs'
    exact ⟨_, s.ofRow_toStored_keeping first.userId hcreated⟩
  · exact ⟨s', hs'⟩

end

/-! ### Deleting -/

section

/-- The database after the saved search with an identifier has been taken out of the table. -/
def eraseSaved (db : Database) (id : Uuid) : Database := db.deleteSaved fun s => s.row.id = id.render

variable (db : Database) (id : Uuid)

theorem toList_eraseSaved : (db.eraseSaved id).saved.toList = db.saved.toList.filter (·.id ≠ id.render) := by
  rw [eraseSaved, deleteSaved, Rows.toList_erase_row db.saved fun row => row.id = id.render]
  simp only [ne_eq, decide_not]

/-- A saved search that somebody owns is there to be deleted. -/
theorem answer_deleteSavedSearch {db : Database} {id : Uuid} {userId : String} {s : SavedSearch}
    (h : db.Owned id userId s) : answer (.deleteSavedSearch id) db = (.ok true, db.eraseSaved id) := by
  obtain ⟨row, -, hrow, hid, -⟩ := h.exists_row
  have hany : (db.saved.any fun row => row.id = id.render) = true :=
    List.any_eq_true.2 ⟨row, hrow, by simpa using hid⟩
  rw [answer, hany, eraseSaved]

theorem getSavedSearch_eraseSaved : (db.eraseSaved id).getSavedSearch id = .ok none := by
  rw [getSavedSearch_eq_none, savedRow?_eq_none, toList_eraseSaved]
  intro row hrow
  simpa using (List.mem_filter.1 hrow).2

theorem sameBeside_eraseSaved : SameBeside id db (db.eraseSaved id) := by
  refine ⟨?_, rfl⟩
  rw [toList_eraseSaved, List.filter_filter]
  simp only [Bool.and_self]

variable {db}

theorem savedKeyed_eraseSaved (hkeyed : db.SavedKeyed) : (db.eraseSaved id).SavedKeyed := by
  unfold SavedKeyed
  rw [toList_eraseSaved]
  exact hkeyed.sublist (List.filter_sublist.map _)

theorem savedReadable_eraseSaved (h : db.SavedReadable) : (db.eraseSaved id).SavedReadable := by
  intro row hrow
  rw [toList_eraseSaved] at hrow
  exact h row (List.mem_of_mem_filter hrow)

theorem sameOrigins_eraseSaved (hkeyed : db.SavedKeyed) : SameOrigins db (db.eraseSaved id) := by
  intro row hrow row' hrow' hid
  rw [toList_eraseSaved] at hrow'
  exact SameOrigins.refl hkeyed row hrow row' (List.mem_of_mem_filter hrow') hid

theorem savedOf_eraseSaved {id : Uuid} {userId : String} {s : SavedSearch} (hkeyed : db.SavedKeyed)
    (h : db.Owned id userId s) {other : String} (huser : userId ≠ other) :
    (db.eraseSaved id).savedOf other = db.savedOf other := by
  have howner : ∀ row ∈ db.saved.toList, row.id = id.render → row.userId ≠ other := by
    intro row hrow hid
    rwa [h.userId_eq hkeyed hrow hid]
  refine (sameBeside_eraseSaved db id).savedOf_eq howner fun row hrow => howner row ?_
  rw [toList_eraseSaved] at hrow
  exact List.mem_of_mem_filter hrow

end

end WorkspaceSearch.Database
