import Mathlib.Data.List.Nodup
import WorkspaceSearch.Proofs.Database.Saved

/-!
# Saved searches as a list

A table in which every row is the row of a saved search is a list of saved searches (`Database.Shelves`).  What is
looked up in it is found in the list, and each of the three writes to the table is a change of the list.
-/

namespace WorkspaceSearch

theorem Uuid.render_injective : Function.Injective Uuid.render := fun u v h => by
  have hread := Uuid.ofText?_render u
  rw [h, Uuid.ofText?_render] at hread
  exact (Option.some.inj hread).symm

namespace Database

open SavedSearch (toStored)

/-- The rows of the table are those of some saved searches, in order. -/
def Shelves (db : Database) (shelf : List SavedSearch) : Prop := db.saved.toList = shelf.map toStored

/-- What stands in the place of a saved search after another one has been written. -/
def replaced (new old : SavedSearch) : SavedSearch := if old.id = new.id then new else old

theorem id_replaced (new old : SavedSearch) : (replaced new old).id = old.id := by
  unfold replaced
  split
  · next h => exact h.symm
  · rfl

theorem find?_id_iff {shelf : List SavedSearch} (hnodup : (shelf.map (·.id)).Nodup) {id : Uuid} {s : SavedSearch} :
    shelf.find? (·.id = id) = some s ↔ s ∈ shelf ∧ s.id = id := by
  constructor
  · intro hfound
    exact ⟨List.mem_of_find?_eq_some hfound, by simpa using List.find?_some hfound⟩
  · rintro ⟨hs, rfl⟩
    have hsome : (shelf.find? (·.id = s.id)).isSome = true := List.find?_isSome.2 ⟨s, hs, by simp⟩
    obtain ⟨t, ht⟩ := Option.isSome_iff_exists.1 hsome
    have hid : t.id = s.id := by simpa using List.find?_some ht
    rw [ht, List.inj_on_of_nodup_map hnodup (List.mem_of_find?_eq_some ht) hs hid]

theorem find?_map_replaced (new : SavedSearch) (shelf : List SavedSearch) (id : Uuid) :
    (shelf.map (replaced new)).find? (·.id = id) = (shelf.find? (·.id = id)).map (replaced new) := by
  rw [List.find?_map]
  simp only [Function.comp_def, id_replaced]

theorem find?_filter_ne (shelf : List SavedSearch) (gone id : Uuid) :
    (shelf.filter (·.id ≠ gone)).find? (·.id = id) = if gone = id then none else shelf.find? (·.id = id) := by
  rw [List.find?_filter]
  split
  · next h =>
    subst h
    simp
  · next h =>
    congr 1
    funext s
    grind

namespace Shelves

variable {db : Database} {shelf : List SavedSearch} (h : db.Shelves shelf)

include h

/-! ### Looking up -/

private theorem savedRow?_eq (id : Uuid) : db.savedRow? id = (shelf.find? (·.id = id)).map toStored := by
  have hid : ∀ s : SavedSearch, (s.toStored.id = id.render) = (s.id = id) := fun s =>
    propext Uuid.render_injective.eq_iff
  rw [savedRow?, h, List.find?_map]
  simp only [Function.comp_def, hid]

theorem savedRow?_eq_none {id : Uuid} : db.savedRow? id = none ↔ id ∉ shelf.map (·.id) := by
  simp [h.savedRow?_eq]

private theorem getSavedSearch_eq (id : Uuid) : db.getSavedSearch id = .ok (shelf.find? (·.id = id)) := by
  have hrow := h.savedRow?_eq id
  cases hfound : shelf.find? (·.id = id) with
  | none =>
    rw [hfound] at hrow
    exact getSavedSearch_eq_none.2 hrow
  | some s =>
    rw [hfound] at hrow
    exact getSavedSearch_eq_some.2 ⟨_, hrow, s.ofRow_toStored⟩

theorem getSavedSearch_iff (hnodup : (shelf.map (·.id)).Nodup) {id : Uuid} {s : SavedSearch} :
    db.getSavedSearch id = .ok (some s) ↔ s ∈ shelf ∧ s.id = id := by
  rw [h.getSavedSearch_eq, Except.ok.injEq, find?_id_iff hnodup]

private theorem savedOf_eq (userId : String) : db.savedOf userId = (shelf.filter (·.userId = userId)).map toStored := by
  rw [savedOf, h, List.filter_map]
  rfl

/-- The saved searches of a user are listed, each of them once. -/
theorem exists_listSavedSearches (userId : String) :
    ∃ found, db.listSavedSearches userId = .ok found ∧ found.Perm (shelf.filter (·.userId = userId)) :=
  Database.exists_listSavedSearches (h.savedOf_eq userId ▸ SavedSearch.mapM_ofRow_toStored _)

/-! ### Writing -/

theorem pushSaved (s : SavedSearch) : (db.pushSaved s).Shelves (shelf ++ [s]) := by
  rw [Shelves, toList_pushSaved, h, List.map_append]
  rfl

theorem eraseSaved (id : Uuid) : (db.eraseSaved id).Shelves (shelf.filter (·.id ≠ id)) := by
  have hid : ∀ s : SavedSearch, (s.toStored.id ≠ id.render) = (s.id ≠ id) := fun s =>
    propext Uuid.render_injective.ne_iff
  rw [Shelves, toList_eraseSaved, h, List.filter_map]
  simp only [Function.comp_def, hid]

/-- A saved search is written over the one with its identifier, if that has the same origin. -/
theorem updateSavedSearch {new : SavedSearch} (horigin : ∀ old ∈ shelf, old.id = new.id →
    old.userId = new.userId ∧ old.createdAt = new.createdAt) :
    (db.updateSavedSearch new).Shelves (shelf.map (replaced new)) := by
  rw [Shelves, toList_updateSavedSearch, h, List.map_map, List.map_map]
  refine List.map_congr_left fun old hold => ?_
  simp only [Function.comp_def, replaced, overwrite]
  by_cases hid : old.id = new.id
  · obtain ⟨huser, hcreated⟩ := horigin old hold hid
    have hrow : old.toStored.id = new.id.render := congrArg Uuid.render hid
    rw [if_pos hrow, if_pos hid]
    simp only [toStored, huser, hcreated]
  · have hrow : old.toStored.id ≠ new.id.render := fun heq => hid (Uuid.render_injective heq)
    rw [if_neg hrow, if_neg hid]

end Shelves

end Database

end WorkspaceSearch
