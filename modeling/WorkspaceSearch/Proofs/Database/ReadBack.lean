import WorkspaceSearch.Proofs.Database.History
import WorkspaceSearch.Proofs.Database.Saved

/-!
# What is stored is what is read back

A saved search that is inserted, or written over one of the same origin, is read back as it is (`Database.Saves`), and
so is a search that has been recorded (`Database.Records`).  Nothing restricts their texts, their filters and their
times.
-/

namespace WorkspaceSearch.Database

/-- A write of a saved search succeeds, and it is read back; everything beside it stays. -/
structure Saves (write : Except Error Unit × Database) (db : Database) (s : SavedSearch) : Prop where
  succeeds : write.1 = .ok ()
  readBack : answer (.getSavedSearch s.id) write.2 = (.ok (some s), write.2)
  beside : SameBeside s.id db write.2

/-- A write of a history entry succeeds, and it is listed with all that was listed before; everything else stays. -/
structure Records (write : Except Error Unit × Database) (db : Database) (e : HistoryEntry) : Prop where
  succeeds : write.1 = .ok ()
  listed : ∀ limit before, answer (.listHistory e.userId limit) db = (.ok before, db) → before.length < limit →
    ∃ found : List HistoryEntry, found.Perm (before ++ [e]) ∧
      ∀ n, answer (.listHistory e.userId n) write.2 = (.ok (found.take n), write.2)
  others : ∀ userId, userId ≠ e.userId → ∀ n, write.2.listHistory userId n = db.listHistory userId n
  elsewhere : { write.2 with history := db.history } = db

variable {db : Database}

private theorem saves_insert {s : SavedSearch} (h : db.getSavedSearch s.id = .ok none) :
    Saves (answer (.insertSavedSearch s) db) db s := by
  have hnew := getSavedSearch_eq_none.1 h
  rw [answer_insertSavedSearch, if_pos hnew]
  constructor
  case succeeds => rfl
  case readBack => rw [answer, getSavedSearch_pushSaved hnew]
  case beside => exact sameBeside_pushSaved db s

private theorem saves_update {old new : SavedSearch} (h : db.getSavedSearch new.id = .ok (some old))
    (huser : new.userId = old.userId) (hcreated : new.createdAt = old.createdAt) :
    Saves (answer (.updateSavedSearch new) db) db new := by
  have howned : db.Owned new.id old.userId old := ⟨h, rfl⟩
  constructor
  case succeeds => rfl
  case readBack =>
    have hread := getSavedSearch_updateSavedSearch howned howned.id_eq.symm huser hcreated
    simp only [answer, hread]
  case beside => exact sameBeside_updateSavedSearch db new

private theorem records_record {e : HistoryEntry} (h : ∀ row ∈ db.history.toList, row.id ≠ e.id.render) :
    Records (answer (.recordSearch e) db) db e := by
  rw [answer_recordSearch h]
  constructor
  case succeeds => rfl
  case listed =>
    intro limit before hbefore hroom
    obtain ⟨found, hperm, hfound⟩ := exists_listHistory_pushHistory (Prod.mk.inj hbefore).1 hroom
    refine ⟨found, hperm, fun n => ?_⟩
    rw [answer, hfound]
  case others =>
    intro userId huser n
    have hrows : (db.pushHistory e).historyRows userId = db.historyRows userId := by
      rw [historyRows_pushHistory, if_neg huser.symm, List.append_nil]
    rw [listHistory, listHistory, historyOf_eq, historyOf_eq, hrows]
  case elsewhere => rfl

/-- What is stored is what is read back: saved searches that are inserted and then written over, and searches that are
recorded. -/
theorem read_back (db : Database) :
    (∀ s : SavedSearch, db.getSavedSearch s.id = .ok none → Saves (answer (.insertSavedSearch s) db) db s) ∧
    (∀ old new : SavedSearch, db.getSavedSearch new.id = .ok (some old) → new.userId = old.userId →
      new.createdAt = old.createdAt → Saves (answer (.updateSavedSearch new) db) db new) ∧
    ∀ e : HistoryEntry, (∀ row ∈ db.history.toList, row.id ≠ e.id.render) →
      Records (answer (.recordSearch e) db) db e :=
  ⟨fun _ => saves_insert, fun _ _ => saves_update, fun _ => records_record⟩

private def report : SavedSearch :=
  SavedSearch.ofRequest { userId := "ann", name := "reports", query := "\"annual report\"" } default .epoch

private def used : SavedSearch := { report with name := "annual", usageCount := 1, lastUsedAt := some .epoch }

private def entry : HistoryEntry :=
  { id := default, userId := "ann", query := "report", filters := {}, scope := .all, createdAt := .epoch }

/-- Something is inserted into an empty database, written over, and recorded. -/
theorem read_back_empty :
    Saves (answer (.insertSavedSearch report) {}) {} report ∧
      Saves (answer (.updateSavedSearch used) (answer (.insertSavedSearch report) {}).2)
        (answer (.insertSavedSearch report) {}).2 used ∧
      Records (answer (.recordSearch entry) {}) {} entry := by
  obtain ⟨hinsert, -, hrecord⟩ := read_back {}
  have hsaved := hinsert report rfl
  obtain ⟨-, hupdate, -⟩ := read_back (answer (.insertSavedSearch report) {}).2
  have hstored := (Prod.mk.inj hsaved.readBack).1
  exact ⟨hsaved, hupdate report used hstored rfl rfl, hrecord entry fun _ hrow => absurd hrow List.not_mem_nil⟩

end WorkspaceSearch.Database
