import Mathlib.Data.List.Nodup
import WorkspaceSearch.Database.Answer
import WorkspaceSearch.Proofs.SavedSearch.Stored

/-!
# The table of the history

What the two writes to the table do to the rows of each user (`Database.historyRows`), and that no other call writes to
it.  A row that has been written is read back (`HistoryEntry.ofRow_toStored`), and rows are listed in the order of the
texts of their times (`Database.listHistory_eq`).
-/

namespace WorkspaceSearch

namespace HistoryEntry

/-! ### Rows -/

/-- Reads a row. -/
def ofRow (row : Stored.History) : Except Error HistoryEntry :=
  ofColumn row.createdAt.instant? >>= ofStored row

/-- A row is read back. -/
theorem ofRow_toStored (e : HistoryEntry) : ofRow e.toStored = .ok e := by
  have hcreated : e.toStored.createdAt.instant? = some e.createdAt := instant?_toStored e.createdAt
  rw [ofRow, hcreated, ofColumn_some, Outcome.ok_bind]
  simp only [ofStored, toStored, Uuid.ofText?_render, Filters.ofStored_toStored, Scope.ofStored_name, Outcome.ok_bind]
  rfl

/-- Rows are read one by one, if all of them can be read. -/
private theorem ofRows_eq_ok {rows : List Stored.History} {es : List HistoryEntry} :
    ofRows rows = .ok es ↔ rows.mapM ofRow = .ok es :=
  Outcome.mapM_twice_eq_ok (g := fun p => ofStored p.1 p.2)

/-- Rows are read back. -/
private theorem ofRows_toStored (es : List HistoryEntry) : ofRows (es.map toStored) = .ok es :=
  ofRows_eq_ok.2 ((Outcome.mapM_map_eq_ok fun e _ => ofRow_toStored e).trans (congrArg Except.ok (List.map_id es)))

/-! ### Order -/

/-- The text of the time of one entry is not before that of another. -/
def inOrder (a b : HistoryEntry) : Bool := b.createdAt.toStored ≤ a.createdAt.toStored

theorem inOrder_total (a b : HistoryEntry) : (inOrder a b || inOrder b a) = true := by
  simpa [inOrder] using String.le_total b.createdAt.toStored a.createdAt.toStored

theorem inOrder_trans (a b c : HistoryEntry) (h : inOrder a b = true) (h' : inOrder b c = true) :
    inOrder a c = true := by
  simp only [inOrder, decide_eq_true_eq] at *
  exact String.le_trans h' h

/-- Entries that have been written one after the other are put in the opposite order. -/
theorem mergeSort_inOrder {es xs : List HistoryEntry} (hperm : es.Perm xs)
    (h : xs.Pairwise fun a b => a.createdAt.toStored < b.createdAt.toStored) : es.mergeSort inOrder = xs.reverse := by
  have hsorted : xs.reverse.Pairwise (inOrder · · = true) := by
    refine List.pairwise_reverse.2 (h.imp fun hlt => ?_)
    exact decide_eq_true (String.not_lt.1 (String.lt_asymm hlt))
  have hnodup : (xs.map (·.createdAt.toStored)).Nodup := by
    refine List.pairwise_map.2 (h.imp fun hlt heq => ?_)
    rw [heq] at hlt
    exact String.lt_irrefl _ hlt
  refine ((List.mergeSort_perm es inOrder).trans (hperm.trans xs.reverse_perm.symm)).eq_of_pairwise
    (fun a b ha hb hab hba => ?_) (List.pairwise_mergeSort inOrder_trans inOrder_total es) hsorted
  simp only [inOrder, decide_eq_true_eq] at hab hba
  exact List.inj_on_of_nodup_map hnodup (hperm.mem_iff.1 (List.mem_mergeSort.1 ha)) (List.mem_reverse.1 hb)
    (String.le_antisymm hba hab)

end HistoryEntry

/-- A call that does not write to the history. -/
def Call.SparesHistory : Call → Prop
  | .recordSearch _ | .clearHistory _ => False
  | _ => True

namespace Database

/-- The rows of a user's history, in the order in which they were written. -/
def historyRows (db : Database) (userId : String) : List Stored.History :=
  db.history.toList.filter (·.userId = userId)

/-! ### Recording -/

/-- The database after a search has been recorded. -/
def pushHistory (db : Database) (e : HistoryEntry) : Database := { db with history := db.history.push e.toStored }

variable {db : Database} {e : HistoryEntry} {userId : String}

theorem answer_recordSearch (h : ∀ row ∈ db.history.toList, row.id ≠ e.id.render) :
    answer (.recordSearch e) db = (.ok (), db.pushHistory e) := by
  have hfree : (db.history.any fun row => row.id = e.toStored.id) = false := by
    rw [Rows.any, List.any_eq_false]
    intro row hrow
    have hother : row.id ≠ e.toStored.id := h row hrow
    simpa using hother
  simp only [answer, insertHistory, hfree]
  rfl

theorem toList_pushHistory : (db.pushHistory e).history.toList = db.history.toList ++ [e.toStored] :=
  Rows.toList_push _ _

theorem historyRows_pushHistory :
    (db.pushHistory e).historyRows userId =
      db.historyRows userId ++ if e.userId = userId then [e.toStored] else [] := by
  have huser : e.toStored.userId = e.userId := rfl
  rw [historyRows, toList_pushHistory, List.filter_append, List.filter_singleton, huser]
  simp [historyRows]

/-! ### Clearing -/

/-- The database after the history of a user has been removed. -/
def eraseHistory (db : Database) (userId : String) : Database := db.deleteHistory fun row => row.row.userId = userId

theorem answer_clearHistory (db : Database) (userId : String) :
    answer (.clearHistory userId) db = (.ok (db.historyRows userId).length, db.eraseHistory userId) := by
  rw [answer, historyRows, ← List.countP_eq_length_filter]
  rfl

theorem toList_eraseHistory (db : Database) (userId : String) :
    (db.eraseHistory userId).history.toList = db.history.toList.filter (·.userId ≠ userId) := by
  have hrows : (db.eraseHistory userId).history.toList =
      db.history.toList.filter fun row => !decide (row.userId = userId) :=
    Rows.toList_erase_row db.history fun row => row.userId = userId
  rw [hrows]
  exact List.filter_congr fun row _ => (decide_not (p := row.userId = userId)).symm

theorem historyRows_eraseHistory (db : Database) (userId other : String) :
    (db.eraseHistory userId).historyRows other = if userId = other then [] else db.historyRows other := by
  rw [historyRows, toList_eraseHistory, List.filter_filter]
  split
  · next h =>
    subst h
    simp
  · next h =>
    refine List.filter_congr fun row _ => ?_
    grind

/-! ### Other calls -/

theorem history_answer {c : Call} (h : c.SparesHistory) (db : Database) : (answer c db).2.history = db.history := by
  cases c with
  | recordSearch e => cases h
  | clearHistory userId => cases h
  | insertSavedSearch s =>
    rw [answer, insertSaved, guarded]
    split <;> rfl
  | _ => rfl

/-! ### Listing -/

theorem historyOf_eq (db : Database) (userId : String) :
    db.historyOf userId = (db.historyRows userId).reverse.mergeSort fun a b => b.createdAt.le a.createdAt :=
  rfl

/-- Entries are listed in the order of the texts of their times, the greatest text in front. -/
theorem listHistory_eq {es : List HistoryEntry} (h : db.historyRows userId = es.map HistoryEntry.toStored)
    (limit : Nat) : db.listHistory userId limit = .ok ((es.reverse.mergeSort HistoryEntry.inOrder).take limit) := by
  have hsort : (es.reverse.mergeSort HistoryEntry.inOrder).map HistoryEntry.toStored = db.historyOf userId := by
    rw [List.map_mergeSort (r := HistoryEntry.inOrder) (s := fun a b => b.createdAt.le a.createdAt)
      (f := HistoryEntry.toStored) fun _ _ _ _ => rfl, List.map_reverse, ← h, historyOf_eq]
  rw [listHistory, ← hsort, ← List.map_take, HistoryEntry.ofRows_toStored]

private theorem historyOf_perm (db : Database) (userId : String) : (db.historyOf userId).Perm (db.historyRows userId) :=
  (List.mergeSort_perm _ _).trans (List.reverse_perm _)

/-- After a search has been recorded it is listed, with all that was listed before, if there is room. -/
theorem exists_listHistory_pushHistory {limit : Nat} {before : List HistoryEntry}
    (h : db.listHistory e.userId limit = .ok before) (hroom : before.length < limit) :
    ∃ found : List HistoryEntry, found.Perm (before ++ [e]) ∧
      ∀ n, (db.pushHistory e).listHistory e.userId n = .ok (found.take n) := by
  have hbefore := HistoryEntry.ofRows_eq_ok.1 h
  have hlength := Outcome.length_of_mapM hbefore
  rw [List.length_take] at hlength
  rw [List.take_of_length_le (by omega)] at hbefore
  obtain ⟨es, hes, hperm⟩ := Outcome.exists_mapM_of_perm (db.historyOf_perm e.userId) hbefore
  have hrows : ((db.pushHistory e).historyRows e.userId).mapM HistoryEntry.ofRow = .ok (es ++ [e]) := by
    rw [historyRows_pushHistory, if_pos rfl, List.mapM_append, hes, Outcome.ok_bind, List.mapM_cons,
      HistoryEntry.ofRow_toStored]
    rfl
  obtain ⟨found, hfound, hsorted⟩ :=
    Outcome.exists_mapM_of_perm ((db.pushHistory e).historyOf_perm e.userId).symm hrows
  refine ⟨found, hsorted.trans (hperm.append_right [e]), fun n => ?_⟩
  rw [listHistory, HistoryEntry.ofRows_eq_ok]
  exact Outcome.mapM_take hfound n

end Database

end WorkspaceSearch
