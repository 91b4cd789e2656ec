import WorkspaceSearch.Proofs.Database.History
import WorkspaceSearch.Proofs.Database.Shelf
import WorkspaceSearch.Proofs.FirstOccurrences
import WorkspaceSearch.Proofs.Text.Matching
import WorkspaceSearch.Proofs.Time.Order

/-!
# What was used last

The history of a database that starts with none is the list of entries that the calls made to it leave there
(`Database.remembers_after`).  Its rows are ordered by the texts of their times, and of the years 0 to 9999 these are in
the order of time (`Instant.toStored_lt_iff`); so history and recent queries come in the order of their use.
-/

namespace WorkspaceSearch

/-! ### Order -/

namespace Instant

/-- The year is written with four digits and no sign. -/
def HasFourDigitYear (t : Instant) : Prop := 0 ≤ t.date.year ∧ t.date.year ≤ 9999

instance (t : Instant) : Decidable t.HasFourDigitYear := inferInstanceAs (Decidable (_ ∧ _))

variable {t u : Instant}

theorem toStored_lt_iff (ht : t.HasFourDigitYear) (hu : u.HasFourDigitYear) : t.toStored < u.toStored ↔ t < u := by
  refine ⟨fun htext => ?_, toStored_lt_toStored ht.1 ht.2 hu.1 hu.2⟩
  by_contra h
  have hle : u ≤ t := not_lt.1 h
  by_cases hlt : u < t
  · exact String.lt_asymm htext (toStored_lt_toStored hu.1 hu.2 ht.1 ht.2 hlt)
  · rw [le_antisymm (not_lt.1 hlt) hle] at htext
    exact String.lt_irrefl _ htext

theorem toStored_le_iff (ht : t.HasFourDigitYear) (hu : u.HasFourDigitYear) : t.toStored ≤ u.toStored ↔ t ≤ u := by
  rw [← String.not_lt, toStored_lt_iff hu ht, not_lt]

end Instant

namespace Scalar

private theorem le_total (a b : Scalar) : a.le b = true ∨ b.le a = true := by
  cases a <;> cases b <;> simp only [le, decide_eq_true_eq, reduceCtorEq, or_false, or_true]
  case integer.integer m n => exact Int.le_total m n
  case text.text s t => exact String.le_total s t
  all_goals exact Rat.le_total

private theorem le_trans {a b c : Scalar} (h : a.le b = true) (h' : b.le c = true) : a.le c = true := by
  cases a <;> cases b <;> cases c <;> simp only [le, decide_eq_true_eq, reduceCtorEq] at h h' ⊢
  case text.text.text => exact String.le_trans h h'
  case integer.integer.integer => exact Int.le_trans h h'
  case integer.integer.real => exact Rat.le_trans (Rat.intCast_le_intCast.2 h) h'
  case integer.real.integer => exact Rat.intCast_le_intCast.1 (Rat.le_trans h h')
  case real.integer.integer => exact Rat.le_trans h (Rat.intCast_le_intCast.2 h')
  all_goals exact Rat.le_trans h h'

end Scalar

/-! ### Queries of rows -/

namespace Database

/-- The greatest time of some rows is the time of one of them. -/
private theorem exists_latestUse (row : Stored.History) (rows : List Stored.History) :
    ∃ last ∈ row :: rows, latestUse (row :: rows) = some last.createdAt ∧
      ∀ r ∈ row :: rows, r.createdAt.le last.createdAt = true := by
  induction rows generalizing row with
  | nil => exact ⟨row, List.mem_cons_self, rfl, by simpa using (Scalar.le_total row.createdAt row.createdAt)⟩
  | cons next rows ih =>
    rw [latestUse, List.foldl_cons]
    -- the fold goes on from the later of the first two times
    split
    · next hle =>
      obtain ⟨last, hlast, heq, hall⟩ := ih next
      refine ⟨last, List.mem_cons_of_mem row hlast, heq, ?_⟩
      rw [List.forall_mem_cons]
      exact ⟨Scalar.le_trans hle (hall next List.mem_cons_self), hall⟩
    · next hlt =>
      obtain ⟨last, hlast, heq, hall⟩ := ih row
      have hnext : next.createdAt.le row.createdAt = true := (Scalar.le_total _ _).resolve_left hlt
      refine ⟨last, ?_, heq, ?_⟩
      · rcases List.mem_cons.1 hlast with rfl | hlast
        · exact List.mem_cons_self
        · exact List.mem_cons_of_mem row (List.mem_cons_of_mem next hlast)
      · rw [List.forall_mem_cons] at hall ⊢
        exact ⟨hall.1, List.forall_mem_cons.2 ⟨Scalar.le_trans hnext hall.1, hall.2⟩⟩

/-- The different queries of some rows. -/
def differentQueries (rows : List Stored.History) : List String :=
  ((rows.map (·.query)).mergeSort fun a b => b ≤ a).eraseDups

private theorem nodup_differentQueries (rows : List Stored.History) : (differentQueries rows).Nodup :=
  (firstOccurrences_eraseDups _).nodup

private theorem mem_differentQueries {rows : List Stored.History} {q : String} :
    q ∈ differentQueries rows ↔ ∃ row ∈ rows, row.query = q := by
  rw [differentQueries, List.mem_eraseDups, List.mem_mergeSort, List.mem_map]

/-- The different queries of some rows, each with its latest use. -/
def lastUses (rows : List Stored.History) : List (String × Scalar) :=
  (differentQueries rows).filterMap fun q => (latestUse (rows.filter (·.query = q))).map fun t => (q, t)

private theorem mem_lastUses {rows : List Stored.History} {q : String} {t : Scalar} (h : (q, t) ∈ lastUses rows) :
    (∃ last ∈ rows, last.query = q ∧ last.createdAt = t) ∧ ∀ row ∈ rows, row.query = q → row.createdAt.le t = true := by
  obtain ⟨q', -, hmap⟩ := List.mem_filterMap.1 h
  obtain ⟨t', ht, heq⟩ := Option.map_eq_some_iff.1 hmap
  obtain ⟨rfl, rfl⟩ := Prod.mk.inj heq
  cases hrows : rows.filter (·.query = q') with
  | nil =>
    rw [hrows] at ht
    cases ht
  | cons row more =>
    obtain ⟨last, hlast, hlatest, hall⟩ := exists_latestUse row more
    rw [hrows, hlatest] at ht
    obtain rfl := Option.some.inj ht
    rw [← hrows] at hlast hall
    obtain ⟨hmem, hquery⟩ := List.mem_filter.1 hlast
    refine ⟨⟨last, hmem, of_decide_eq_true hquery, rfl⟩, fun r hr hr' => ?_⟩
    exact hall r (List.mem_filter.2 ⟨hr, decide_eq_true hr'⟩)

private theorem map_fst_lastUses (rows : List Stored.History) : (lastUses rows).map (·.1) = differentQueries rows := by
  have hall : ∀ q ∈ differentQueries rows,
      ((latestUse (rows.filter (·.query = q))).map fun t => (q, t)).map (·.1) = some q := by
    intro q hq
    obtain ⟨row, hrow, rfl⟩ := mem_differentQueries.1 hq
    cases hrows : rows.filter (·.query = row.query) with
    | nil => exact absurd (decide_eq_true rfl) (List.filter_eq_nil_iff.1 hrows row hrow)
    | cons first more =>
      obtain ⟨last, -, hlatest, -⟩ := exists_latestUse first more
      rw [hlatest]
      rfl
  rw [lastUses, List.map_filterMap, List.filterMap_congr hall, List.filterMap_some]

/-- One query was not used before another. -/
def notUsedBefore (a b : String × Scalar) : Bool := b.2.le a.2

private theorem notUsedBefore_trans (a b c : String × Scalar) (h : notUsedBefore a b = true)
    (h' : notUsedBefore b c = true) : notUsedBefore a c = true :=
  Scalar.le_trans h' h

private theorem notUsedBefore_total (a b : String × Scalar) : (notUsedBefore a b || notUsedBefore b a) = true := by
  simpa [notUsedBefore] using Scalar.le_total b.2 a.2

/-- The different queries of some rows, in the order of their latest use. -/
def ranked (rows : List Stored.History) : List String := ((lastUses rows).mergeSort notUsedBefore).map (·.1)

private theorem ranked_perm (rows : List Stored.History) : (ranked rows).Perm (differentQueries rows) := by
  rw [← map_fst_lastUses]
  exact (List.mergeSort_perm _ _).map _

private theorem nodup_ranked (rows : List Stored.History) : (ranked rows).Nodup :=
  (ranked_perm rows).nodup_iff.2 (nodup_differentQueries rows)

theorem mem_ranked {rows : List Stored.History} {q : String} : q ∈ ranked rows ↔ ∃ row ∈ rows, row.query = q := by
  rw [(ranked_perm rows).mem_iff, mem_differentQueries]

private theorem ranked_singleton (row : Stored.History) : ranked [row] = [row.query] :=
  List.perm_singleton.1 (by simpa [differentQueries, List.eraseDups_cons] using ranked_perm [row])

/-- Every use of a query is no later than some use of each query in front of it. -/
private theorem pairwise_ranked (rows : List Stored.History) : (ranked rows).Pairwise fun p q =>
    ∀ row ∈ rows, row.query = q → ∃ last ∈ rows, last.query = p ∧ row.createdAt.le last.createdAt = true := by
  have hsorted : ((lastUses rows).mergeSort notUsedBefore).Pairwise (notUsedBefore · · = true) :=
    List.pairwise_mergeSort notUsedBefore_trans notUsedBefore_total _
  refine List.pairwise_map.2 (hsorted.imp_of_mem fun {a b} ha hb hle row hrow hquery => ?_)
  obtain ⟨⟨last, hlast, hp, htime⟩, -⟩ := mem_lastUses (List.mem_mergeSort.1 ha)
  obtain ⟨-, hall⟩ := mem_lastUses (List.mem_mergeSort.1 hb)
  refine ⟨last, hlast, hp, ?_⟩
  rw [htime]
  exact Scalar.le_trans (hall row hrow hquery) hle

/-- The rows of a user whose query starts with a text. -/
def rowsBeginning (db : Database) (userId start : String) : List Stored.History :=
  (db.historyRows userId).filter fun row => Like.isMatch (Like.startingWith start) row.query

/-- Recent queries are those of the rows that match, unless a row comes to a pattern that is too long. -/
theorem recentQueriesWithPrefix_eq (db : Database) (userId start : String) (limit : Nat) :
    db.recentQueriesWithPrefix userId start limit =
      if 0 < limit ∧ db.historyRows userId ≠ [] ∧ Like.isTooLong (Like.startingWith start) = true then .error .tooComplex
      else .ok ((ranked (db.rowsBeginning userId start)).take limit) := by
  have hguard : (decide (0 < limit) && !(db.historyRows userId).isEmpty && Like.isTooLong (Like.startingWith start)) =
      decide (0 < limit ∧ db.historyRows userId ≠ [] ∧ Like.isTooLong (Like.startingWith start) = true) := by
    rw [Bool.decide_and, Bool.decide_and, Bool.and_assoc, Bool.decide_eq_true]
    cases db.historyRows userId <;> rfl
  rw [historyRows] at hguard
  simp only [recentQueriesWithPrefix, guardLookup, hguard, Bool.false_eq_true, if_false, Bool.not_true, Bool.false_or,
    decide_eq_true_eq]
  rfl

end Database

/-! ### Entries -/

/-- The entries of the history after a call; an identifier that is taken is not recorded again. -/
def Call.remembers : Call → List HistoryEntry → List HistoryEntry
  | .recordSearch e, es => if e.id ∈ es.map (·.id) then es else es ++ [e]
  | .clearHistory userId, es => es.filter (·.userId ≠ userId)
  | _, es => es

/-- The entries that calls leave in a history that was empty. -/
def Call.remembered (calls : List Call) : List HistoryEntry := calls.foldl (fun es c => c.remembers es) []

private theorem Call.mem_of_mem_remembers {c : Call} {es : List HistoryEntry} {e : HistoryEntry}
    (h : e ∈ c.remembers es) : e ∈ es ∨ c = .recordSearch e := by
  cases c with
  | recordSearch new =>
    rw [remembers] at h
    split at h
    · exact .inl h
    · rcases List.mem_append.1 h with hold | hnew
      · exact .inl hold
      · exact .inr (congrArg _ (List.mem_singleton.1 hnew).symm)
  | clearHistory userId => exact .inl (List.mem_filter.1 h).1
  | _ => exact .inl h

/-- What is in the history has been recorded. -/
private theorem Call.recordSearch_mem_of_mem_remembered {calls : List Call} {e : HistoryEntry}
    (h : e ∈ remembered calls) : .recordSearch e ∈ calls := by
  have hall : ∀ es, e ∈ calls.foldl (fun es c => c.remembers es) es → e ∈ es ∨ .recordSearch e ∈ calls := by
    clear h
    induction calls with
    | nil => exact fun es h => .inl h
    | cons c calls ih =>
      intro es h
      rcases ih _ h with hfirst | hlater
      · refine (mem_of_mem_remembers hfirst).imp_right fun hc => ?_
        exact hc ▸ List.mem_cons_self
      · exact .inr (List.mem_cons_of_mem c hlater)
  exact (hall [] h).resolve_left List.not_mem_nil

namespace Database

/-- The database after some calls. -/
def after (db : Database) (calls : List Call) : Database := calls.foldl (fun db c => (answer c db).2) db

/-- The rows of the history are those of some entries, in order. -/
def Remembers (db : Database) (es : List HistoryEntry) : Prop := db.history.toList = es.map HistoryEntry.toStored

variable {db : Database} {es : List HistoryEntry}

private theorem Remembers.historyRows_eq (h : db.Remembers es) (userId : String) :
    db.historyRows userId = (es.filter (·.userId = userId)).map HistoryEntry.toStored := by
  rw [historyRows, h, List.filter_map]
  rfl

/-- A call changes the entries as it is told to. -/
private theorem Remembers.answer (h : db.Remembers es) (c : Call) : (answer c db).2.Remembers (c.remembers es) := by
  cases c with
  | recordSearch e =>
    rw [Call.remembers]
    split
    · next htaken =>
      have hfound : (db.history.any fun row => row.id = e.toStored.id) = true := by
        obtain ⟨other, hother, hid⟩ := List.mem_map.1 htaken
        rw [Rows.any, h, List.any_map, List.any_eq_true]
        exact ⟨other, hother, decide_eq_true (congrArg Uuid.render hid)⟩
      simp only [Database.answer, insertHistory, hfound]
      exact h
    · next hfree =>
      have hother : ∀ row ∈ db.history.toList, row.id ≠ e.id.render := by
        rw [h]
        intro row hrow hid
        obtain ⟨other, hother, rfl⟩ := List.mem_map.1 hrow
        exact hfree (List.mem_map.2 ⟨other, hother, Uuid.render_injective hid⟩)
      rw [answer_recordSearch hother]
      rw [Remembers, toList_pushHistory, h, List.map_append, List.map_singleton]
  | clearHistory userId =>
    rw [answer_clearHistory, Remembers, toList_eraseHistory, h, List.filter_map]
    rfl
  | insertSavedSearch s =>
    rw [Remembers, history_answer (c := .insertSavedSearch s) trivial db]
    exact h
  | _ => exact h

private theorem Remembers.after (h : db.Remembers es) (calls : List Call) :
    (db.after calls).Remembers (calls.foldl (fun es c => c.remembers es) es) := by
  induction calls generalizing db es with
  | nil => exact h
  | cons c calls ih => exact ih (h.answer c)

/-- The history is what the calls have left there. -/
theorem remembers_after (hempty : db.history.toList = []) (calls : List Call) :
    (db.after calls).Remembers (Call.remembered calls) := by
  have hnone : db.Remembers [] := hempty
  exact hnone.after calls

/-! ### In the order of use -/

private theorem createdAt_le_iff {e f : HistoryEntry} :
    e.toStored.createdAt.le f.toStored.createdAt = true ↔ e.createdAt.toStored ≤ f.createdAt.toStored := by
  simp only [HistoryEntry.toStored, Scalar.le, decide_eq_true_eq]

section

variable (h : db.Remembers es) (hyears : ∀ e ∈ es, e.createdAt.HasFourDigitYear) (userId : String)

include h hyears

/-- The entries of a user are listed in the order of time, the newest in front. -/
private theorem Remembers.exists_listHistory :
    ∃ listed : List HistoryEntry, listed.Perm (es.filter (·.userId = userId)) ∧
    listed.Pairwise (fun a b => b.createdAt ≤ a.createdAt) ∧
    ∀ n, db.listHistory userId n = .ok (listed.take n) := by
  refine ⟨(es.filter (·.userId = userId)).reverse.mergeSort HistoryEntry.inOrder,
    (List.mergeSort_perm _ _).trans (List.reverse_perm _), ?_, listHistory_eq (h.historyRows_eq userId)⟩
  refine (List.pairwise_mergeSort HistoryEntry.inOrder_trans HistoryEntry.inOrder_total _).imp_of_mem
    fun ha hb hle => ?_
  have hown : ∀ {e}, e ∈ (es.filter (·.userId = userId)).reverse.mergeSort HistoryEntry.inOrder →
      e.createdAt.HasFourDigitYear := fun he =>
    hyears _ (List.mem_filter.1 (List.mem_reverse.1 (List.mem_mergeSort.1 he))).1
  exact (Instant.toStored_le_iff (hown hb) (hown ha)).1 (of_decide_eq_true hle)

/-- The queries of a user with a beginning are ranked by their latest use, each once. -/
private theorem Remembers.exists_recentQueries {start : String} (hstart : '\x00' ∉ start.toList) :
    ∃ queries : List String, queries.Nodup ∧
      (∀ q, q ∈ queries ↔ Text.Begins (Like.seen start) (Like.seen q) ∧ ∃ e ∈ es, e.userId = userId ∧ e.query = q) ∧
      queries.Pairwise (fun p q => ∀ e ∈ es, e.userId = userId → e.query = q →
        ∃ last ∈ es, last.userId = userId ∧ last.query = p ∧ e.createdAt ≤ last.createdAt) ∧
      ∀ n, db.recentQueriesWithPrefix userId start n =
        if 0 < n ∧ (∃ e ∈ es, e.userId = userId) ∧ Like.isTooLong (Like.startingWith start) = true then
          .error .tooComplex
        else .ok (queries.take n) := by
  -- a row that is ranked is an entry that is remembered, as it is stored
  have hmem : ∀ row, row ∈ db.rowsBeginning userId start ↔
      ∃ e ∈ es, e.userId = userId ∧ Text.Begins (Like.seen start) (Like.seen e.query) ∧ e.toStored = row := by
    intro row
    rw [rowsBeginning, h.historyRows_eq, List.mem_filter, Like.isMatch_startingWith hstart, List.mem_map]
    constructor
    · rintro ⟨⟨e, he, rfl⟩, hbegins⟩
      obtain ⟨he, huser⟩ := List.mem_filter.1 he
      exact ⟨e, he, of_decide_eq_true huser, hbegins, rfl⟩
    · rintro ⟨e, he, huser, hbegins, rfl⟩
      exact ⟨⟨e, List.mem_filter.2 ⟨he, decide_eq_true huser⟩, rfl⟩, hbegins⟩
  have hsome : db.historyRows userId ≠ [] ↔ ∃ e ∈ es, e.userId = userId := by
    rw [h.historyRows_eq, ne_eq, List.map_eq_nil_iff, List.filter_eq_nil_iff]
    simp only [decide_eq_true_eq, not_forall, not_not, exists_prop]
  refine ⟨ranked (db.rowsBeginning userId start), nodup_ranked _, fun q => ?_,
    (pairwise_ranked _).imp_of_mem fun {p q} _ hq hlatest => ?_, fun n => ?_⟩
  · rw [mem_ranked]
    constructor
    · rintro ⟨row, hrow, rfl⟩
      obtain ⟨e, he, huser, hbegins, rfl⟩ := (hmem row).1 hrow
      exact ⟨hbegins, e, he, huser, rfl⟩
    · rintro ⟨hbegins, e, he, huser, rfl⟩
      exact ⟨e.toStored, (hmem _).2 ⟨e, he, huser, hbegins, rfl⟩, rfl⟩
  · rintro e he huser rfl
    obtain ⟨row, hrow, hquery⟩ := mem_ranked.1 hq
    obtain ⟨f, -, -, hbegins, rfl⟩ := (hmem row).1 hrow
    have hbegins : Text.Begins (Like.seen start) (Like.seen e.query) := hquery ▸ hbegins
    obtain ⟨last, hlast, hp, hle⟩ := hlatest e.toStored ((hmem _).2 ⟨e, he, huser, hbegins, rfl⟩) rfl
    obtain ⟨l, hl, hluser, -, rfl⟩ := (hmem last).1 hlast
    exact ⟨l, hl, hluser, hp, (Instant.toStored_le_iff (hyears e he) (hyears l hl)).1 (createdAt_le_iff.1 hle)⟩
  · simp only [recentQueriesWithPrefix_eq, hsome]

end

/-- The texts of times are in the order of time.  So, whatever calls have been made to a database that had no history, the
entries of a user are listed with the newest in front, and of the queries with a beginning those used last come first,
each once, where U+FFFE and U+FFFF count as the replacement character; that fails only when an entry comes to a pattern
that is too long. -/
theorem in_order_of_use {db : Database} (hempty : db.history.toList = []) (calls : List Call)
    (hyears : ∀ e, .recordSearch e ∈ calls → e.createdAt.HasFourDigitYear) :
    (∀ t u : Instant, t.HasFourDigitYear → u.HasFourDigitYear → (t.toStored < u.toStored ↔ t < u)) ∧
    (∀ userId, ∃ listed : List HistoryEntry, listed.Perm ((Call.remembered calls).filter (·.userId = userId)) ∧
      listed.Pairwise (fun a b => b.createdAt ≤ a.createdAt) ∧
      ∀ n, answer (.listHistory userId n) (db.after calls) = (.ok (listed.take n), db.after calls)) ∧
    ∀ userId start, '\x00' ∉ start.toList → ∃ queries : List String, queries.Nodup ∧
      (∀ q, q ∈ queries ↔
        Text.Begins (Like.seen start) (Like.seen q) ∧ ∃ e ∈ Call.remembered calls, e.userId = userId ∧ e.query = q) ∧
      queries.Pairwise (fun p q => ∀ e ∈ Call.remembered calls, e.userId = userId → e.query = q →
        ∃ last ∈ Call.remembered calls, last.userId = userId ∧ last.query = p ∧ e.createdAt ≤ last.createdAt) ∧
      ∀ n, answer (.recentQueriesWithPrefix userId start n) (db.after calls) =
        (if 0 < n ∧ (∃ e ∈ Call.remembered calls, e.userId = userId) ∧
            Like.isTooLong (Like.startingWith start) = true then .error (.database .tooComplex)
          else .ok (queries.take n), db.after calls) := by
  have hremembers := remembers_after hempty calls
  have hentries : ∀ e ∈ Call.remembered calls, e.createdAt.HasFourDigitYear := fun e he =>
    hyears e (Call.recordSearch_mem_of_mem_remembered he)
  refine ⟨fun t u => Instant.toStored_lt_iff, fun userId => ?_, fun userId start hstart => ?_⟩
  · obtain ⟨listed, hperm, hsorted, hlist⟩ := hremembers.exists_listHistory hentries userId
    refine ⟨listed, hperm, hsorted, fun n => ?_⟩
    rw [answer, hlist]
  · obtain ⟨queries, hnodup, hmem, hranked, hrecent⟩ :=
      hremembers.exists_recentQueries hentries userId hstart
    refine ⟨queries, hnodup, hmem, hranked, fun n => ?_⟩
    rw [answer, hrecent]
    split <;> rfl

private def searched (query : String) (createdAt : Instant) : Call :=
  .recordSearch { id := default, userId := "ann", query, filters := {}, scope := .all, createdAt }

/-- Ann has looked for a report, and asks for queries with its first letters. -/
theorem in_order_of_use_report : ∃ queries : List String, queries.Nodup ∧ (∀ q, q ∈ queries ↔ q = "report") ∧
    ∀ n, answer (.recentQueriesWithPrefix "ann" "RE" n) (after {} [searched "report" .epoch]) =
      (.ok (queries.take n), after {} [searched "report" .epoch]) := by
  have hyears : ∀ e, .recordSearch e ∈ [searched "report" .epoch] → e.createdAt.HasFourDigitYear := by
    intro e he
    cases List.mem_singleton.1 he
    decide
  obtain ⟨-, -, hrecent⟩ := in_order_of_use (rfl : ({} : Database).history.toList = []) _ hyears
  obtain ⟨queries, hnodup, hmem, -, hanswer⟩ := hrecent "ann" "RE" (by decide)
  have hone : Call.remembered [searched "report" .epoch] =
      [{ id := default, userId := "ann", query := "report", filters := {}, scope := .all, createdAt := .epoch }] := rfl
  refine ⟨queries, hnodup, fun q => (hmem q).trans ?_, fun n => ?_⟩
  · rw [hone]
    constructor
    · rintro ⟨-, e, he, -, rfl⟩
      rw [List.mem_singleton.1 he]
    · rintro rfl
      exact ⟨by decide, _, List.mem_singleton_self _, rfl, rfl⟩
  · have hshort : Like.isTooLong (Like.startingWith "RE") ≠ true := by decide
    rw [hanswer, if_neg fun h => hshort h.2.2]

/-- After one search a query is answered that matches. -/
private theorem answer_recent_searched (query start : String)
    (hmatch : Like.isMatch (Like.startingWith start) query = true)
    (hshort : Like.isTooLong (Like.startingWith start) = false) :
    answer (.recentQueriesWithPrefix "ann" start 5) (after {} [searched query .epoch]) =
      (.ok [query], after {} [searched query .epoch]) := by
  have hone : (after {} [searched query .epoch]).historyRows "ann" =
      [HistoryEntry.toStored ⟨default, "ann", query, {}, .all, .epoch⟩] := rfl
  have hrow : (after {} [searched query .epoch]).rowsBeginning "ann" start =
      [HistoryEntry.toStored ⟨default, "ann", query, {}, .all, .epoch⟩] := by
    rw [rowsBeginning, hone]
    exact List.filter_cons_of_pos hmatch
  have hrecent : (after {} [searched query .epoch]).recentQueriesWithPrefix "ann" start 5 = .ok [query] := by
    rw [recentQueriesWithPrefix_eq, hrow, ranked_singleton, hshort, if_neg fun h => absurd h.2.2 Bool.false_ne_true]
    rfl
  rw [answer, hrecent]
  rfl

/-- Queries are answered that do not start with the beginning that is asked for: it is known only up to its first NUL,
and U+FFFE and U+FFFF are taken for one another. -/
theorem recent_query_not_beginning :
    answer (.recentQueriesWithPrefix "ann" "a\x00b" 5) (after {} [searched "a" .epoch]) =
        (.ok ["a"], after {} [searched "a" .epoch]) ∧
      ¬Text.Begins "a\x00b" "a" ∧
      answer (.recentQueriesWithPrefix "ann" "\uFFFE" 5) (after {} [searched "\uFFFF" .epoch]) =
        (.ok ["\uFFFF"], after {} [searched "\uFFFF" .epoch]) ∧
      ¬Text.Begins "\uFFFE" "\uFFFF" := by
  have hnul := answer_recent_searched "a" "a\x00b" (by decide) (by decide)
  have hmisread := answer_recent_searched "\uFFFF" "\uFFFE" (by decide) (by decide)
  exact ⟨hnul, by decide, hmisread, by decide⟩

end Database

end WorkspaceSearch
