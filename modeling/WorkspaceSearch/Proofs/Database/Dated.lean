import WorkspaceSearch.Proofs.Database.Unique
import WorkspaceSearch.Proofs.Database.Visible
import WorkspaceSearch.Proofs.Time.Scale

/-!
# Lookups with bounds on the date

A lookup with bounds on the date answers what the same lookup answers without them, less the rows whose time the bounds
do not let through on the scale of Julian days (`searchMessages_dated`, `searchDirectMessages_dated`,
`searchFiles_dated`).  The page has room for all rows, which carry timestamps.
-/

namespace WorkspaceSearch

/-- The lookup without its bounds on the date. -/
def MessageLookup.undated (q : MessageLookup) : MessageLookup :=
  { q with filters := q.filters.undated, after := none, before := none }

/-- The lookup without its bounds on the date. -/
def DirectMessageLookup.undated (q : DirectMessageLookup) : DirectMessageLookup :=
  { q with filters := q.filters.undated, after := none, before := none }

/-- The lookup without its bounds on the date. -/
def FileLookup.undated (q : FileLookup) : FileLookup :=
  { q with filters := q.filters.undated, after := none, before := none }

namespace Database

private theorem isWithin_eq_of_dates {s : Scalar} {t : Instant} (h : s.Dates t) (after before : Option Instant) :
    isWithin after before s = isWithin after before (.text t.toStored) := by
  unfold isWithin notBefore notAfter
  rw [h.julianDay?_eq]

/-! ### Lookups of rows with a time -/

section

variable {Found Row : Type} {found : List Found} {key : Found → Option Int × String} {stored : Found → Scalar}
  {read : Found → Except DatabaseFault Row} {time : Row → Instant} {limit : Nat} {isEmpty fits overruns : Bool}
  {p : Found → Bool} {rows : List Row}

/-- What a lookup answers that has room for everything found. -/
private def lookup (key : Found → Option Int × String) (read : Found → Except DatabaseFault Row) (limit : Nat)
    (found : List Found) : Except DatabaseFault (List Row) :=
  (cutPage limit 0 (found.mergeSort fun x y => newestFirst (key x) (key y))).mapM read

variable (hread : ∀ x row, read x = .ok row → (stored x).instant? = some (time row))
  (hdates : ∀ x ∈ found, ∃ t, (stored x).Dates t)
  (h : guardLookup isEmpty fits overruns (lookup key read limit (found.filter p)) = .ok rows)

include hread hdates h

private theorem dates_of_lookup : ∀ row ∈ rows, (Scalar.text (time row).toStored).Dates (time row) := by
  intro row hrow
  obtain ⟨x, hx, hxrow⟩ := (Outcome.mem_of_mapM (mem_of_guardLookup h hrow)).1 hrow
  obtain ⟨t, ht⟩ := hdates x (List.mem_of_mem_filter (List.mem_mergeSort.1 (mem_of_mem_cutPage hx)))
  obtain rfl := Option.some.inj (ht.instant?_eq.symm.trans (hread x row hxrow))
  exact ht.toStored

private theorem lookup_dated (hlimit : found.length ≤ limit) (after before : Option Instant) :
    guardLookup isEmpty true overruns
        (lookup key read limit (found.filter fun x => p x && isWithin after before (stored x))) =
      .ok (rows.filter fun row => isWithin after before (.text (time row).toStored)) := by
  have hpage : ∀ q, lookup key read limit (found.filter q) =
      ((found.filter q).mergeSort fun x y => newestFirst (key x) (key y)).mapM read := by
    intro q
    rw [lookup, cutPage, List.drop_zero, List.take_of_length_le]
    rw [List.length_mergeSort]
    exact (List.length_filter_le _ _).trans hlimit
  -- the sort is stable, so rows may be left out before it or after it
  have hsorted : (found.filter fun x => p x && isWithin after before (stored x)).mergeSort
        (fun x y => newestFirst (key x) (key y)) =
      ((found.filter p).mergeSort fun x y => newestFirst (key x) (key y)).filter
        fun x => isWithin after before (stored x) := by
    rw [← Merging.mergeSort_filter (fun x y z => newestFirst_trans (key x) (key y) (key z))
      (fun x y => newestFirst_total (key x) (key y)), List.filter_filter]
    simp only [Bool.and_comm]
  rw [hpage, hsorted]
  rw [hpage, guardLookup] at h
  split at h
  · next hempty =>
    obtain rfl := Except.ok.inj h
    exact if_pos hempty
  · next hempty =>
    split at h
    · cases h
    · next hcomplex =>
      have hruns : ¬(!true || overruns) = true := fun hruns => hcomplex (Bool.or_eq_true_iff.2 (.inr hruns))
      rw [guardLookup, if_neg hempty, if_neg hruns]
      refine Outcome.mapM_filter (fun x hx row hxrow => ?_) h
      obtain ⟨t, ht⟩ := hdates x (List.mem_of_mem_filter (List.mem_mergeSort.1 hx))
      obtain rfl := Option.some.inj (ht.instant?_eq.symm.trans (hread x row hxrow))
      exact (isWithin_eq_of_dates ht after before).symm

end

variable {db : Database} (hkeyed : db.Keyed)

/-! ### Messages -/

section

variable {q : MessageLookup} {rows : List MessageRow}

private theorem messageFits_eq_undated (db : Database) (q : MessageLookup) (m : Stored.Message) :
    db.messageFits q m = (db.messageFits q.undated m && isWithin q.after q.before m.createdAt) := by
  have hopen : isWithin q.undated.after q.undated.before m.createdAt = true := rfl
  unfold messageFits
  rw [hopen, Bool.and_true]
  rfl

private theorem messageOverruns_undated (db : Database) (q : MessageLookup) :
    db.messageOverruns q.undated = db.messageOverruns q :=
  rfl

include hkeyed in
/-- Bounds on the date only leave messages out, by the instants of their times. -/
theorem searchMessages_dated (hdates : ∀ m ∈ db.messages.toList, ∃ t, m.createdAt.Dates t) (hoffset : q.offset = 0)
    (hlimit : db.messages.toList.length ≤ q.limit) (hfits : q.shape.fits = true)
    (h : db.searchMessages q.undated = .ok rows) :
    (∀ row ∈ rows, (Scalar.text row.createdAt.toStored).Dates row.createdAt) ∧ db.searchMessages q =
      .ok (rows.filter fun row => isWithin q.after q.before (.text row.createdAt.toStored)) := by
  have hread : ∀ (x : (Stored.Message × Stored.Channel) × Stored.User) row,
      db.messageRow x.1.1 x.1.2 x.2 = .ok row → x.1.1.createdAt.instant? = some row.createdAt := by
    intro x row hx
    obtain ⟨t, ht, hx⟩ := Outcome.bind_eq_ok.1 hx
    rw [← Except.ok.inj hx]
    exact instant?_of_readTime ht
  have hplaced := map_message_messagesInPlace_sublist hkeyed
  have hlength := hplaced.length_le
  rw [List.length_map] at hlength
  have hdates' : ∀ x ∈ db.messagesInPlace, ∃ t, x.1.1.createdAt.Dates t := fun x hx =>
    hdates _ (hplaced.subset (List.mem_map_of_mem hx))
  have hoffset' : q.undated.offset = 0 := hoffset
  rw [searchMessages_eq, hoffset', messageOverruns_undated] at h
  refine ⟨dates_of_lookup hread hdates' h, ?_⟩
  rw [searchMessages_eq, hoffset, hfits, foundMessages]
  simp only [messageFits_eq_undated db q]
  exact lookup_dated hread hdates' h (hlength.trans hlimit) q.after q.before

end

/-! ### Direct messages -/

section

variable {q : DirectMessageLookup} {rows : List DirectMessageRow}

private theorem directMessageFits_eq_undated (q : DirectMessageLookup) (m : Stored.DirectMessage) :
    directMessageFits q m = (directMessageFits q.undated m && isWithin q.after q.before m.createdAt) := by
  have hopen : isWithin q.undated.after q.undated.before m.createdAt = true := rfl
  unfold directMessageFits
  rw [hopen, Bool.and_true]
  rfl

private theorem directMessageOverruns_undated (db : Database) (q : DirectMessageLookup) :
    db.directMessageOverruns q.undated = db.directMessageOverruns q :=
  rfl

include hkeyed in
/-- Bounds on the date only leave direct messages out, by the instants of their times. -/
theorem searchDirectMessages_dated (hdates : ∀ m ∈ db.directMessages.toList, ∃ t, m.createdAt.Dates t)
    (hoffset : q.offset = 0) (hlimit : db.directMessages.toList.length ≤ q.limit) (hfits : q.shape.fits = true)
    (h : db.searchDirectMessages q.undated = .ok rows) :
    (∀ row ∈ rows, (Scalar.text row.createdAt.toStored).Dates row.createdAt) ∧ db.searchDirectMessages q =
      .ok (rows.filter fun row => isWithin q.after q.before (.text row.createdAt.toStored)) := by
  have hread : ∀ (x : (Stored.DirectMessage × Stored.User) × Stored.User) row,
      directMessageRow x.1.1 x.1.2 x.2 = .ok row → x.1.1.createdAt.instant? = some row.createdAt := by
    intro x row hx
    obtain ⟨t, ht, hx⟩ := Outcome.bind_eq_ok.1 hx
    rw [← Except.ok.inj hx]
    exact instant?_of_readTime ht
  have hplaced := map_message_directMessagesInPlace_sublist hkeyed
  have hlength := hplaced.length_le
  rw [List.length_map] at hlength
  have hdates' : ∀ x ∈ db.directMessagesInPlace, ∃ t, x.1.1.createdAt.Dates t := fun x hx =>
    hdates _ (hplaced.subset (List.mem_map_of_mem hx))
  have hoffset' : q.undated.offset = 0 := hoffset
  rw [searchDirectMessages_eq, hoffset', directMessageOverruns_undated] at h
  refine ⟨dates_of_lookup hread hdates' h, ?_⟩
  rw [searchDirectMessages_eq, hoffset, hfits, foundDirectMessages]
  simp only [directMessageFits_eq_undated q]
  exact lookup_dated hread hdates' h (hlength.trans hlimit) q.after q.before

end

/-! ### Files -/

section

variable {q : FileLookup} {rows : List FileRow}

private theorem fileFits_eq_undated (q : FileLookup) (f : Stored.File) :
    fileFits q f = (fileFits q.undated f && isWithin q.after q.before f.createdAt) := by
  have hopen : isWithin q.undated.after q.undated.before f.createdAt = true := rfl
  unfold fileFits
  rw [hopen, Bool.and_true]
  rfl

include hkeyed in
/-- Bounds on the date only leave files out, by the instants of their times. -/
theorem searchFiles_dated (hdates : ∀ f ∈ db.files.toList, ∃ t, f.createdAt.Dates t)
    (hoffset : q.offset = 0) (hlimit : db.files.toList.length ≤ q.limit) (hfits : q.shape.fits = true)
    (h : db.searchFiles q.undated = .ok rows) :
    (∀ row ∈ rows, (Scalar.text row.createdAt.toStored).Dates row.createdAt) ∧ db.searchFiles q =
      .ok (rows.filter fun row => isWithin q.after q.before (.text row.createdAt.toStored)) := by
  have hread : ∀ p row, fileRow p = .ok row → p.file.createdAt.instant? = some row.createdAt := by
    intro p row hp
    obtain ⟨t, ht, hp⟩ := Outcome.bind_eq_ok.1 hp
    obtain ⟨size, -, hp⟩ := Outcome.bind_eq_ok.1 hp
    rw [← Except.ok.inj hp]
    exact instant?_of_readTime ht
  have hplaced := map_file_filesInPlace hkeyed
  have hlength := congrArg List.length hplaced
  rw [List.length_map] at hlength
  have hdates' : ∀ p ∈ db.filesInPlace, ∃ t, p.file.createdAt.Dates t := fun p hp =>
    hdates _ (hplaced ▸ List.mem_map_of_mem hp)
  have hoffset' : q.undated.offset = 0 := hoffset
  rw [searchFiles, hoffset'] at h
  refine ⟨dates_of_lookup hread hdates' h, ?_⟩
  rw [searchFiles, hoffset, hfits]
  simp only [fileFits_eq_undated q]
  exact lookup_dated hread hdates' h (hlength.trans_le hlimit) q.after q.before

end

end Database

end WorkspaceSearch
