import Mathlib.Data.Set.List
import WorkspaceSearch.Proofs.Database.Recent
import WorkspaceSearch.Proofs.SavedSearch.Lifetime
import WorkspaceSearch.Proofs.Search.Merging

/-!
# The order of saved searches

A list of saved searches has the pinned ones in front, of these and of the others the ones used last, and the ones never
used behind them; what ties stands as the store has it (`SavedSearch.ListedFrom`).  A database sorts its rows as well, by
the texts of their times and by one key more.  Where these texts are in the order of time, its order is a finer one
(`SavedSearch.savedInOrder_toStored`), so sorting once more moves nothing (`Database.Recorded.listedAsFound`).
-/

namespace WorkspaceSearch

namespace SavedSearch

/-! ### Two orders -/

section

variable {a b c : SavedSearch}

private theorem inOrder_iff : inOrder a b = true ↔ (b.isPinned = true → a.isPinned = true) ∧
    (a.isPinned = b.isPinned → ∀ t ∈ b.lastUsedAt, ∃ s ∈ a.lastUsedAt, t ≤ s) := by
  unfold inOrder
  cases a.isPinned <;> cases b.isPinned <;> cases a.lastUsedAt <;> cases b.lastUsedAt <;> simp

private theorem inOrder_total (a b : SavedSearch) : (inOrder a b || inOrder b a) = true := by
  unfold inOrder
  cases a.isPinned <;> cases b.isPinned <;> cases a.lastUsedAt <;> cases b.lastUsedAt <;>
    simp [Instant.le_total]

private theorem inOrder_trans (a b c : SavedSearch) (h : inOrder a b = true) (h' : inOrder b c = true) :
    inOrder a c = true := by
  rw [inOrder_iff] at *
  obtain ⟨hpinned, hused⟩ := h
  obtain ⟨hpinned', hused'⟩ := h'
  refine ⟨fun hc => hpinned (hpinned' hc), fun hac t ht => ?_⟩
  -- what stands between two that are both pinned, or both not pinned, is so too
  have hbc : b.isPinned = c.isPinned := Bool.eq_iff_iff.2 ⟨fun hb => hac ▸ hpinned hb, hpinned'⟩
  obtain ⟨s, hs, hts⟩ := hused' hbc t ht
  obtain ⟨r, hr, hsr⟩ := hused (hac.trans hbc.symm) s hs
  exact ⟨r, hr, Instant.le_trans hts hsr⟩

/-- Only what is alike in both respects ties. -/
private theorem inOrder_both_iff :
    inOrder a b = true ∧ inOrder b a = true ↔ a.isPinned = b.isPinned ∧ a.lastUsedAt = b.lastUsedAt := by
  have hantisymm : ∀ s t : Instant, t ≤ s ∧ s ≤ t ↔ s = t := fun s t =>
    ⟨fun h => Instant.le_antisymm h.2 h.1, fun h => h ▸ ⟨Instant.le_refl s, Instant.le_refl s⟩⟩
  unfold inOrder
  cases a.isPinned <;> cases b.isPinned <;> cases a.lastUsedAt <;> cases b.lastUsedAt <;> simp [hantisymm]

/-- The order in which what ties is ordered by creation, the newest in front. -/
def inFullOrder (a b : SavedSearch) : Bool := inOrder a b && (!inOrder b a || b.createdAt ≤ a.createdAt)

private theorem inFullOrder_iff : inFullOrder a b = true ↔
    inOrder a b = true ∧ (inOrder b a = true → b.createdAt ≤ a.createdAt) := by
  cases hback : inOrder b a <;> simp [inFullOrder, hback]

private theorem inFullOrder_total (a b : SavedSearch) : (inFullOrder a b || inFullOrder b a) = true := by
  have htotal := inOrder_total a b
  rw [Bool.or_eq_true] at htotal ⊢
  rw [inFullOrder_iff, inFullOrder_iff]
  have hcreated := Instant.le_total a.createdAt b.createdAt
  grind

private theorem inFullOrder_trans (a b c : SavedSearch) (h : inFullOrder a b = true) (h' : inFullOrder b c = true) :
    inFullOrder a c = true := by
  rw [inFullOrder_iff] at *
  refine ⟨inOrder_trans a b c h.1 h'.1, fun hback => ?_⟩
  have hba := h.2 (inOrder_trans b c a h'.1 hback)
  have hcb := h'.2 (inOrder_trans c a b hback h.1)
  exact Instant.le_trans hcb hba

private theorem pairwise_inFullOrder (shelf : List SavedSearch) :
    (shelf.mergeSort inFullOrder).Pairwise (inFullOrder · · = true) :=
  List.pairwise_mergeSort inFullOrder_trans inFullOrder_total shelf

/-- Sorting once more moves nothing. -/
private theorem mergeSort_inFullOrder (shelf : List SavedSearch) :
    (shelf.mergeSort inFullOrder).mergeSort inOrder = shelf.mergeSort inFullOrder :=
  List.mergeSort_of_pairwise ((pairwise_inFullOrder shelf).imp fun h => (inFullOrder_iff.1 h).1)

/-! ### The order of the database -/

/-- The years of the times that saved searches are ordered by are written with four digits and no sign. -/
structure HasFourDigitYears (s : SavedSearch) : Prop where
  createdAt : s.createdAt.HasFourDigitYear
  lastUsedAt : ∀ t ∈ s.lastUsedAt, t.HasFourDigitYear

private theorem text_le_eq {t u : Instant} (ht : t.HasFourDigitYear) (hu : u.HasFourDigitYear) :
    (Scalar.text t.toStored).le (.text u.toStored) = decide (t ≤ u) := by
  simp only [Scalar.le, Instant.toStored_le_iff ht hu]

/-- The database orders the rows of such saved searches as they are listed, and settles the ties. -/
theorem savedInOrder_toStored (ha : a.HasFourDigitYears) (hb : b.HasFourDigitYears) :
    Database.savedInOrder a.toStored b.toStored = inFullOrder a b := by
  have hcreated := text_le_eq hb.createdAt ha.createdAt
  have hpins : ∀ p q : Bool, (Scalar.integer (if p then 1 else 0)).same (.integer (if q then 1 else 0)) = (p == q) ∧
      (Scalar.integer (if q then 1 else 0)).le (.integer (if p then 1 else 0)) = (p || !q) := by decide
  obtain ⟨hsame, hle⟩ := hpins a.isPinned b.isPinned
  simp only [Database.savedInOrder, toStored, hsame, hle, hcreated]
  unfold inFullOrder inOrder
  cases hused : a.lastUsedAt with
  | none =>
    cases hused' : b.lastUsedAt with
    | none => cases a.isPinned <;> cases b.isPinned <;> simp
    | some t => cases a.isPinned <;> cases b.isPinned <;> simp
  | some s =>
    cases hused' : b.lastUsedAt with
    | none => cases a.isPinned <;> cases b.isPinned <;> simp
    | some t =>
      have hs := ha.lastUsedAt s hused
      have ht := hb.lastUsedAt t hused'
      simp only [Option.map_some, Scalar.same, text_le_eq hs ht, text_le_eq ht hs]
      cases a.isPinned <;> cases b.isPinned <;> by_cases hst : s ≤ t <;> by_cases hts : t ≤ s <;> simp [hst, hts]

end

/-! ### What is listed -/

/-- A list has the saved searches that were found in the order in which they are listed. -/
structure ListedFrom (found listed : List SavedSearch) : Prop where
  perm : listed.Perm found
  pinnedFirst : listed.Pairwise fun a b => b.isPinned = true → a.isPinned = true
  /-- What has been used stands behind nothing that has not been used since. -/
  usedLastFirst : listed.Pairwise fun a b => a.isPinned = b.isPinned → ∀ t ∈ b.lastUsedAt, ∃ s ∈ a.lastUsedAt, t ≤ s
  /-- What is alike in both respects stands as it was found. -/
  ties : ∀ (isPinned : Bool) (lastUsedAt : Option Instant),
    listed.filter (fun s => s.isPinned = isPinned ∧ s.lastUsedAt = lastUsedAt) =
      found.filter fun s => s.isPinned = isPinned ∧ s.lastUsedAt = lastUsedAt

private theorem listedFrom_mergeSort (found : List SavedSearch) : ListedFrom found (found.mergeSort inOrder) := by
  have hsorted := List.pairwise_mergeSort inOrder_trans inOrder_total found
  constructor
  case perm => exact List.mergeSort_perm found inOrder
  case pinnedFirst => exact hsorted.imp fun h => (inOrder_iff.1 h).1
  case usedLastFirst => exact hsorted.imp fun h => (inOrder_iff.1 h).2
  case ties =>
    intro isPinned lastUsedAt
    refine Merging.filter_mergeSort inOrder_trans inOrder_total (fun a b ha hb => ?_) found
    obtain ⟨hpinned, hused⟩ := of_decide_eq_true ha
    obtain ⟨hpinned', hused'⟩ := of_decide_eq_true hb
    exact (inOrder_both_iff.2 ⟨hpinned.trans hpinned'.symm, hused.trans hused'.symm⟩).1

/-- A list is what a store has found, sorted. -/
private theorem run_list {σ : Type} {store : Store σ} {s s' : σ} {userId : String} {found : List SavedSearch}
    (h : store (.listSavedSearches userId) s = (.ok found, s')) :
    (list userId).run.run store s = (.ok (found.mergeSort inOrder), s') := by
  have hask : (ask (.listSavedSearches userId)).run.run store s = (.ok found, s') := h
  rw [list, Program.run_bind, hask]
  rfl

end SavedSearch

/-! ### Lists from a database -/

namespace Database

open SavedSearch (HasFourDigitYears ListedFrom ofRow toStored)

variable {db : Database} {userId : String}

/-- Every row of a user is that of a saved search whose times have years of four digits. -/
def Recorded (db : Database) (userId : String) : Prop :=
  ∀ row ∈ db.savedOf userId, ∃ s : SavedSearch, s.HasFourDigitYears ∧ s.toStored = row

/-- The saved searches of a user are listed as the database has them, and of those that tie the newest comes first. -/
def ListedAsFound (db : Database) (userId : String) : Prop :=
  ∃ records found : List SavedSearch, (db.savedOf userId).mapM ofRow = .ok records ∧ found.Perm records ∧
    db.listSavedSearches userId = .ok found ∧ (SavedSearch.list userId).run.run answer db = (.ok found, db) ∧
    ListedFrom found found ∧
    found.Pairwise fun a b => a.isPinned = b.isPinned → a.lastUsedAt = b.lastUsedAt → b.createdAt ≤ a.createdAt

private theorem Recorded.exists_shelf (h : db.Recorded userId) :
    ∃ shelf : List SavedSearch, db.savedOf userId = shelf.map toStored ∧ ∀ s ∈ shelf, s.HasFourDigitYears := by
  have hrange : db.savedOf userId ∈ Set.range (List.map fun s : { s // HasFourDigitYears s } => s.val.toStored) := by
    rw [Set.range_list_map]
    intro row hrow
    obtain ⟨s, hs, hstored⟩ := h row hrow
    exact ⟨⟨s, hs⟩, hstored⟩
  obtain ⟨shelf, hshelf⟩ := hrange
  refine ⟨shelf.map (·.val), ?_, fun s hs => ?_⟩
  · rw [List.map_map]
    exact hshelf.symm
  · obtain ⟨t, -, rfl⟩ := List.mem_map.1 hs
    exact t.property

/-- The rows of such saved searches are found in the finer order. -/
private theorem listSavedSearches_eq {shelf : List SavedSearch} (hshelf : db.savedOf userId = shelf.map toStored)
    (hyears : ∀ s ∈ shelf, s.HasFourDigitYears) :
    db.listSavedSearches userId = .ok (shelf.mergeSort SavedSearch.inFullOrder) := by
  have hsort : (shelf.mergeSort SavedSearch.inFullOrder).map toStored = (db.savedOf userId).mergeSort savedInOrder := by
    rw [hshelf]
    exact List.map_mergeSort fun a ha b hb => (SavedSearch.savedInOrder_toStored (hyears a ha) (hyears b hb)).symm
  have hrows : db.listSavedSearches userId = SavedSearch.ofRows ((db.savedOf userId).mergeSort savedInOrder) := rfl
  rw [hrows, ← hsort, SavedSearch.ofRows_eq_ok, SavedSearch.mapM_ofRow_toStored]

theorem Recorded.listedAsFound (h : db.Recorded userId) : db.ListedAsFound userId := by
  obtain ⟨shelf, hshelf, hyears⟩ := h.exists_shelf
  have hrecords : (db.savedOf userId).mapM ofRow = .ok shelf := hshelf ▸ SavedSearch.mapM_ofRow_toStored shelf
  have hfound := listSavedSearches_eq hshelf hyears
  have hlist : (SavedSearch.list userId).run.run answer db = (.ok _, db) := SavedSearch.run_list (by rw [answer, hfound])
  have hlisted := SavedSearch.listedFrom_mergeSort (shelf.mergeSort SavedSearch.inFullOrder)
  rw [SavedSearch.mergeSort_inFullOrder] at hlist hlisted
  refine ⟨shelf, _, hrecords, List.mergeSort_perm _ _, hfound, hlist, hlisted, ?_⟩
  refine (SavedSearch.pairwise_inFullOrder shelf).imp fun hab hpinned hused => ?_
  have hback := (SavedSearch.inOrder_both_iff.2 ⟨hpinned, hused⟩).2
  exact (SavedSearch.inFullOrder_iff.1 hab).2 hback

/-! ### What calls leave -/

namespace Recorded

variable {s : SavedSearch} {id : Uuid} (h : db.Recorded userId)

include h

private theorem hasFourDigitYears (howned : db.Owned id userId s) : s.HasFourDigitYears := by
  obtain ⟨row, -, hrow, -, huser, hread⟩ := howned.exists_row
  obtain ⟨t, ht, rfl⟩ := h row (mem_savedOf.2 ⟨hrow, huser⟩)
  rw [t.ofRow_toStored] at hread
  obtain rfl := Except.ok.inj hread
  exact ht

private theorem pushSaved (hs : s.HasFourDigitYears) : (db.pushSaved s).Recorded userId := by
  intro row hrow
  obtain ⟨hrow, huser⟩ := mem_savedOf.1 hrow
  rw [toList_pushSaved] at hrow
  rcases List.mem_append.1 hrow with hrow | hrow
  · exact h row (mem_savedOf.2 ⟨hrow, huser⟩)
  · exact ⟨s, hs, (List.mem_singleton.1 hrow).symm⟩

private theorem eraseSaved (id : Uuid) : (db.eraseSaved id).Recorded userId := by
  intro row hrow
  obtain ⟨hrow, huser⟩ := mem_savedOf.1 hrow
  rw [toList_eraseSaved] at hrow
  exact h row (mem_savedOf.2 ⟨List.mem_of_mem_filter hrow, huser⟩)

private theorem updateSavedSearch (hs : ∀ t ∈ s.lastUsedAt, t.HasFourDigitYear) :
    (db.updateSavedSearch s).Recorded userId := by
  intro row hrow
  obtain ⟨hrow, huser⟩ := mem_savedOf.1 hrow
  rw [toList_updateSavedSearch] at hrow
  obtain ⟨old, hold, rfl⟩ := List.mem_map.1 hrow
  rw [(origin_overwrite s old).1] at huser
  obtain ⟨t, ht, rfl⟩ := h old (mem_savedOf.2 ⟨hold, huser⟩)
  unfold overwrite
  split
  · -- the owner and the time of creation are those of the row that was there
    exact ⟨{ s with userId := t.userId, createdAt := t.createdAt }, ⟨ht.createdAt, hs⟩, rfl⟩
  · exact ⟨t, ht, rfl⟩

end Recorded

end Database

namespace SavedSearch

namespace Command

variable {db db' : Database} {c : Command} {outcome : Except Error c.Answer} {userId : String}

private theorem Effect.recorded (heffect : Effect db c outcome db') (hkeyed : db.SavedKeyed) (h : db.Recorded userId)
    (htime : c.caller = userId → ∀ t ∈ c.time?, t.HasFourDigitYear) : db'.Recorded userId := by
  by_cases hcaller : c.caller = userId
  · subst hcaller
    cases heffect with
    | failed | listed _ | got _ | uncounted _ _ => exact h
    | saved now _ _ => exact h.pushSaved ⟨htime rfl now rfl, fun _ ht => by cases ht⟩
    | updated howned _ _ => exact h.updateSavedSearch (h.hasFourDigitYears howned).lastUsedAt
    | deleted _ => exact h.eraseSaved _
    | @used id caller old new howned now hused =>
      refine h.updateSavedSearch fun t ht => ?_
      obtain rfl := used?_eq_some hused
      obtain rfl := Option.some.inj ht
      exact htime rfl now rfl
  · rw [Database.Recorded, heffect.savedOf_eq hkeyed hcaller]
    exact h

private theorem recorded_runAll (fault : Nat → Option Error) {s : Nat × Database} (hkeyed : s.2.SavedKeyed)
    (h : s.2.Recorded userId) {cs : List Command}
    (htimes : ∀ c ∈ cs, c.caller = userId → ∀ t ∈ c.time?, t.HasFourDigitYear) :
    (runAll fault cs s).2.Recorded userId := by
  induction cs generalizing s with
  | nil => exact h
  | cons c cs ih =>
    have heffect := perform_effect fault s c
    have hstep := heffect.recorded hkeyed h (htimes c List.mem_cons_self)
    exact ih (heffect.savedKeyed hkeyed) hstep fun d hd => htimes d (List.mem_cons_of_mem c hd)

end Command

open Database (answer)

/-- Saved searches are listed by a total preorder: the pinned ones first, then those used last, those never used at the
end.  Whatever a store has found comes in that order, and what ties comes as it was found; and so do all saved searches
of a user in a database whose rows can be read.  If the rows have been recorded by calls, at times of the years 0 to
9999, then the list is what the database has found, and of those that tie the one created last comes first. -/
theorem pinned_then_last_used :
    ((∀ a b : SavedSearch, inOrder a b = true ∨ inOrder b a = true) ∧
      (∀ a b c : SavedSearch, inOrder a b = true → inOrder b c = true → inOrder a c = true) ∧
      ∀ a b : SavedSearch, inOrder a b = true ∧ inOrder b a = true ↔
        a.isPinned = b.isPinned ∧ a.lastUsedAt = b.lastUsedAt) ∧
    (∀ {σ : Type} (store : Store σ) (s s' : σ) (userId : String) (found : List SavedSearch),
      store (.listSavedSearches userId) s = (.ok found, s') →
      ∃ listed, (list userId).run.run store s = (.ok listed, s') ∧ ListedFrom found listed) ∧
    (∀ (db : Database) (userId : String), (∀ row ∈ db.savedOf userId, ∃ s, ofRow row = .ok s) →
      ∃ records found listed, (db.savedOf userId).mapM ofRow = .ok records ∧
        db.listSavedSearches userId = .ok found ∧ found.Perm records ∧
        (list userId).run.run answer db = (.ok listed, db) ∧ ListedFrom found listed) ∧
    ∀ (fault : Nat → Option Error) (s : Nat × Database) (userId : String), s.2.SavedKeyed → s.2.Recorded userId →
      ∀ cs : List Command, (∀ c ∈ cs, c.caller = userId → ∀ t ∈ c.time?, t.HasFourDigitYear) →
      (Command.runAll fault cs s).2.ListedAsFound userId := by
  refine ⟨⟨fun a b => ?_, inOrder_trans, fun a b => inOrder_both_iff⟩, fun store s s' userId found h => ?_,
    fun db userId hread => ?_, fun fault s userId hkeyed h cs htimes => ?_⟩
  · exact Bool.or_eq_true .. ▸ inOrder_total a b
  · exact ⟨_, run_list h, listedFrom_mergeSort found⟩
  · obtain ⟨records, hrecords⟩ := Outcome.exists_mapM_ok hread
    obtain ⟨found, hfound, hperm⟩ := Database.exists_listSavedSearches hrecords
    have hlist : (list userId).run.run answer db = (.ok (found.mergeSort inOrder), db) :=
      run_list (by rw [answer, hfound])
    exact ⟨records, found, _, hrecords, hfound, hperm, hlist, listedFrom_mergeSort found⟩
  · exact (Command.recorded_runAll fault hkeyed h htimes).listedAsFound

private def atNoon : Instant := ⟨1704196800, 0, Instant.epoch.nanos_lt, by decide, by decide, by decide⟩

private def atOne : Instant := ⟨1704200400, 0, Instant.epoch.nanos_lt, by decide, by decide, by decide⟩

private def dailyId : Uuid := ⟨List.replicate 31 (Fin.last 15) ++ [Fin.last 15], rfl⟩

private def weekly : SavedSearch := ofRequest { userId := "ann", name := "weekly", query := "report" } default atNoon

private def daily : SavedSearch := ofRequest { userId := "ann", name := "daily", query := "plan" } dailyId atOne

private def weeklySaved : Command := .save { userId := "ann", name := "weekly", query := "report" } default atNoon

private def dailySaved : Command := .save { userId := "ann", name := "daily", query := "plan" } dailyId atOne

private def weeklyRow : Stored.Saved :=
  { weekly.toStored with lastUsedAt := some (.text "2024-01-02T12:00:00+00:00") }

private def dailyRow : Stored.Saved := { daily.toStored with lastUsedAt := some (.text "2024-01-02 13:00:00") }

private def twoFormats : Database := { saved := ⟨[⟨1, weeklyRow⟩, ⟨2, dailyRow⟩]⟩ }

private theorem eq_swapped {a b : SavedSearch} {l : List SavedSearch} {R : SavedSearch → SavedSearch → Prop}
    (hperm : l.Perm [a, b]) (hsorted : l.Pairwise R) (h : ¬R a b) : l = [b, a] := by
  obtain ⟨x, y, rfl⟩ := List.length_eq_two.1 hperm.length_eq
  have hx : x ∈ [a, b] := hperm.subset List.mem_cons_self
  rcases List.mem_cons.1 hx with rfl | hx
  · obtain rfl := List.singleton_inj.1 (List.perm_singleton.1 ((List.perm_cons x).1 hperm))
    exact absurd (List.pairwise_pair.1 hsorted) h
  · obtain rfl := List.mem_singleton.1 hx
    have hrest := hperm.trans (List.Perm.swap x a [])
    obtain rfl := List.singleton_inj.1 (List.perm_singleton.1 ((List.perm_cons x).1 hrest))
    rfl

/-- Of two times in different formats the text of the earlier one is greater, so the database has it in front, and the
list has it at the end.  Of two searches that Ann has saved the second one is in front. -/
theorem pinned_then_last_used_formats :
    (twoFormats.listSavedSearches "ann" =
          .ok [{ weekly with lastUsedAt := some atNoon }, { daily with lastUsedAt := some atOne }] ∧
        (list "ann").run.run answer twoFormats =
          (.ok [{ daily with lastUsedAt := some atOne }, { weekly with lastUsedAt := some atNoon }], twoFormats)) ∧
      (Command.runAll (fun _ => none) [weeklySaved, dailySaved] (0, {})).2.listSavedSearches "ann" =
        .ok [daily, weekly] := by
  obtain ⟨-, -, hrows, hruns⟩ := pinned_then_last_used
  constructor
  · have hall : twoFormats.savedOf "ann" = [weeklyRow, dailyRow] := rfl
    have hweekly : ofRow weeklyRow = .ok { weekly with lastUsedAt := some atNoon } :=
      weekly.ofRow_toStored_with "ann" (instant?_toStored atNoon) (by decide +kernel)
    have hdaily : ofRow dailyRow = .ok { daily with lastUsedAt := some atOne } :=
      daily.ofRow_toStored_with "ann" (instant?_toStored atOne) (by decide +kernel)
    have hread : ∀ row ∈ twoFormats.savedOf "ann", ∃ s, ofRow row = .ok s := by
      rw [hall, List.forall_mem_cons, List.forall_mem_singleton]
      exact ⟨⟨_, hweekly⟩, ⟨_, hdaily⟩⟩
    have hlist : twoFormats.listSavedSearches "ann" =
        .ok [{ weekly with lastUsedAt := some atNoon }, { daily with lastUsedAt := some atOne }] := by
      have hsorted : (twoFormats.savedOf "ann").mergeSort Database.savedInOrder = [weeklyRow, dailyRow] := by
        rw [hall]
        exact List.mergeSort_of_pairwise (List.pairwise_pair.2 (by decide +kernel))
      rw [Database.savedOf] at hsorted
      rw [Database.listSavedSearches, hsorted, ofRows_eq_ok, List.mapM_cons, hweekly, List.mapM_cons, hdaily]
      rfl
    obtain ⟨records, found, listed, -, hfound, -, hrun, hlisted⟩ := hrows twoFormats "ann" hread
    obtain rfl := Except.ok.inj (hlist.symm.trans hfound)
    refine ⟨hlist, ?_⟩
    rw [hrun, eq_swapped hlisted.perm hlisted.usedLastFirst (by decide)]
  · have hkeyed : ({} : Database).SavedKeyed := List.nodup_nil
    have hnone : ({} : Database).Recorded "ann" := fun row hrow => absurd hrow List.not_mem_nil
    have htimes : ∀ c ∈ [weeklySaved, dailySaved], c.caller = "ann" → ∀ t ∈ c.time?, t.HasFourDigitYear := by
      rw [List.forall_mem_cons, List.forall_mem_singleton]
      constructor
      · rintro - t ⟨⟩
        decide
      · rintro - t ⟨⟩
        decide
    obtain ⟨records, found, hrecords, hperm, hfound, -, -, hcreated⟩ :=
      hruns (fun _ => none) (0, {}) "ann" hkeyed hnone [weeklySaved, dailySaved] htimes
    have hall : (Command.runAll (fun _ => none) [weeklySaved, dailySaved] (0, {})).2.savedOf "ann" =
        [weekly.toStored, daily.toStored] := rfl
    rw [hall, List.mapM_cons, weekly.ofRow_toStored, List.mapM_cons, daily.ofRow_toStored] at hrecords
    obtain rfl := Except.ok.inj hrecords
    rw [hfound, eq_swapped hperm hcreated (by decide)]

end SavedSearch

end WorkspaceSearch
