import WorkspaceSearch.Proofs.Database.Shelf
import WorkspaceSearch.Proofs.SavedSearch.Keeping
import WorkspaceSearch.Proofs.Text.Collapsed

/-!
# The life of a saved search

What some calls came to (`Command.Report`) tells who saved a saved search and when, and when it has been used since
(`Command.Life.told`).  What is stored after a run of calls agrees with that: every record has led the life that is told
of it, and a user's list holds the records of which a life is told, each of them once (`Command.run_lives`).
-/

namespace WorkspaceSearch.SavedSearch.Command

open Database (replaced)

/-- A call and what it came to. -/
structure Report where
  call : Command
  outcome : Except Error call.Answer

/-- What some calls come to, one after the other. -/
def outcomes (fault : Nat → Option Error) : List Command → Nat × Database → List Report
  | [], _ => []
  | c :: cs, s => ⟨c, (c.perform fault s).1⟩ :: outcomes fault cs (c.perform fault s).2

/-- The time that a call is given. -/
def time? : Command → Option Instant
  | .save _ _ now | .update _ _ _ now | .markUsed _ _ now => some now
  | .list _ | .get .. | .delete .. => none

/-- The times that some calls were given. -/
def times (log : List Report) : List Instant := log.filterMap fun r => r.call.time?

/-- What is told of a saved search that has not been deleted. -/
structure Life where
  owner : String
  savedAt : Instant
  /-- The times of its uses, the last one at the end. -/
  uses : List Instant := []

namespace Life

/-- What is told of the saved search with an identifier after one more call. -/
def next (id : Uuid) (life : Option Life) : Report → Option Life
  | ⟨.save r new now, .ok _⟩ => if new = id then some { owner := r.userId, savedAt := now } else life
  | ⟨.delete gone _, .ok _⟩ => if gone = id then none else life
  | ⟨.markUsed used _ now, .ok (some _)⟩ =>
    if used = id then life.map fun l => { l with uses := l.uses ++ [now] } else life
  | _ => life

/-- What some calls tell of the saved search with an identifier. -/
def told (id : Uuid) (log : List Report) : Option Life := log.foldl (next id) none

/-- A saved search is as its life has made it. -/
structure Leads (life : Life) (s : SavedSearch) : Prop where
  owner : s.userId = life.owner
  createdAt : s.createdAt = life.savedAt
  named : s.name ≠ ""
  trimmed : Text.trim s.name = s.name
  usageCount : s.usageCount = life.uses.length
  lastUsedAt : s.lastUsedAt = life.uses.getLast?
  unused : s.lastUsedAt = none ↔ s.usageCount = 0
  created_le : s.createdAt ≤ s.updatedAt
  lastUsed_le : ∀ t ∈ s.lastUsedAt, t ≤ s.updatedAt

section

variable {id : Uuid} {log : List Report} {life : Life}

private theorem told_snoc (id : Uuid) (log : List Report) (r : Report) :
    told id (log ++ [r]) = next id (told id log) r := by
  rw [told, List.foldl_append]
  rfl

/-- A call tells of at most one more use. -/
private theorem length_uses_next {before : Option Life} {r : Report} (h : next id before r = some life) :
    ∀ n, (∀ l ∈ before, l.uses.length ≤ n) → life.uses.length ≤ n + 1 := by
  intro n hn
  have hsame : before = some life → life.uses.length ≤ n + 1 := fun heq =>
    Nat.le_succ_of_le (hn life heq)
  unfold next at h
  split at h
  · split at h
    · obtain rfl := Option.some.inj h
      exact Nat.zero_le _
    · exact hsame h
  · split at h
    · cases h
    · exact hsame h
  · split at h
    · obtain ⟨l, hl, rfl⟩ := Option.map_eq_some_iff.1 h
      have hlength := hn l hl
      simp only [List.length_append, List.length_singleton]
      omega
    · exact hsame h
  · exact hsame h

private theorem length_uses_le (h : told id log = some life) : life.uses.length ≤ log.length := by
  induction log using List.reverseRecOn generalizing life with
  | nil => cases h
  | append_singleton log r ih =>
    rw [told_snoc] at h
    rw [List.length_append]
    exact length_uses_next h log.length fun l hl => ih hl

end

/-! ### What keeps to a life -/

variable {life : Life} {s : SavedSearch}

private theorem leads_ofRequest (r : SaveRequest) (id : Uuid) (now : Instant) (hname : Text.isBlank r.name = false) :
    Leads { owner := r.userId, savedAt := now } (ofRequest { r with name := Text.trim r.name } id now) where
  owner := rfl
  createdAt := rfl
  named := Text.trim_ne_empty hname
  trimmed := Text.trim_trim r.name
  usageCount := rfl
  lastUsedAt := rfl
  unused := by simp [ofRequest]
  created_le := Instant.le_refl now
  lastUsed_le := by simp [ofRequest]

private theorem Leads.updated (h : life.Leads s) {u : SavedUpdate} {name : String} (hname : s.updatedName u = .ok name)
    {now : Instant} (hnow : s.updatedAt ≤ now) : life.Leads (s.updated u name now) := by
  obtain ⟨hblank, rfl⟩ := updatedName_eq_ok.1 hname
  constructor
  case owner => exact h.owner
  case createdAt => exact h.createdAt
  case named =>
    cases hu : u.name with
    | none => exact h.named
    | some name => exact Text.trim_ne_empty (hblank name hu)
  case trimmed =>
    cases hu : u.name with
    | none => exact h.trimmed
    | some name => exact Text.trim_trim name
  case usageCount => exact h.usageCount
  case lastUsedAt => exact h.lastUsedAt
  case unused => exact h.unused
  case created_le => exact Instant.le_trans h.created_le hnow
  case lastUsed_le => exact fun t ht => Instant.le_trans (h.lastUsed_le t ht) hnow

private theorem Leads.used (h : life.Leads s) {new : SavedSearch} {now : Instant} (hused : s.used? now = some new)
    (hnow : s.updatedAt ≤ now) : Leads { life with uses := life.uses ++ [now] } new := by
  obtain rfl := used?_eq_some hused
  have hcount := h.usageCount
  constructor
  case owner => exact h.owner
  case createdAt => exact h.createdAt
  case named => exact h.named
  case trimmed => exact h.trimmed
  case usageCount =>
    simp only [List.length_append, List.length_singleton]
    omega
  case lastUsedAt => simp
  case unused =>
    simp only [reduceCtorEq, false_iff]
    omega
  case created_le => exact Instant.le_trans h.created_le hnow
  case lastUsed_le =>
    rintro t ⟨⟩
    exact Instant.le_refl now

end Life

/-! ### The records after some calls -/

/-- The saved searches that there are have led the lives that are told. -/
structure Kept (log : List Report) (shelf : List SavedSearch) : Prop where
  nodup : (shelf.map (·.id)).Nodup
  led : ∀ id, Option.Rel Life.Leads (Life.told id log) (shelf.find? (·.id = id))
  dated : ∀ s ∈ shelf, s.updatedAt ∈ times log

private theorem mem_times_snoc {log : List Report} {r : Report} {t : Instant} :
    t ∈ times (log ++ [r]) ↔ t ∈ times log ∨ r.call.time? = some t := by
  simp [times, List.filterMap_append]

namespace Kept

variable {log : List Report} {shelf : List SavedSearch} {r : Report} (h : Kept log shelf)

include h

private theorem exists_life {s : SavedSearch} (hs : s ∈ shelf) :
    ∃ life, Life.told s.id log = some life ∧ life.Leads s := by
  have hled := h.led s.id
  rw [(Database.find?_id_iff h.nodup).2 ⟨hs, rfl⟩] at hled
  cases htold : Life.told s.id log with
  | none =>
    rw [htold] at hled
    cases hled
  | some life =>
    rw [htold] at hled
    cases hled with
    | some hlife => exact ⟨life, rfl, hlife⟩

private theorem exists_record {id : Uuid} {life : Life} (htold : Life.told id log = some life) :
    ∃ s ∈ shelf, s.id = id ∧ life.Leads s := by
  have hled := h.led id
  rw [htold] at hled
  cases hfound : shelf.find? (·.id = id) with
  | none =>
    rw [hfound] at hled
    cases hled
  | some s =>
    rw [hfound] at hled
    cases hled with
    | some hlife =>
      obtain ⟨hs, hid⟩ := (Database.find?_id_iff h.nodup).1 hfound
      exact ⟨s, hs, hid, hlife⟩

private theorem of_told_eq (htold : ∀ id, Life.told id (log ++ [r]) = Life.told id log) : Kept (log ++ [r]) shelf where
  nodup := h.nodup
  led id := htold id ▸ h.led id
  dated s hs := mem_times_snoc.2 (.inl (h.dated s hs))

private theorem push {new : SavedSearch} {life : Life} (hnew : new.id ∉ shelf.map (·.id)) (hlife : life.Leads new)
    (htime : r.call.time? = some new.updatedAt)
    (htold : ∀ id, Life.told id (log ++ [r]) = if new.id = id then some life else Life.told id log) :
    Kept (log ++ [r]) (shelf ++ [new]) where
  nodup := by
    rw [List.map_append, List.map_singleton, List.nodup_append_comm]
    exact List.nodup_cons.2 ⟨hnew, h.nodup⟩
  led id := by
    rw [htold, List.find?_append]
    by_cases hid : new.id = id
    · have hnone : shelf.find? (·.id = id) = none := by
        rw [List.find?_eq_none]
        intro s hs heq
        exact hnew (List.mem_map.2 ⟨s, hs, (of_decide_eq_true heq).trans hid.symm⟩)
      rw [if_pos hid, hnone, List.find?_cons_of_pos (by simpa using hid)]
      exact .some hlife
    · rw [if_neg hid, List.find?_cons_of_neg (by simpa using hid), List.find?_nil, Option.or_none]
      exact h.led id
  dated s hs := by
    rw [mem_times_snoc]
    rcases List.mem_append.1 hs with hs | hs
    · exact .inl (h.dated s hs)
    · exact .inr (List.mem_singleton.1 hs ▸ htime)

private theorem erase (gone : Uuid)
    (htold : ∀ id, Life.told id (log ++ [r]) = if gone = id then none else Life.told id log) :
    Kept (log ++ [r]) (shelf.filter (·.id ≠ gone)) where
  nodup := h.nodup.sublist (List.filter_sublist.map _)
  led id := by
    rw [htold, Database.find?_filter_ne]
    split
    · exact .none
    · exact h.led id
  dated s hs := mem_times_snoc.2 (.inl (h.dated s (List.mem_of_mem_filter hs)))

/-- The life of a saved search goes on when it is replaced. -/
private theorem replace {old new : SavedSearch} (hold : old ∈ shelf) (hid : new.id = old.id) {f : Life → Life}
    (hlife : ∀ life, life.Leads old → (f life).Leads new) (htime : r.call.time? = some new.updatedAt)
    (htold : ∀ id, Life.told id (log ++ [r]) =
      if old.id = id then (Life.told id log).map f else Life.told id log) :
    Kept (log ++ [r]) (shelf.map (replaced new)) where
  nodup := by
    rw [List.map_map]
    simpa only [Function.comp_def, Database.id_replaced] using h.nodup
  led id := by
    have hled := h.led id
    rw [htold, Database.find?_map_replaced]
    cases hfound : shelf.find? (·.id = id) with
    | none =>
      rw [hfound] at hled
      cases htold : Life.told id log with
      | some life =>
        rw [htold] at hled
        cases hled
      | none => simp
    | some s =>
      rw [hfound] at hled
      -- identifiers are unique, so a record with the identifier of the old one is the old one
      obtain ⟨hs, hsid⟩ := (Database.find?_id_iff h.nodup).1 hfound
      cases htold : Life.told id log with
      | none =>
        rw [htold] at hled
        cases hled
      | some life =>
        rw [htold] at hled
        cases hled with
        | some hled =>
        by_cases hself : old.id = id
        · obtain rfl := List.inj_on_of_nodup_map h.nodup hs hold (hsid.trans hself.symm)
          rw [if_pos hself, Option.map_some, Option.map_some, replaced, if_pos hid.symm]
          exact .some (hlife life hled)
        · have hother : s.id ≠ new.id := fun heq => hself (hid.symm.trans (heq.symm.trans hsid))
          rw [if_neg hself, Option.map_some, replaced, if_neg hother]
          exact .some hled
  dated s hs := by
    obtain ⟨t, ht, rfl⟩ := List.mem_map.1 hs
    rw [mem_times_snoc, replaced]
    split
    · exact .inr htime
    · exact .inl (h.dated t ht)

end Kept

section

variable {log : List Report} {shelf : List SavedSearch} {db db' : Database} {c : Command}
  {outcome : Except Error c.Answer}

/-- What is kept before a call that comes later than all before it is kept after it. -/
private theorem Effect.kept (heffect : Effect db c outcome db') (hshelves : db.Shelves shelf) (h : Kept log shelf)
    (hlater : ∀ t ∈ times log, ∀ now ∈ c.time?, t ≤ now) :
    ∃ shelf', db'.Shelves shelf' ∧ Kept (log ++ [⟨c, outcome⟩]) shelf' := by
  cases heffect with
  | failed c e =>
    refine ⟨shelf, hshelves, h.of_told_eq fun id => ?_⟩
    rw [Life.told_snoc]
    cases c <;> rfl
  | @saved r id now name hname hnew =>
    obtain ⟨hblank, rfl⟩ := checkName_eq_ok.1 hname
    have hlife := Life.leads_ofRequest r id now hblank
    refine ⟨_, hshelves.pushSaved _, h.push (hshelves.savedRow?_eq_none.1 hnew) hlife rfl fun id' => ?_⟩
    rw [Life.told_snoc]
    rfl
  | listed hfound => exact ⟨shelf, hshelves, h.of_told_eq fun id => Life.told_snoc id log _⟩
  | got howned => exact ⟨shelf, hshelves, h.of_told_eq fun id => Life.told_snoc id log _⟩
  -- an update tells nothing of uses, so the life goes on as it is
  | @updated id caller old howned u now name hname =>
    obtain ⟨hold, hid⟩ := (hshelves.getSavedSearch_iff h.nodup).1 howned.1
    refine ⟨_, hshelves.updateSavedSearch fun s hs hsid => ?_, h.replace hold rfl (f := fun life => life)
      (fun life hlife => ?_) rfl fun id' => ?_⟩
    · rw [List.inj_on_of_nodup_map h.nodup hs hold hsid]
      exact ⟨rfl, rfl⟩
    · exact hlife.updated hname (hlater _ (h.dated old hold) now rfl)
    · rw [Life.told_snoc, Option.map_id', ite_self]
      rfl
  | @deleted id caller old howned =>
    refine ⟨_, hshelves.eraseSaved id, h.erase id fun id' => ?_⟩
    rw [Life.told_snoc]
    rfl
  | @used id caller old new howned now hused =>
    obtain ⟨hold, hid⟩ := (hshelves.getSavedSearch_iff h.nodup).1 howned.1
    have hnew := used?_eq_some hused
    refine ⟨_, hshelves.updateSavedSearch fun s hs hsid => ?_, h.replace hold (by rw [hnew])
      (f := fun life => { life with uses := life.uses ++ [now] }) (fun life hlife => ?_) (by rw [hnew]; rfl)
      fun id' => ?_⟩
    · have hsame := List.inj_on_of_nodup_map h.nodup hs hold (hsid.trans (by rw [hnew]))
      rw [hsame, hnew]
      exact ⟨rfl, rfl⟩
    · exact hlife.used hused (hlater _ (h.dated old hold) now rfl)
    · rw [Life.told_snoc, hid]
      rfl
  | uncounted howned hused => exact ⟨shelf, hshelves, h.of_told_eq fun id => Life.told_snoc id log _⟩

/-- While there have been few calls, a use can be counted. -/
private theorem Kept.countable (h : Kept log shelf) (hshelves : db.Shelves shelf)
    (hfew : (log.length : Int) < greatestCount)
    {id : Uuid} {caller : String} {now : Instant} : ¬Effect db (.markUsed id caller now) (.ok none) db' := by
  intro heffect
  cases heffect with
  | @uncounted _ _ old howned _ hused =>
    obtain ⟨hold, hid⟩ := (hshelves.getSavedSearch_iff h.nodup).1 howned.1
    obtain ⟨life, htold, hlife⟩ := h.exists_life hold
    have huses := Life.length_uses_le htold
    have hcount := hlife.usageCount
    have hgreat := used?_eq_none hused
    omega

/-- A list holds the records of which a life with the user as owner is told. -/
private theorem Kept.listed (h : Kept log shelf) (hshelves : db.Shelves shelf) {fault : Nat → Option Error} {n : Nat}
    (hfault : fault n = none) (userId : String) :
    ∃ found, ((Command.list userId).perform fault (n, db)).1 = .ok found ∧ (found.map (·.id)).Nodup ∧
      (∀ s ∈ found, db.getSavedSearch s.id = .ok (some s)) ∧
      ∀ id, id ∈ found.map (·.id) ↔ ∃ life, Life.told id log = some life ∧ life.owner = userId := by
  obtain ⟨found, hfound, hperm⟩ := hshelves.exists_listSavedSearches userId
  have hsorted : (found.mergeSort inOrder).Perm (shelf.filter (·.userId = userId)) :=
    (List.mergeSort_perm found inOrder).trans hperm
  have hmem : ∀ s, s ∈ found.mergeSort inOrder ↔ s ∈ shelf ∧ s.userId = userId := by
    intro s
    rw [hsorted.mem_iff, List.mem_filter, decide_eq_true_eq]
  refine ⟨found.mergeSort inOrder, ?_, ?_, fun s hs => ?_, fun id => ?_⟩
  · rw [perform, action, SavedSearch.list, Program.run_bind, run_ask_of_none hfault, Database.answer, hfound]
    rfl
  · exact (hsorted.map _).nodup_iff.2 (h.nodup.sublist (List.filter_sublist.map _))
  · exact (hshelves.getSavedSearch_iff h.nodup).2 ⟨((hmem s).1 hs).1, rfl⟩
  · rw [List.mem_map]
    constructor
    · rintro ⟨s, hs, rfl⟩
      obtain ⟨hs, huser⟩ := (hmem s).1 hs
      obtain ⟨life, htold, hlife⟩ := h.exists_life hs
      exact ⟨life, htold, hlife.owner.symm.trans huser⟩
    · rintro ⟨life, htold, howner⟩
      obtain ⟨s, hs, hid, hlife⟩ := h.exists_record htold
      exact ⟨s, (hmem s).2 ⟨hs, hlife.owner.trans howner⟩, hid⟩

end

/-! ### Runs -/

/-- What is kept before some calls is kept after them, when each is given a time no earlier than those before. -/
private theorem kept_runAll (fault : Nat → Option Error) (cs : List Command) {s : Nat × Database} {log : List Report}
    {shelf : List SavedSearch} (hshelves : s.2.Shelves shelf) (h : Kept log shelf)
    (hclock : (times log ++ cs.filterMap time?).Pairwise (· ≤ ·)) :
    (∃ shelf', (runAll fault cs s).2.Shelves shelf' ∧ Kept (log ++ outcomes fault cs s) shelf') ∧
      ((log.length + cs.length : Int) ≤ greatestCount → ∀ id caller now,
        ⟨.markUsed id caller now, .ok none⟩ ∉ outcomes fault cs s) := by
  induction cs generalizing s log shelf with
  | nil => exact ⟨⟨shelf, hshelves, by simpa [outcomes] using h⟩, fun _ _ _ _ hr => by cases hr⟩
  | cons c cs ih =>
    -- the clock of the whole run says that the next call comes later than all before it
    have hlater : ∀ t ∈ times log, ∀ now ∈ c.time?, t ≤ now := fun t ht now hnow =>
      (List.pairwise_append.1 hclock).2.2 t ht now (List.mem_filterMap.2 ⟨c, List.mem_cons_self, hnow⟩)
    have heffect := perform_effect fault s c
    obtain ⟨next, hnext, hkept⟩ := heffect.kept hshelves h hlater
    have htimes : times (log ++ [⟨c, (c.perform fault s).1⟩]) ++ cs.filterMap time? =
        times log ++ (c :: cs).filterMap time? := by
      rw [times, List.filterMap_append, List.append_assoc]
      cases htime : c.time? <;> simp [htime, times]
    obtain ⟨⟨last, hlast, hall⟩, hcounted⟩ := ih hnext hkept (htimes ▸ hclock)
    refine ⟨⟨last, hlast, ?_⟩, fun hfew id caller now hr => ?_⟩
    · rw [outcomes, List.append_cons]
      exact hall
    · rw [List.length_cons] at hfew
      rcases List.mem_cons.1 hr with hr | hr
      · cases c with
        | markUsed id' caller' now' =>
          obtain ⟨⟨⟩, houtcome⟩ := Report.mk.inj hr
          rw [← eq_of_heq houtcome] at heffect
          exact h.countable hshelves (by omega) heffect
        | _ => cases (Report.mk.inj hr).1
      · rw [List.length_append, List.length_singleton] at hcounted
        exact hcounted (by omega) id caller now hr

/-- What is stored agrees with what some calls tell. -/
structure Lives (log : List Report) (db : Database) : Prop where
  /-- The table holds saved searches with different identifiers, and each has led the life that is told of it. -/
  stored : ∃ shelf, db.Shelves shelf ∧ (shelf.map (·.id)).Nodup ∧
    ∀ s ∈ shelf, ∃ life, Life.told s.id log = some life ∧ life.Leads s
  /-- A user's list holds the stored records of which it is told that the user has saved them, each once. -/
  listed : ∀ (fault : Nat → Option Error) (n : Nat) (userId : String), fault n = none →
    ∃ found, ((Command.list userId).perform fault (n, db)).1 = .ok found ∧ (found.map (·.id)).Nodup ∧
      (∀ s ∈ found, db.getSavedSearch s.id = .ok (some s)) ∧
      ∀ id, id ∈ found.map (·.id) ↔ ∃ life, Life.told id log = some life ∧ life.owner = userId

/-- After any calls on an empty table, whatever the database has failed to answer, what is stored agrees with what the
calls tell; and every use of a saved search that is stored has been counted. -/
theorem run_lives (fault : Nat → Option Error) (n : Nat) {db : Database} (hempty : db.saved.toList = [])
    {cs : List Command} (hclock : (cs.filterMap time?).Pairwise (· ≤ ·)) :
    Lives (outcomes fault cs (n, db)) (runAll fault cs (n, db)).2 ∧
      ((cs.length : Int) ≤ greatestCount → ∀ id caller now,
        ⟨.markUsed id caller now, .ok none⟩ ∉ outcomes fault cs (n, db)) := by
  have hstart : Kept [] [] := ⟨List.nodup_nil, fun _ => .none, fun _ hs => absurd hs List.not_mem_nil⟩
  have hshelves : (n, db).2.Shelves [] := hempty
  obtain ⟨⟨shelf, hshelves, hkept⟩, hcounted⟩ := kept_runAll fault cs hshelves hstart hclock
  refine ⟨⟨⟨shelf, hshelves, hkept.nodup, fun s hs => hkept.exists_life hs⟩, fun fault' n' userId hfault => ?_⟩,
    fun hfew => hcounted (by simpa using hfew)⟩
  exact hkept.listed hshelves hfault userId

private def faultless : Nat → Option Error := fun _ => none

private def saveWeekly : Command := .save { userId := "ann", name := " weekly ", query := "report" } default .epoch

private def useWeekly : Command := .markUsed default "ann" .epoch

/-- A search that is saved and then used once, at the same time. -/
theorem run_lives_used_once :
    ({} : Database).saved.toList = [] ∧ ([saveWeekly, useWeekly].filterMap time?).Pairwise (· ≤ ·) ∧
      ([saveWeekly, useWeekly].length : Int) ≤ greatestCount ∧
      ∃ s, (runAll faultless [saveWeekly, useWeekly] (0, {})).2.getSavedSearch default = .ok (some s) ∧
        s.usageCount = 1 ∧ s.lastUsedAt = some .epoch := by
  have hclock : ([saveWeekly, useWeekly].filterMap time?).Pairwise (· ≤ ·) := by
    simp [saveWeekly, useWeekly, time?, Instant.le_refl]
  have hfew : ([saveWeekly, useWeekly].length : Int) ≤ greatestCount := by decide
  refine ⟨rfl, hclock, hfew, ?_⟩
  have hempty : ({} : Database).saved.toList = [] := rfl
  obtain ⟨hlives, hcounted⟩ := run_lives faultless 0 hempty hclock
  obtain ⟨shelf, hshelves, hnodup, hled⟩ := hlives.stored
  have hfaultless : ∀ n, faultless n = none := fun _ => rfl
  have hallowed : saveWeekly.Allowed (0, ({} : Database)).2 := ⟨by decide, rfl⟩
  have hsave := perform_effect faultless (0, {}) saveWeekly
  obtain ⟨saved, hsaved⟩ := exists_perform_eq_ok hallowed (hfaultless _) (hfaultless _)
  rw [runAll, List.foldl_cons, List.foldl_cons, List.foldl_nil] at hshelves ⊢
  rw [outcomes, outcomes, outcomes] at hled hcounted
  -- from here on it does not matter what the calls do with the database
  generalize saveWeekly.perform faultless (0, {}) = first at *
  obtain ⟨outcome, first⟩ := first
  obtain rfl : outcome = Except.ok saved := hsaved
  obtain ⟨hrecord, hstored, -⟩ := hsave.done
  have howner : saved.userId = "ann" := congrArg SavedSearch.userId hrecord
  have huse := perform_effect faultless first useWeekly
  have howned : useWeekly.Allowed first.2 := ⟨saved, hstored, howner⟩
  obtain ⟨used, hused⟩ := exists_perform_eq_ok howned (hfaultless _) (hfaultless _)
  generalize useWeekly.perform faultless first = second at *
  obtain ⟨outcome, second⟩ := second
  obtain rfl : outcome = Except.ok used := hused
  cases used with
  | none =>
    refine absurd ?_ (hcounted hfew default "ann" .epoch)
    exact List.mem_cons_of_mem _ List.mem_cons_self
  | some new =>
    obtain ⟨-, -, hnew, -⟩ := huse.done
    obtain ⟨hmem, hid⟩ := (hshelves.getSavedSearch_iff hnodup).1 hnew
    obtain ⟨life, htold, hlife⟩ := hled new hmem
    rw [hid] at htold
    obtain rfl := Option.some.inj htold
    exact ⟨new, hnew, hlife.usageCount, hlife.lastUsedAt⟩

end WorkspaceSearch.SavedSearch.Command
