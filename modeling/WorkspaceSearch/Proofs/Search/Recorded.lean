import Mathlib.Data.List.Induction
import WorkspaceSearch.Proofs.Database.History
import WorkspaceSearch.Proofs.Database.Shelf
import WorkspaceSearch.Proofs.Search.Calls
import WorkspaceSearch.Proofs.Time.Order

/-!
# The history over whole courses

Users search, list their history and clear it on one service.  Searches run side by side, each of them records itself
at its end, and it may be cancelled before that; what the searchers are answered does not matter
(`SearchService.Course`).  Between what is told of the searches and the table stand those that have not recorded
themselves yet: what is stored and what is owed are together what is told (`SearchService.accounted_course`).  So when
all searches have returned, the table holds what is told, and a user's history is the newest part of it
(`SearchService.course_recorded`).
-/

namespace WorkspaceSearch

/-! ### Programs that spare the history -/

namespace Program

variable {α β : Type}

/-- Whatever a program is answered, it does not write to the history. -/
def Spares : Program α → Prop
  | .done _ => True
  | .call c next => c.SparesHistory ∧ ∀ a, (next a).Spares

/-- Whatever a program is answered, it records an entry once, with its last call. -/
def Owes (e : HistoryEntry) : Program α → Prop
  | .done _ => False
  | .call c next => c = .recordSearch e ∧ (∀ a, ∃ result, next a = .done result) ∨
    c.SparesHistory ∧ ∀ a, (next a).Owes e

private theorem spares_andThen {p : Program α} {f : α → Program β} (hp : p.Spares) (hf : ∀ a, (f a).Spares) :
    (p.andThen f).Spares := by
  induction p with
  | done a => exact hf a
  | call c next ih => exact ⟨hp.1, fun a => ih a (hp.2 a)⟩

private theorem owes_andThen {e : HistoryEntry} {p : Program α} {f : α → Program β} (hp : p.Spares)
    (hf : ∀ a, (f a).Owes e) : (p.andThen f).Owes e := by
  induction p with
  | done a => exact hf a
  | call c next ih => exact .inr ⟨hp.1, fun a => ih a (hp.2 a)⟩

end Program

namespace Request

variable {r : Request} {d : Domain}

private theorem sparesHistory_of_prepares {c : Call} (h : d.prepares c = true) : c.SparesHistory := by
  cases d <;> cases c <;> trivial

private theorem sparesHistory_of_lookup? {c : Call} {l : Call.Lookup} (h : c.lookup? = some l) :
    c.SparesHistory := by
  cases c <;> trivial

private theorem spares_of_isDone {α : Type} {p : Program α} (h : p.IsDone) : p.Spares := by
  obtain ⟨a, rfl⟩ := h
  trivial

private theorem spares_of_looksOnce {α : Type} {p : Program α} (h : r.LooksOnce d p) : p.Spares := by
  induction p with
  | done a => exact h.elim
  | call c next ih =>
    rcases h with ⟨hlookup, hdone⟩ | ⟨hprepares, hnext⟩
    · exact ⟨sparesHistory_of_lookup? hlookup, fun answer => spares_of_isDone (hdone answer)⟩
    · refine ⟨sparesHistory_of_prepares hprepares, fun answer => ?_⟩
      have hstep := hnext answer
      split at hstep
      · exact spares_of_isDone hstep
      · exact ih answer hstep

/-- No searcher writes to the history. -/
private theorem spares_searcher (r : Request) (d : Domain) : (d.searcher r).Spares := by
  cases hseeks : r.seeks d with
  | true => exact spares_of_looksOnce (looksOnce_searcher hseeks)
  | false => exact spares_of_isDone (isDone_searcher hseeks)

end Request

namespace SearchService

/-! ### What is told -/

/-- What has been asked for that bears on the history: a search, with the identifier and the time it was given, or the
removal of the history of a user. -/
inductive Event where
  | searched (o : SearchOptions) (id : Uuid) (now : Instant)
  | cleared (userId : String)

/-- The entry of a search that is not refused. -/
def Event.entry? : Event → Option HistoryEntry
  | .searched o id now => if o.validate = .ok () then some (entryOf o id now) else none
  | .cleared _ => none

/-- The entries of all searches that were not refused, in order. -/
def accepted (log : List Event) : List HistoryEntry := log.filterMap Event.entry?

/-- What is told of a user's history after one more event. -/
def tell (userId : String) (es : List HistoryEntry) : Event → List HistoryEntry
  | .searched o id now => if o.userId = userId ∧ o.validate = .ok () then es ++ [entryOf o id now] else es
  | .cleared u => if u = userId then [] else es

/-- What is told of a user's history: an entry for every search of the user that was not refused since the history of
the user was last cleared, in order. -/
def told (userId : String) (log : List Event) : List HistoryEntry := log.foldl (tell userId) []

section

variable {log : List Event} {userId : String}

private theorem told_snoc (userId : String) (log : List Event) (event : Event) :
    told userId (log ++ [event]) = tell userId (told userId log) event := by
  rw [told, List.foldl_append]
  rfl

private theorem accepted_snoc (log : List Event) (event : Event) :
    accepted (log ++ [event]) = accepted log ++ event.entry?.toList := by
  rw [accepted, List.filterMap_append]
  cases h : event.entry? <;> simp [h, accepted]

private theorem told_sublist (userId : String) (log : List Event) : (told userId log).Sublist (accepted log) := by
  induction log using List.reverseRecOn with
  | nil => exact .refl _
  | append_singleton log event ih =>
    rw [told_snoc, accepted_snoc]
    have hmore : (told userId log).Sublist (accepted log ++ event.entry?.toList) :=
      ih.trans (List.sublist_append_left _ _)
    cases event with
    | searched o id now =>
      rw [tell]
      split
      · next h =>
        rw [Event.entry?, if_pos h.2]
        exact ih.append (.refl _)
      · exact hmore
    | cleared u =>
      rw [tell]
      split
      · exact List.nil_sublist _
      · exact hmore

end

/-! ### Courses -/

/-- A search that has been asked for, and what it has still to do. -/
structure Running where
  options : SearchOptions
  id : Uuid
  now : Instant
  rest : Program (Except Mishap SearchResponse)

namespace Running

def entry (r : Running) : HistoryEntry := entryOf r.options r.id r.now

/-- The search has returned, and what it had to record is recorded. -/
def Returned (r : Running) : Prop := ∃ response, r.rest = .done response

/-- The entry that a search has still to record, if there is one. -/
def owed (r : Running) : List HistoryEntry :=
  match r.rest with
  | .done _ => []
  | .call .. => [r.entry]

private theorem owed_of_returned {r : Running} (h : r.Returned) : r.owed = [] := by
  obtain ⟨response, hrest⟩ := h
  rw [owed, hrest]

/-- The search was not refused, and it has still to record itself. -/
def Owing (r : Running) : Prop := r.options.validate = .ok () ∧ r.rest.Owes r.entry

private theorem owed_of_owing {r : Running} (h : r.Owing) : r.owed = [r.entry] := by
  have howes := h.2
  rw [owed]
  cases hrest : r.rest with
  | done response =>
    rw [hrest] at howes
    cases howes
  | call c next => rfl

end Running

/-- How searches and removals can go on from an empty history, together with what is told of them, the searches and the
database: at each step something is asked for, or one of the searches goes on. -/
inductive Course (service : SearchService) : List Event → List Running → Database → Prop
  | start {db : Database} (empty : db.history.toList = []) : Course service [] [] db
  /-- A search is asked for; it may have been cancelled before. -/
  | searched {log : List Event} {running : List Running} {db : Database} (before : Course service log running db)
      (o : SearchOptions) (cancelled : Bool) (id : Uuid) (now : Instant) :
      Course service (log ++ [.searched o id now])
        (running ++ [⟨o, id, now, service.search o cancelled id now⟩]) db
  /-- A search looks something up, and is answered something or other. -/
  | looked {log : List Event} {front back : List Running} {r : Running} {db : Database}
      (before : Course service log (front ++ r :: back) db) {c : Call}
      {next : Except Error c.Answer → Program (Except Mishap SearchResponse)} (rest : r.rest = .call c next)
      (spares : c.SparesHistory) (outcome : Except Error c.Answer) :
      Course service log (front ++ { r with rest := next outcome } :: back) db
  /-- A search records itself. -/
  | recorded {log : List Event} {front back : List Running} {r : Running} {db : Database}
      (before : Course service log (front ++ r :: back) db) {e : HistoryEntry}
      {next : Except Error Unit → Program (Except Mishap SearchResponse)}
      (rest : r.rest = .call (.recordSearch e) next) :
      Course service log (front ++ { r with rest := next (Database.answer (.recordSearch e) db).1 } :: back)
        (Database.answer (.recordSearch e) db).2
  /-- A search that has not returned is cancelled. -/
  | cancelled {log : List Event} {front back : List Running} {r : Running} {db : Database}
      (before : Course service log (front ++ r :: back) db) (unreturned : ¬r.Returned) :
      Course service log (front ++ { r with rest := service.search r.options true r.id r.now } :: back) db
  /-- The database changes elsewhere. -/
  | elsewhere {log : List Event} {running : List Running} {db db' : Database} (before : Course service log running db)
      (same : db'.history = db.history) : Course service log running db'
  /-- The history of a user is cleared when all searches have returned. -/
  | cleared {log : List Event} {running : List Running} {db : Database} (before : Course service log running db)
      (returned : ∀ r ∈ running, r.Returned) (userId : String) :
      Course service (log ++ [.cleared userId]) running ((clearHistory userId).run Database.answer db).2

section

variable {service : SearchService} (hsearchers : ∀ d r, (service.searcher d r).Spares)

include hsearchers

private theorem spares_gather (r : Request) (ds : List Domain) : (service.gather r ds).Spares := by
  induction ds with
  | nil => trivial
  | cons d ds ih =>
    exact Program.spares_andThen (hsearchers d r) fun _ => Program.spares_andThen ih fun _ => trivial

private theorem spares_find (o : SearchOptions) (cancelled : Bool) : (service.find o cancelled).Spares := by
  unfold find
  split
  · trivial
  · exact Program.spares_andThen (spares_gather hsearchers _ _) fun _ => trivial

/-- A search that is not refused records itself, whatever becomes of it. -/
private theorem owes_search {o : SearchOptions} (h : o.validate = .ok ()) (cancelled : Bool) (id : Uuid)
    (now : Instant) : (service.search o cancelled id now).Owes (entryOf o id now) := by
  rw [search, h]
  exact Program.owes_andThen (spares_find hsearchers o cancelled) fun response => .inl ⟨rfl, fun _ => ⟨response, rfl⟩⟩

end

/-- A search that is refused asks for nothing. -/
private theorem search_of_refused (service : SearchService) {o : SearchOptions} {e : Error} (h : o.validate = .error e)
    (cancelled : Bool) (id : Uuid) (now : Instant) :
    service.search o cancelled id now = .done (.error (.failed e)) := by
  rw [search, h]

/-- What is told is stored, or it is still to be recorded. -/
structure Accounted (log : List Event) (running : List Running) (db : Database) : Prop where
  stored : ∃ written : List HistoryEntry, db.history.toList = written.map HistoryEntry.toStored ∧
    ∀ userId, ((written ++ running.flatMap Running.owed).filter (·.userId = userId)).Perm (told userId log)
  running : ∀ r ∈ running, r.Returned ∨ r.Owing

namespace Accounted

variable {log : List Event} {front back : List Running} {r : Running} {db : Database}

/-- A search goes on that owes as much afterwards as before. -/
private theorem replace (h : Accounted log (front ++ r :: back) db) (howing : r.Owing)
    {rest : Program (Except Mishap SearchResponse)} (hrest : rest.Owes r.entry) :
    Accounted log (front ++ { r with rest := rest } :: back) db := by
  have hafter : Running.Owing { r with rest := rest } := ⟨howing.1, hrest⟩
  have howed : Running.owed { r with rest := rest } = r.owed :=
    (Running.owed_of_owing hafter).trans (Running.owed_of_owing howing).symm
  obtain ⟨written, hwritten, htold⟩ := h.stored
  refine ⟨⟨written, hwritten, fun userId => ?_⟩, fun p hp => ?_⟩
  · rw [List.flatMap_append, List.flatMap_cons, howed, ← List.flatMap_cons, ← List.flatMap_append]
    exact htold userId
  · rcases List.mem_append.1 hp with hp | hp
    · exact h.running p (List.mem_append_left _ hp)
    · rcases List.mem_cons.1 hp with rfl | hp
      · exact .inr hafter
      · exact h.running p (List.mem_append_right _ (List.mem_cons_of_mem _ hp))

/-- A search is asked for. -/
private theorem searched {running : List Running} (h : Accounted log running db) {service : SearchService}
    (hsearchers : ∀ d r, (service.searcher d r).Spares) (o : SearchOptions) (cancelled : Bool) (id : Uuid)
    (now : Instant) :
    Accounted (log ++ [.searched o id now]) (running ++ [⟨o, id, now, service.search o cancelled id now⟩]) db := by
  obtain ⟨written, hwritten, htold⟩ := h.stored
  cases hvalid : o.validate with
  | error e =>
    have hrest := service.search_of_refused hvalid cancelled id now
    have hrefused : ¬o.validate = .ok () := by
      intro hok
      rw [hvalid] at hok
      cases hok
    refine ⟨⟨written, hwritten, fun userId => ?_⟩, fun p hp => ?_⟩
    · rw [told_snoc, tell, if_neg fun h => hrefused h.2, List.flatMap_append, List.flatMap_singleton,
        Running.owed_of_returned ⟨_, hrest⟩, List.append_nil]
      exact htold userId
    · rcases List.mem_append.1 hp with hp | hp
      · exact h.running p hp
      · rw [List.mem_singleton.1 hp]
        exact .inl ⟨_, hrest⟩
  | ok =>
    have howing : Running.Owing ⟨o, id, now, service.search o cancelled id now⟩ :=
      ⟨hvalid, owes_search hsearchers hvalid cancelled id now⟩
    refine ⟨⟨written, hwritten, fun userId => ?_⟩, fun p hp => ?_⟩
    · have hentry : [entryOf o id now].filter (·.userId = userId) =
          if o.userId = userId then [entryOf o id now] else [] := by
        by_cases huser : o.userId = userId <;> simp [entryOf, huser]
      rw [told_snoc, tell, List.flatMap_append, List.flatMap_singleton, Running.owed_of_owing howing,
        ← List.append_assoc, List.filter_append, Running.entry, hentry]
      by_cases huser : o.userId = userId
      · rw [if_pos huser, if_pos ⟨huser, hvalid⟩]
        exact (htold userId).append_right _
      · rw [if_neg huser, if_neg fun h => huser h.1, List.append_nil]
        exact htold userId
    · rcases List.mem_append.1 hp with hp | hp
      · exact h.running p hp
      · rw [List.mem_singleton.1 hp]
        exact .inr howing

/-- A search records itself. -/
private theorem recorded (h : Accounted log (front ++ r :: back) db) (hids : ((accepted log).map (·.id)).Nodup)
    (howing : r.Owing) {rest : Program (Except Mishap SearchResponse)}
    (hrest : ∃ response, rest = .done response) :
    Database.answer (.recordSearch r.entry) db = (.ok (), db.pushHistory r.entry) ∧
      Accounted log (front ++ { r with rest := rest } :: back) (db.pushHistory r.entry) := by
  obtain ⟨written, hwritten, htold⟩ := h.stored
  have hreturned : Running.Returned { r with rest := rest } := hrest
  rw [List.flatMap_append, List.flatMap_cons, Running.owed_of_owing howing, List.singleton_append] at htold
  constructor
  · refine Database.answer_recordSearch fun row hrow hid => ?_
    rw [hwritten, List.mem_map] at hrow
    obtain ⟨e, he, rfl⟩ := hrow
    -- the entry would be there already, and so it would be told twice
    have hmem : ∀ d ∈ written ++ (front.flatMap Running.owed ++ r.entry :: back.flatMap Running.owed),
        d ∈ accepted log := fun d hd => (told_sublist d.userId log).subset
      ((htold d.userId).mem_iff.1 (List.mem_filter.2 ⟨hd, by simp⟩))
    have hsame : e = r.entry := List.inj_on_of_nodup_map hids (hmem e (by simp [he])) (hmem r.entry (by simp))
      (Uuid.render_injective hid)
    have hnodup : (told r.entry.userId log).Nodup := (List.Nodup.of_map _ hids).sublist (told_sublist _ log)
    rw [← (htold r.entry.userId).nodup_iff, List.filter_append, List.nodup_append] at hnodup
    exact hnodup.2.2 e (List.mem_filter.2 ⟨he, by simp [hsame]⟩) r.entry (by simp) hsame
  · refine ⟨⟨written ++ [r.entry], ?_, fun userId => ?_⟩, fun p hp => ?_⟩
    · rw [Database.toList_pushHistory, hwritten, List.map_append, List.map_singleton]
    · rw [List.flatMap_append, List.flatMap_cons, Running.owed_of_returned hreturned, List.nil_append,
        List.append_assoc]
      refine List.Perm.trans (List.Perm.filter _ (List.Perm.append_left written ?_)) (htold userId)
      rw [List.singleton_append]
      exact List.perm_middle.symm
    · rcases List.mem_append.1 hp with hp | hp
      · exact h.running p (List.mem_append_left _ hp)
      · rcases List.mem_cons.1 hp with rfl | hp
        · exact .inl hreturned
        · exact h.running p (List.mem_append_right _ (List.mem_cons_of_mem _ hp))

/-- The history of a user is cleared. -/
private theorem cleared {running : List Running} (h : Accounted log running db) (hreturned : ∀ r ∈ running, r.Returned)
    (userId : String) : Accounted (log ++ [.cleared userId]) running (db.eraseHistory userId) := by
  obtain ⟨written, hwritten, htold⟩ := h.stored
  have howed : running.flatMap Running.owed = [] :=
    List.flatMap_eq_nil_iff.2 fun r hr => Running.owed_of_returned (hreturned r hr)
  refine ⟨⟨written.filter (·.userId ≠ userId), ?_, fun u => ?_⟩, h.running⟩
  · rw [Database.toList_eraseHistory, hwritten, List.filter_map]
    rfl
  · have htold := htold u
    rw [howed, List.append_nil] at htold ⊢
    rw [told_snoc, tell, List.filter_filter]
    split
    · next heq =>
      subst heq
      simp
    · next hne =>
      have hsame : written.filter (fun e => decide (e.userId = u) && decide (e.userId ≠ userId)) =
          written.filter (·.userId = u) := by
        refine List.filter_congr fun e _ => ?_
        grind
      rw [hsame]
      exact htold

/-- A search that has a call to make has still to record itself. -/
private theorem owes_of_call (h : Accounted log (front ++ r :: back) db) {c : Call}
    {next : Except Error c.Answer → Program (Except Mishap SearchResponse)} (hrest : r.rest = .call c next) :
    r.Owing ∧ (c = .recordSearch r.entry ∧ (∀ a, ∃ response, next a = .done response) ∨
      c.SparesHistory ∧ ∀ a, (next a).Owes r.entry) := by
  rcases h.running r (List.mem_append_right _ List.mem_cons_self) with ⟨response, hdone⟩ | howing
  · rw [hrest] at hdone
    cases hdone
  · have howes := howing.2
    rw [hrest] at howes
    exact ⟨howing, howes⟩

end Accounted

/-- What is told is stored or owed at every step. -/
theorem accounted_course {service : SearchService} (hsearchers : ∀ d r, (service.searcher d r).Spares)
    {log : List Event} {running : List Running} {db : Database} (h : Course service log running db)
    (hids : ((accepted log).map (·.id)).Nodup) : Accounted log running db := by
  induction h with
  | start empty => exact ⟨⟨[], empty, fun _ => .refl _⟩, fun r hr => by cases hr⟩
  | searched before o cancelled id now ih =>
    rw [accepted_snoc, List.map_append] at hids
    exact (ih (List.nodup_append.1 hids).1).searched hsearchers o cancelled id now
  | looked before rest spares outcome ih =>
    -- a call that spares the history is not the recording, so the search still owes it
    obtain ⟨howing, ⟨rfl, -⟩ | ⟨-, howes⟩⟩ := (ih hids).owes_of_call rest
    · cases spares
    · exact (ih hids).replace howing (howes outcome)
  | recorded before rest ih =>
    obtain ⟨howing, ⟨hentry, hnext⟩ | ⟨hspares, -⟩⟩ := (ih hids).owes_of_call rest
    · obtain rfl := Call.recordSearch.inj hentry
      obtain ⟨hanswer, hafter⟩ := (ih hids).recorded hids howing (hnext (.ok ()))
      rw [hanswer]
      exact hafter
    · cases hspares
  | @cancelled log front back r db before unreturned ih =>
    rcases (ih hids).running r (List.mem_append_right _ List.mem_cons_self) with hreturned | howing
    · exact absurd hreturned unreturned
    · exact (ih hids).replace howing (owes_search hsearchers howing.1 true r.id r.now)
  | elsewhere before same ih =>
    obtain ⟨⟨written, hwritten, htold⟩, hrunning⟩ := ih hids
    exact ⟨⟨written, same ▸ hwritten, htold⟩, hrunning⟩
  | @cleared log running db before returned userId ih =>
    rw [accepted_snoc, List.map_append] at hids
    have hrun : ((clearHistory userId).run Database.answer db).2 = db.eraseHistory userId :=
      congrArg Prod.snd (Database.answer_clearHistory db userId)
    rw [hrun]
    exact (ih (List.nodup_append.1 hids).1).cleared returned userId

/-! ### Waiting for all searches -/

section

variable {service : SearchService} {log : List Event} {front back running : List Running} {r : Running} {db : Database}

/-- A search that looks something up may be answered by the database. -/
private theorem Course.answered (h : Course service log (front ++ r :: back) db) {c : Call}
    {next : Except Error c.Answer → Program (Except Mishap SearchResponse)} (rest : r.rest = .call c next)
    (spares : c.SparesHistory) :
    Course service log (front ++ { r with rest := next (Database.answer c db).1 } :: back) (Database.answer c db).2 :=
  (h.looked rest spares _).elsewhere (Database.history_answer spares db)

variable (hsearchers : ∀ d r, (service.searcher d r).Spares) (hids : ((accepted log).map (·.id)).Nodup)

include hsearchers hids

/-- A search can go on until it has returned. -/
private theorem exists_return (h : Course service log (front ++ r :: back) db) :
    ∃ r' db', Course service log (front ++ r' :: back) db' ∧ r'.Returned := by
  induction hrest : r.rest generalizing r db with
  | done response => exact ⟨r, db, h, response, hrest⟩
  | call c next ih =>
    obtain ⟨-, ⟨rfl, -⟩ | ⟨spares, -⟩⟩ := (accounted_course hsearchers h hids).owes_of_call hrest
    · exact ih _ (h.recorded hrest) rfl
    · exact ih _ (h.answered hrest spares) rfl

/-- Searches can go on until all of them have returned. -/
theorem exists_all_returned (hfront : ∀ r ∈ front, r.Returned) (h : Course service log (front ++ running) db) :
    ∃ running' db', Course service log running' db' ∧ ∀ r ∈ running', r.Returned := by
  induction running generalizing front db with
  | nil => exact ⟨front, db, by simpa using h, hfront⟩
  | cons r running ih =>
    obtain ⟨r', db', hcourse, hreturned⟩ := exists_return hsearchers hids h
    have hmore : Course service log ((front ++ [r']) ++ running) db' := by simpa using hcourse
    refine ih (fun p hp => ?_) hmore
    rcases List.mem_append.1 hp with hp | hp
    · exact hfront p hp
    · exact List.mem_singleton.1 hp ▸ hreturned

end

/-! ### The history -/

/-- The texts of times that follow each other in the years 0 to 9999 follow each other too. -/
private theorem told_texts {log : List Event} (hclock : (accepted log).Pairwise (·.createdAt < ·.createdAt))
    (hyears : ∀ e ∈ accepted log, 0 ≤ e.createdAt.date.year ∧ e.createdAt.date.year ≤ 9999) (userId : String) :
    (told userId log).Pairwise fun a b => a.createdAt.toStored < b.createdAt.toStored := by
  have htold := told_sublist userId log
  refine (hclock.sublist htold).imp_of_mem fun ha hb hlt => ?_
  obtain ⟨hfirst, hlast⟩ := hyears _ (htold.subset ha)
  obtain ⟨hfirst', hlast'⟩ := hyears _ (htold.subset hb)
  exact Instant.toStored_lt_toStored hfirst hlast hfirst' hlast' hlt

/-- When all searches have returned, a user's rows are those of the searches that are told, one for each; the history
lists the newest ones, the newest in front; and clearing it answers their number and leaves all other rows alone.
Searches have different identifiers and later and later times of the years 0 to 9999. -/
theorem course_recorded {service : SearchService} (hsearchers : ∀ d r, (service.searcher d r).Spares)
    {log : List Event} {running : List Running} {db : Database} (h : Course service log running db)
    (hids : ((accepted log).map (·.id)).Nodup) (hclock : (accepted log).Pairwise (·.createdAt < ·.createdAt))
    (hyears : ∀ e ∈ accepted log, 0 ≤ e.createdAt.date.year ∧ e.createdAt.date.year ≤ 9999)
    (hreturned : ∀ r ∈ running, r.Returned) (userId : String) :
    (db.historyRows userId).Perm ((told userId log).map HistoryEntry.toStored) ∧
      (∀ limit, ((history userId limit).run Database.answer db).1 = .ok ((told userId log).reverse.take limit)) ∧
      ∃ db', (clearHistory userId).run Database.answer db = (.ok (told userId log).length, db') ∧
        db'.historyRows userId = [] ∧ ∀ other, other ≠ userId → db'.historyRows other = db.historyRows other := by
  obtain ⟨written, hwritten, htold⟩ := (accounted_course hsearchers h hids).stored
  have howed : running.flatMap Running.owed = [] :=
    List.flatMap_eq_nil_iff.2 fun r hr => Running.owed_of_returned (hreturned r hr)
  rw [howed, List.append_nil] at htold
  have hrows : db.historyRows userId = (written.filter (·.userId = userId)).map HistoryEntry.toStored := by
    rw [Database.historyRows, hwritten, List.filter_map]
    rfl
  have hperm : (db.historyRows userId).Perm ((told userId log).map HistoryEntry.toStored) :=
    hrows ▸ (htold userId).map _
  refine ⟨hperm, fun limit => ?_, db.eraseHistory userId, ?_, ?_, fun other hother => ?_⟩
  · have hrun : ((history userId limit).run Database.answer db).1 = db.listHistory userId limit := rfl
    have hwritten := (List.reverse_perm _).trans (htold userId)
    rw [hrun, Database.listHistory_eq hrows,
      HistoryEntry.mergeSort_inOrder hwritten (told_texts hclock hyears userId)]
  · have hrun : (clearHistory userId).run Database.answer db = Database.answer (.clearHistory userId) db := rfl
    rw [hrun, Database.answer_clearHistory, hperm.length_eq, List.length_map]
  · rw [Database.historyRows_eraseHistory, if_pos rfl]
  · rw [Database.historyRows_eraseHistory, if_neg fun heq => hother heq.symm]

private def badOptions : SearchOptions := { query := "report", limit := -1, userId := "ann" }

private def goodOptions : SearchOptions := { query := "report", userId := "ann" }

/-- Of two searches of Ann's the first is refused and the second is cancelled at once; only the second is recorded. -/
theorem course_recorded_one : ∃ running db,
    Course {} [.searched badOptions default .epoch, .searched goodOptions default .epoch] running db ∧
      (∀ r ∈ running, r.Returned) ∧
      ((history "ann" 10).run Database.answer db).1 = .ok [entryOf goodOptions default .epoch] := by
  have hrefused := search_of_refused {} (rfl : badOptions.validate = .error (.request (.negativeLimit (-1)))) false
    default .epoch
  have hrest : search {} goodOptions true default .epoch = .call (.recordSearch (entryOf goodOptions default .epoch))
      fun _ => .done (.error (.failed .cancelled)) := rfl
  have hstart : Course {} [] [] {} := .start rfl
  have hasked : Course {} [.searched badOptions default .epoch, .searched goodOptions default .epoch]
      ([⟨badOptions, default, .epoch, search {} badOptions false default .epoch⟩] ++
        ⟨goodOptions, default, .epoch, search {} goodOptions true default .epoch⟩ :: []) {} :=
    (hstart.searched badOptions false default .epoch).searched goodOptions true default .epoch
  have hcourse := hasked.recorded hrest
  have haccepted : accepted [.searched badOptions default .epoch, .searched goodOptions default .epoch] =
      [entryOf goodOptions default .epoch] := rfl
  have hreturned : ∀ r ∈ [⟨badOptions, default, .epoch, search {} badOptions false default .epoch⟩] ++
      (⟨goodOptions, default, .epoch, .done (.error (.failed .cancelled))⟩ : Running) :: [], r.Returned := by
    simp only [List.singleton_append, List.forall_mem_cons]
    exact ⟨⟨_, hrefused⟩, ⟨_, rfl⟩, fun _ h => absurd h List.not_mem_nil⟩
  obtain ⟨-, hlist, -⟩ := course_recorded (fun d r => r.spares_searcher d) hcourse (by simp [haccepted])
    (by simp [haccepted]) (by rw [haccepted]; decide) hreturned "ann"
  exact ⟨_, _, hcourse, hreturned, hlist 10⟩

end SearchService

end WorkspaceSearch
