import WorkspaceSearch.Proofs.Database.Saved
import WorkspaceSearch.SavedSearch.Keeping

/-!
# Runs over saved searches

Users save, list, read, change, remove and use saved searches, one call after another, on a database of which any
answer may fail (`Database.failing`).  What one call can do is said once (`Command.Effect`); from it follows how every
call of a run is conducted (`Command.Conducted`), and that the records of a user are out of reach of everyone else
(`Command.run_conducted`).
-/

namespace WorkspaceSearch

namespace Database

/-- A database that counts its answers and fails to give some of them; what is not answered is not written either. -/
def failing (fault : Nat → Option Error) : Store (Nat × Database) := fun c s =>
  match fault s.1 with
  | some e => (.error e, s.1 + 1, s.2)
  | none => ((answer c s.2).1, s.1 + 1, (answer c s.2).2)

/-- The saved search with an identifier, if it belongs to the caller. -/
private def ownedBy (db : Database) (id : Uuid) (caller : String) : Except Error SavedSearch := do
  match ← db.getSavedSearch id with
  | none => .error (.savedSearchNotFound id.render)
  | some saved => if saved.userId = caller then .ok saved else .error (.permissionDenied caller id.render)

section

variable {db : Database} {id : Uuid} {caller : String}

private theorem ownedBy_of_none (h : db.getSavedSearch id = .ok none) :
    db.ownedBy id caller = .error (.savedSearchNotFound id.render) := by
  rw [ownedBy, h]
  rfl

private theorem ownedBy_of_some {s : SavedSearch} (h : db.getSavedSearch id = .ok (some s)) :
    db.ownedBy id caller = if s.userId = caller then .ok s else .error (.permissionDenied caller id.render) := by
  rw [ownedBy, h]
  rfl

private theorem ownedBy_eq_ok {s : SavedSearch} : db.ownedBy id caller = .ok s ↔ db.Owned id caller s := by
  constructor
  · intro h
    obtain ⟨found, hfound, h⟩ := Outcome.bind_eq_ok.1 h
    cases found with
    | none => cases h
    | some saved =>
      dsimp only at h
      split at h
      · next huser => exact ⟨Except.ok.inj h ▸ hfound, Except.ok.inj h ▸ huser⟩
      · cases h
  · rintro ⟨h, huser⟩
    rw [ownedBy_of_some h, if_pos huser]

end

end Database

namespace SavedSearch

open Database (SameBeside SameOrigins)

/-! ### Actions on a database that may fail -/

section

variable {fault : Nat → Option Error} {s : Nat × Database}

private theorem run_ofOutcome {α : Type} (outcome : Except Error α) :
    (ofOutcome outcome).run.run (Database.failing fault) s = (outcome, s) := rfl

private theorem run_ask_of_some {e : Error} (h : fault s.1 = some e) (c : Call) :
    (ask c).run.run (Database.failing fault) s = (.error e, s.1 + 1, s.2) := by
  have hrun : (ask c).run.run (Database.failing fault) s = Database.failing fault c s := rfl
  rw [hrun, Database.failing, h]

theorem run_ask_of_none (h : fault s.1 = none) (c : Call) :
    (ask c).run.run (Database.failing fault) s =
      ((Database.answer c s.2).1, s.1 + 1, (Database.answer c s.2).2) := by
  have hrun : (ask c).run.run (Database.failing fault) s = Database.failing fault c s := rfl
  rw [hrun, Database.failing, h]

private theorem run_owned_of_some {e : Error} (h : fault s.1 = some e) (id : Uuid) (caller : String) :
    (owned id caller).run.run (Database.failing fault) s = (.error e, s.1 + 1, s.2) := by
  rw [owned, Program.run_bind, run_ask_of_some h]

private theorem run_owned_of_none (h : fault s.1 = none) (id : Uuid) (caller : String) :
    (owned id caller).run.run (Database.failing fault) s = (s.2.ownedBy id caller, s.1 + 1, s.2) := by
  have hanswer : Database.answer (.getSavedSearch id) s.2 = (s.2.getSavedSearch id, s.2) := rfl
  rw [owned, Program.run_bind, run_ask_of_none h, hanswer, Database.ownedBy]
  cases s.2.getSavedSearch id with
  | error e => rfl
  | ok found =>
    cases found with
    | none => rfl
    | some saved =>
      simp only [Outcome.ok_bind]
      split <;> rfl

private theorem run_owned (fault : Nat → Option Error) (s : Nat × Database) (id : Uuid) (caller : String) :
    ∃ outcome, (owned id caller).run.run (Database.failing fault) s = (outcome, s.1 + 1, s.2) ∧
      ∀ old, outcome = .ok old → s.2.Owned id caller old := by
  cases hfault : fault s.1 with
  | some e => exact ⟨.error e, run_owned_of_some hfault id caller, fun _ h => by cases h⟩
  | none =>
    refine ⟨s.2.ownedBy id caller, run_owned_of_none hfault id caller, fun old hold => ?_⟩
    exact Database.ownedBy_eq_ok.1 hold

/-- A saved search is put over another one, unless the database fails. -/
private theorem run_updateSavedSearch {α : Type} (new : SavedSearch) (a : α) :
    (do ask (.updateSavedSearch new); return a : Action α).run.run (Database.failing fault) s =
      match fault s.1 with
      | some e => (.error e, s.1 + 1, s.2)
      | none => (.ok a, s.1 + 1, s.2.updateSavedSearch new) := by
  rw [Program.run_bind]
  cases hfault : fault s.1 with
  | some e => rw [run_ask_of_some hfault]
  | none =>
    rw [run_ask_of_none hfault]
    rfl

/-- An action that makes a call that is not answered comes to an error. -/
private def Heeds {α : Type} (fault : Nat → Option Error) (p : Action α) : Prop :=
  ∀ s : Nat × Database, ∀ a, (p.run.run (Database.failing fault) s).1 = .ok a →
    ∀ i, s.1 ≤ i → i < (p.run.run (Database.failing fault) s).2.1 → fault i = none

private theorem heeds_ofOutcome {α : Type} (outcome : Except Error α) : Heeds fault (ofOutcome outcome) := by
  intro s a _ i hle hlt
  exact absurd hlt (Nat.not_lt.2 hle)

private theorem heeds_pure {α : Type} (a : α) : Heeds fault (pure a) := heeds_ofOutcome (.ok a)

private theorem heeds_throw {α : Type} (e : Error) : Heeds fault (throw e : Action α) := heeds_ofOutcome (.error e)

private theorem heeds_ask (c : Call) : Heeds fault (ask c) := by
  intro s a hok i hle hlt
  cases hfault : fault s.1 with
  | some e =>
    rw [run_ask_of_some hfault] at hok
    cases hok
  | none =>
    rw [run_ask_of_none hfault] at hlt
    obtain rfl : i = s.1 := Nat.le_antisymm (Nat.le_of_lt_succ hlt) hle
    exact hfault

private theorem heeds_bind {α β : Type} {p : Action α} {f : α → Action β} (hp : Heeds fault p)
    (hf : ∀ a, Heeds fault (f a)) : Heeds fault (p >>= f) := by
  intro s b hok i hle hlt
  rw [Program.run_bind] at hok hlt
  have hfirst := hp s
  rcases hrun : p.run.run (Database.failing fault) s with ⟨e | a, s'⟩ <;> rw [hrun] at hok hlt hfirst
  · cases hok
  · rcases Nat.lt_or_ge i s'.1 with hi | hi
    · exact hfirst a rfl i hle hi
    · exact hf a s' b hok i hi hlt

private theorem heeds_owned (id : Uuid) (caller : String) : Heeds fault (owned id caller) := by
  refine heeds_bind (heeds_ask _) fun found => ?_
  cases found with
  | none => exact heeds_throw _
  | some saved =>
    dsimp only
    split
    · exact heeds_pure _
    · exact heeds_throw _

end

/-! ### Names and uses -/

theorem checkName_eq_ok {name name' : String} :
    checkName name = .ok name' ↔ Text.isBlank name = false ∧ name' = Text.trim name := by
  unfold checkName
  cases Text.isBlank name <;> simp [eq_comm]

theorem updatedName_eq_ok {old : SavedSearch} {u : SavedUpdate} {name' : String} :
    old.updatedName u = .ok name' ↔
      (∀ name, u.name = some name → Text.isBlank name = false) ∧ name' = (u.name.map Text.trim).getD old.name := by
  unfold updatedName
  cases u.name with
  | none =>
    simp only [reduceCtorEq, false_implies, implies_true, true_and, Option.map_none, Option.getD_none, Except.ok.injEq]
    exact eq_comm
  | some name =>
    simp only [Option.some.injEq, forall_eq', Option.map_some, Option.getD_some]
    exact checkName_eq_ok

theorem used?_eq_some {old new : SavedSearch} {now : Instant} (h : old.used? now = some new) :
    new = { old with usageCount := old.usageCount + 1, lastUsedAt := some now, updatedAt := now } := by
  unfold used? at h
  split at h
  · exact (Option.some.inj h).symm
  · cases h

theorem used?_eq_none {old : SavedSearch} {now : Instant} (h : old.used? now = none) :
    greatestCount ≤ old.usageCount := by
  unfold used? at h
  split at h
  · cases h
  · next hcount => exact Int.not_lt.1 hcount

/-! ### Calls -/

/-- A call of a user; a saved search that is new has its identifier given, and what is written the time. -/
inductive Command where
  | save (r : SaveRequest) (id : Uuid) (now : Instant)
  | list (userId : String)
  | get (id : Uuid) (caller : String)
  | update (id : Uuid) (caller : String) (u : SavedUpdate) (now : Instant)
  | delete (id : Uuid) (caller : String)
  | markUsed (id : Uuid) (caller : String) (now : Instant)

namespace Command

/-- What a call is answered. -/
abbrev Answer : Command → Type
  | .save .. => SavedSearch
  | .list _ => List SavedSearch
  | .get .. => SavedSearch
  | .update .. => SavedSearch
  | .delete .. => Unit
  | .markUsed .. => Option SavedSearch

/-- The user who makes a call. -/
def caller : Command → String
  | .save r _ _ => r.userId
  | .list caller | .get _ caller | .update _ caller _ _ | .delete _ caller | .markUsed _ caller _ => caller

/-- The saved search that a call is about, unless it is a new one. -/
def target? : Command → Option Uuid
  | .save .. | .list _ => none
  | .get id _ | .update id _ _ _ | .delete id _ | .markUsed id _ _ => some id

/-- What a call does with a store. -/
def action : (c : Command) → Action c.Answer
  | .save r id now => SavedSearch.save r id now
  | .list userId => SavedSearch.list userId
  | .get id caller => owned id caller
  | .update id caller u now => SavedSearch.update id caller u now
  | .delete id caller => SavedSearch.delete id caller
  | .markUsed id caller now => SavedSearch.markUsed id caller now

variable (fault : Nat → Option Error)

/-- What a call comes to on a database that may fail, and the database that it leaves behind. -/
def perform (c : Command) (s : Nat × Database) : Except Error c.Answer × (Nat × Database) :=
  c.action.run.run (Database.failing fault) s

/-- The database after some calls. -/
def runAll (cs : List Command) (s : Nat × Database) : Nat × Database :=
  cs.foldl (fun s c => (c.perform fault s).2) s

/-! ### What one call can do -/

/-- What a call can come to on a database, and the database that it leaves behind. -/
inductive Effect (db : Database) : (c : Command) → Except Error c.Answer → Database → Prop
  | failed (c : Command) (e : Error) : Effect db c (.error e) db
  | saved {r : SaveRequest} {id : Uuid} (now : Instant) {name : String} (hname : checkName r.name = .ok name)
      (hnew : db.savedRow? id = none) :
      Effect db (.save r id now) (.ok (ofRequest { r with name } id now))
        (db.pushSaved (ofRequest { r with name } id now))
  | listed {userId : String} {found : List SavedSearch} (h : db.listSavedSearches userId = .ok found) :
      Effect db (.list userId) (.ok (found.mergeSort inOrder)) db
  | got {id : Uuid} {caller : String} {old : SavedSearch} (h : db.Owned id caller old) :
      Effect db (.get id caller) (.ok old) db
  | updated {id : Uuid} {caller : String} {old : SavedSearch} (h : db.Owned id caller old) {u : SavedUpdate}
      (now : Instant) {name : String} (hname : old.updatedName u = .ok name) :
      Effect db (.update id caller u now) (.ok (old.updated u name now)) (db.updateSavedSearch (old.updated u name now))
  | deleted {id : Uuid} {caller : String} {old : SavedSearch} (h : db.Owned id caller old) :
      Effect db (.delete id caller) (.ok ()) (db.eraseSaved id)
  | used {id : Uuid} {caller : String} {old new : SavedSearch} (h : db.Owned id caller old) {now : Instant}
      (hused : old.used? now = some new) :
      Effect db (.markUsed id caller now) (.ok (some new)) (db.updateSavedSearch new)
  | uncounted {id : Uuid} {caller : String} {old : SavedSearch} (h : db.Owned id caller old) {now : Instant}
      (hused : old.used? now = none) : Effect db (.markUsed id caller now) (.ok none) db

section

variable {fault} {s : Nat × Database}

/-- Whatever fails, an action on a database comes to what a call can do. -/
private def Performs (fault : Nat → Option Error) (db : Database) (c : Command) (p : Action c.Answer) : Prop :=
  ∀ n, Effect db c (p.run.run (Database.failing fault) (n, db)).1 (p.run.run (Database.failing fault) (n, db)).2.2

private theorem performs_ofOutcome {db : Database} {c : Command} {α : Type} {outcome : Except Error α}
    {f : α → Action c.Answer} (h : ∀ a, outcome = .ok a → Performs fault db c (f a)) :
    Performs fault db c (ofOutcome outcome >>= f) := by
  intro n
  rw [Program.run_bind, run_ofOutcome]
  cases outcome with
  | error e => exact .failed c e
  | ok a => exact h a rfl n

private theorem performs_owned {db : Database} {c : Command} {id : Uuid} {caller : String}
    {f : SavedSearch → Action c.Answer} (h : ∀ old, db.Owned id caller old → Performs fault db c (f old)) :
    Performs fault db c (owned id caller >>= f) := by
  intro n
  obtain ⟨outcome, hrun, howned⟩ := run_owned fault (n, db) id caller
  rw [Program.run_bind, hrun]
  cases outcome with
  | error e => exact .failed c e
  | ok old => exact h old (howned old rfl) (n + 1)

/-- The last call to the database that an action makes. -/
private theorem performs_ask {db db' : Database} {c : Command} {call : Call} {outcome : Except Error call.Answer}
    {f : call.Answer → Action c.Answer} (hanswer : Database.answer call db = (outcome, db'))
    (h : ∀ n, Effect db c ((ofOutcome outcome >>= f : Action c.Answer).run.run (Database.failing fault) (n, db')).1
      ((ofOutcome outcome >>= f : Action c.Answer).run.run (Database.failing fault) (n, db')).2.2) :
    Performs fault db c (ask call >>= f) := by
  intro n
  rw [Program.run_bind]
  cases hfault : fault n with
  | some e =>
    rw [run_ask_of_some hfault]
    exact .failed c e
  | none =>
    have hlast := h (n + 1)
    rw [Program.run_bind, run_ofOutcome] at hlast
    rw [run_ask_of_none hfault, hanswer]
    exact hlast

private theorem performs_update {db : Database} {c : Command} {new : SavedSearch} {a : c.Answer}
    (h : Effect db c (.ok a) (db.updateSavedSearch new)) :
    Performs fault db c (do ask (.updateSavedSearch new); return a) := by
  have hanswer : Database.answer (.updateSavedSearch new) db = (.ok (), db.updateSavedSearch new) := rfl
  exact performs_ask hanswer fun _ => h

theorem perform_effect (fault : Nat → Option Error) (s : Nat × Database) (c : Command) :
    Effect s.2 c (c.perform fault s).1 (c.perform fault s).2.2 := by
  suffices hperforms : Performs fault s.2 c c.action from hperforms s.1
  cases c with
  | save r id now =>
    refine performs_ofOutcome fun name hname => ?_
    have hanswer := Database.answer_insertSavedSearch s.2 (ofRequest { r with name } id now)
    by_cases hnew : s.2.savedRow? (ofRequest { r with name } id now).id = none
    · exact performs_ask (hanswer.trans (if_pos hnew)) fun _ => .saved now hname hnew
    · exact performs_ask (hanswer.trans (if_neg hnew)) fun _ => .failed _ _
  | list userId =>
    have hanswer : Database.answer (.listSavedSearches userId) s.2 = (s.2.listSavedSearches userId, s.2) := rfl
    refine performs_ask hanswer fun _ => ?_
    cases hlist : s.2.listSavedSearches userId with
    | error e => exact .failed _ e
    | ok found => exact .listed hlist
  | get id caller =>
    intro n
    obtain ⟨outcome, hrun, howned⟩ := run_owned fault (n, s.2) id caller
    rw [action, hrun]
    cases outcome with
    | error e => exact .failed _ e
    | ok old => exact .got (howned old rfl)
  | update id caller u now =>
    refine performs_owned fun old hold => performs_ofOutcome fun name hname => ?_
    exact performs_update (.updated hold now hname)
  | delete id caller =>
    refine performs_owned fun old hold => ?_
    exact performs_ask (Database.answer_deleteSavedSearch hold) fun _ => .deleted hold
  | markUsed id caller now =>
    refine performs_owned fun old hold => ?_
    cases hused : old.used? now with
    | none => exact fun _ => .uncounted hold hused
    | some new => exact performs_update (.used hold hused)

/-- A call about a saved search that is not the caller's comes to finding that out. -/
private theorem perform_eq_error {c : Command} {id : Uuid} (htarget : c.target? = some id) (hfault : fault s.1 = none)
    {e : Error} (h : s.2.ownedBy id c.caller = .error e) : (c.perform fault s).1 = .error e := by
  have hrun : ∀ caller, s.2.ownedBy id caller = .error e →
      (owned id caller).run.run (Database.failing fault) s = (.error e, s.1 + 1, s.2) := by
    intro caller h
    rw [run_owned_of_none hfault, h]
  cases c with
  | save r id now => cases htarget
  | list userId => cases htarget
  | get _ caller =>
    obtain rfl := Option.some.inj htarget
    rw [perform, action, hrun caller h]
  | update _ caller u now =>
    obtain rfl := Option.some.inj htarget
    rw [perform, action, SavedSearch.update, Program.run_bind, hrun caller h]
  | delete _ caller =>
    obtain rfl := Option.some.inj htarget
    rw [perform, action, SavedSearch.delete, Program.run_bind, hrun caller h]
  | markUsed _ caller now =>
    obtain rfl := Option.some.inj htarget
    rw [perform, action, SavedSearch.markUsed, Program.run_bind, hrun caller h]

private theorem perform_update_of_isBlank {id : Uuid} {caller : String} {old : SavedSearch}
    (h : s.2.Owned id caller old)
    (hfault : fault s.1 = none) {u : SavedUpdate} {name : String} (hname : u.name = some name)
    (hblank : Text.isBlank name = true) (now : Instant) :
    ((Command.update id caller u now).perform fault s).1 = .error (.request .blankName) := by
  rw [perform, action, SavedSearch.update, Program.run_bind, run_owned_of_none hfault, Database.ownedBy_eq_ok.2 h]
  dsimp only
  rw [Program.run_bind, run_ofOutcome, updatedName, hname]
  dsimp only
  rw [checkName, if_pos hblank]

/-! ### When a call succeeds -/

/-- A call that has nothing against it: a new name is not blank, and what is asked for is there and the caller's. -/
def Allowed (db : Database) : Command → Prop
  | .save r id _ => Text.isBlank r.name = false ∧ db.getSavedSearch id = .ok none
  | .list userId => ∃ found, db.listSavedSearches userId = .ok found
  | .update id caller u _ => (∃ old, db.Owned id caller old) ∧ ∀ name, u.name = some name → Text.isBlank name = false
  | .get id caller | .delete id caller | .markUsed id caller _ => ∃ old, db.Owned id caller old

private theorem Effect.allowed {db db' : Database} {c : Command} {a : c.Answer} (h : Effect db c (.ok a) db') :
    c.Allowed db := by
  cases h with
  | saved now hname hnew => exact ⟨(checkName_eq_ok.1 hname).1, Database.getSavedSearch_eq_none.2 hnew⟩
  | listed h => exact ⟨_, h⟩
  | got h => exact ⟨_, h⟩
  | updated h now hname => exact ⟨⟨_, h⟩, (updatedName_eq_ok.1 hname).1⟩
  | deleted h => exact ⟨_, h⟩
  | used h _ => exact ⟨_, h⟩
  | uncounted h _ => exact ⟨_, h⟩

theorem exists_perform_eq_ok {c : Command} (h : c.Allowed s.2) (hfirst : fault s.1 = none)
    (hsecond : fault (s.1 + 1) = none) : ∃ a, (c.perform fault s).1 = .ok a := by
  cases c with
  | save r id now =>
    obtain ⟨hname, hnew⟩ := h
    refine ⟨ofRequest { r with name := Text.trim r.name } id now, ?_⟩
    rw [perform, action, SavedSearch.save, Program.run_bind, run_ofOutcome, checkName_eq_ok.2 ⟨hname, rfl⟩]
    dsimp only
    rw [Program.run_bind, run_ask_of_none hfirst, Database.answer_insertSavedSearch, if_pos]
    · rfl
    · exact Database.getSavedSearch_eq_none.1 hnew
  | list userId =>
    obtain ⟨found, hfound⟩ := h
    refine ⟨found.mergeSort inOrder, ?_⟩
    rw [perform, action, SavedSearch.list, Program.run_bind, run_ask_of_none hfirst, Database.answer, hfound]
    rfl
  | get id caller =>
    obtain ⟨old, hold⟩ := h
    refine ⟨old, ?_⟩
    rw [perform, action, run_owned_of_none hfirst, Database.ownedBy_eq_ok.2 hold]
  | update id caller u now =>
    obtain ⟨⟨old, hold⟩, hname⟩ := h
    refine ⟨old.updated u ((u.name.map Text.trim).getD old.name) now, ?_⟩
    rw [perform, action, SavedSearch.update, Program.run_bind, run_owned_of_none hfirst,
      Database.ownedBy_eq_ok.2 hold]
    dsimp only
    rw [Program.run_bind, run_ofOutcome, updatedName_eq_ok.2 ⟨hname, rfl⟩]
    dsimp only
    rw [run_updateSavedSearch, hsecond]
  | delete id caller =>
    obtain ⟨old, hold⟩ := h
    refine ⟨(), ?_⟩
    rw [perform, action, SavedSearch.delete, Program.run_bind, run_owned_of_none hfirst,
      Database.ownedBy_eq_ok.2 hold]
    dsimp only
    rw [Program.run_bind, run_ask_of_none hsecond, Database.answer_deleteSavedSearch hold]
    rfl
  | markUsed id caller now =>
    obtain ⟨old, hold⟩ := h
    refine ⟨old.used? now, ?_⟩
    rw [perform, action, SavedSearch.markUsed, Program.run_bind, run_owned_of_none hfirst,
      Database.ownedBy_eq_ok.2 hold]
    dsimp only
    cases old.used? now with
    | none => rfl
    | some new =>
      dsimp only
      rw [run_updateSavedSearch, hsecond]

private theorem heeds_action (c : Command) : Heeds fault c.action := by
  cases c with
  | save r id now =>
    exact heeds_bind (heeds_ofOutcome _) fun _ => heeds_bind (heeds_ask _) fun _ => heeds_pure _
  | list userId => exact heeds_bind (heeds_ask _) fun _ => heeds_pure _
  | get id caller => exact heeds_owned id caller
  | update id caller u now =>
    exact heeds_bind (heeds_owned id caller) fun _ => heeds_bind (heeds_ofOutcome _) fun _ =>
      heeds_bind (heeds_ask _) fun _ => heeds_pure _
  | delete id caller =>
    refine heeds_bind (heeds_owned id caller) fun _ => heeds_bind (heeds_ask _) fun removed => ?_
    split
    · exact heeds_pure _
    · exact heeds_throw _
  | markUsed id caller now =>
    refine heeds_bind (heeds_owned id caller) fun old => ?_
    cases old.used? now with
    | none => exact heeds_pure _
    | some new => exact heeds_bind (heeds_ask _) fun _ => heeds_pure _

end

/-! ### What a call has done -/

/-- What a call that succeeds with an answer has done to a database. -/
def Done (db db' : Database) : (c : Command) → c.Answer → Prop
  | .save r id now, new =>
    new = ofRequest { r with name := Text.trim r.name } id now ∧ db'.getSavedSearch id = .ok (some new) ∧
      SameBeside id db db'
  | .list _, _ => db' = db
  | .get id _, old => db.getSavedSearch id = .ok (some old) ∧ db' = db
  | .update id _ u now, new => ∃ old : SavedSearch,
    db.getSavedSearch id = .ok (some old) ∧ db'.getSavedSearch id = .ok (some new) ∧ SameBeside id db db' ∧
      new = { old with
        name := (u.name.map Text.trim).getD old.name
        query := u.query.getD old.query
        filters := u.filters.getD old.filters
        scope := u.scope.getD old.scope
        isPinned := u.isPinned.getD old.isPinned
        updatedAt := now }
  | .delete id _, _ => db'.getSavedSearch id = .ok none ∧ SameBeside id db db'
  | .markUsed id _ now, some new => ∃ old : SavedSearch,
    db.getSavedSearch id = .ok (some old) ∧ db'.getSavedSearch id = .ok (some new) ∧ SameBeside id db db' ∧
      new = { old with usageCount := old.usageCount + 1, lastUsedAt := some now, updatedAt := now }
  | .markUsed id _ _, none =>
    (∃ old, db.getSavedSearch id = .ok (some old) ∧ greatestCount ≤ old.usageCount) ∧ db' = db

namespace Effect

variable {db db' : Database} {c : Command} {outcome : Except Error c.Answer}

theorem done {a : c.Answer} (h : Effect db c (.ok a) db') : c.Done db db' a := by
  cases h with
  | saved now hname hnew =>
    obtain ⟨-, rfl⟩ := checkName_eq_ok.1 hname
    exact ⟨rfl, Database.getSavedSearch_pushSaved hnew, Database.sameBeside_pushSaved db (ofRequest _ _ now)⟩
  | listed h => rfl
  | got h => exact ⟨h.1, rfl⟩
  | @updated id caller old h u now name hname =>
    obtain ⟨-, rfl⟩ := updatedName_eq_ok.1 hname
    refine ⟨old, h.1, Database.getSavedSearch_updateSavedSearch h rfl rfl rfl, ?_, rfl⟩
    exact h.id_eq ▸ Database.sameBeside_updateSavedSearch db (old.updated u _ now)
  | deleted h => exact ⟨Database.getSavedSearch_eraseSaved _ _, Database.sameBeside_eraseSaved _ _⟩
  | @used id caller old new h now hused =>
    obtain rfl := used?_eq_some hused
    refine ⟨old, h.1, Database.getSavedSearch_updateSavedSearch h rfl rfl rfl, ?_, rfl⟩
    exact h.id_eq ▸ Database.sameBeside_updateSavedSearch db { old with
      usageCount := old.usageCount + 1, lastUsedAt := some now, updatedAt := now }
  | uncounted h hused => exact ⟨⟨_, h.1, used?_eq_none hused⟩, rfl⟩

private theorem atomic {e : Error} (h : Effect db c (.error e) db') : db' = db := by
  cases h
  rfl

theorem savedKeyed (h : Effect db c outcome db') (hkeyed : db.SavedKeyed) : db'.SavedKeyed := by
  cases h with
  | saved now hname hnew => exact Database.savedKeyed_pushSaved hnew hkeyed
  | updated _ _ _ => exact Database.savedKeyed_updateSavedSearch hkeyed _
  | used _ _ => exact Database.savedKeyed_updateSavedSearch hkeyed _
  | deleted _ => exact Database.savedKeyed_eraseSaved _ hkeyed
  | failed | listed _ | got _ | uncounted _ _ => exact hkeyed

private theorem savedReadable (h : Effect db c outcome db') (hreadable : db.SavedReadable) : db'.SavedReadable := by
  cases h with
  | saved _ _ _ => exact Database.savedReadable_pushSaved hreadable
  | updated _ _ _ => exact Database.savedReadable_updateSavedSearch hreadable _
  | used _ _ => exact Database.savedReadable_updateSavedSearch hreadable _
  | deleted _ => exact Database.savedReadable_eraseSaved _ hreadable
  | failed | listed _ | got _ | uncounted _ _ => exact hreadable

private theorem sameOrigins (h : Effect db c outcome db') (hkeyed : db.SavedKeyed) : SameOrigins db db' := by
  cases h with
  | saved now hname hnew => exact Database.sameOrigins_pushSaved hnew hkeyed
  | updated _ _ _ => exact Database.sameOrigins_updateSavedSearch hkeyed _
  | used _ _ => exact Database.sameOrigins_updateSavedSearch hkeyed _
  | deleted _ => exact Database.sameOrigins_eraseSaved _ hkeyed
  | failed | listed _ | got _ | uncounted _ _ => exact SameOrigins.refl hkeyed

/-- The saved searches of others than the caller stay as they are. -/
theorem savedOf_eq (h : Effect db c outcome db') (hkeyed : db.SavedKeyed) {userId : String}
    (hcaller : c.caller ≠ userId) : db'.savedOf userId = db.savedOf userId := by
  cases h with
  | saved _ _ _ => exact Database.savedOf_pushSaved _ hcaller
  | updated h _ _ =>
    refine Database.savedOf_updateSavedSearch hkeyed h ?_ hcaller
    rfl
  | used h hused =>
    refine Database.savedOf_updateSavedSearch hkeyed h ?_ hcaller
    rw [used?_eq_some hused]
  | deleted h => exact Database.savedOf_eraseSaved hkeyed h hcaller
  | failed | listed _ | got _ | uncounted _ _ => rfl

end Effect

/-! ### Runs -/

/-- How a call is conducted that meets a database, comes to an outcome and leaves a database behind. -/
structure Conducted (fault : Nat → Option Error) (s : Nat × Database) (c : Command) (outcome : Except Error c.Answer)
    (s' : Nat × Database) : Prop where
  /-- What is not stored is not found. -/
  missing : ∀ id, c.target? = some id → fault s.1 = none → s.2.getSavedSearch id = .ok none →
    outcome = .error (.savedSearchNotFound id.render)
  /-- What belongs to somebody else is denied, whatever else may be wrong with the call. -/
  denied : ∀ id old, c.target? = some id → fault s.1 = none → s.2.getSavedSearch id = .ok (some old) →
    old.userId ≠ c.caller → outcome = .error (.permissionDenied c.caller id.render)
  /-- The owner cannot give a blank name. -/
  blank : ∀ id caller u now, c = .update id caller u now → fault s.1 = none → (∃ old, s.2.Owned id caller old) →
    (∃ name, u.name = some name ∧ Text.isBlank name = true) → outcome = .error (.request .blankName)
  /-- A call of which a call to the database fails fails too. -/
  faulty : ∀ i, s.1 ≤ i → i < s'.1 → fault i ≠ none → ∃ e, outcome = .error e
  /-- Otherwise a call succeeds if nothing is against it. -/
  succeeds : fault s.1 = none → fault (s.1 + 1) = none → ((∃ a, outcome = .ok a) ↔ c.Allowed s.2)
  /-- A call that fails changes nothing. -/
  atomic : ∀ e, outcome = .error e → s'.2 = s.2
  /-- A call that succeeds does what it was asked for, and nothing else. -/
  done : ∀ a, outcome = .ok a → c.Done s.2 s'.2 a
  /-- No call changes the owner of a saved search or the time at which it was created. -/
  origins : SameOrigins s.2 s'.2
  /-- Saved searches that can be read can be read after the call. -/
  readable : s.2.SavedReadable → s'.2.SavedReadable

variable {fault : Nat → Option Error} {s : Nat × Database}

private theorem conducted_perform (hkeyed : s.2.SavedKeyed) (c : Command) :
    Conducted fault s c (c.perform fault s).1 (c.perform fault s).2 := by
  have heffect := perform_effect fault s c
  constructor
  case missing =>
    intro id htarget hfault hnone
    exact perform_eq_error htarget hfault (Database.ownedBy_of_none hnone)
  case denied =>
    intro id old htarget hfault hold huser
    refine perform_eq_error htarget hfault ?_
    rw [Database.ownedBy_of_some hold, if_neg huser]
  case blank =>
    rintro id caller u now rfl hfault ⟨old, hold⟩ ⟨name, hname, hblank⟩
    exact perform_update_of_isBlank hold hfault hname hblank now
  case faulty =>
    intro i hle hlt hfault
    cases houtcome : (c.perform fault s).1 with
    | error e => exact ⟨e, rfl⟩
    | ok a => exact absurd (heeds_action c s a houtcome i hle hlt) hfault
  case succeeds =>
    intro hfirst hsecond
    refine ⟨?_, fun hallowed => exists_perform_eq_ok hallowed hfirst hsecond⟩
    rintro ⟨a, ha⟩
    rw [ha] at heffect
    exact heffect.allowed
  case atomic =>
    intro e he
    rw [he] at heffect
    exact heffect.atomic
  case done =>
    intro a ha
    rw [ha] at heffect
    exact heffect.done
  case origins => exact heffect.sameOrigins hkeyed
  case readable => exact heffect.savedReadable

private theorem savedKeyed_runAll (hkeyed : s.2.SavedKeyed) (cs : List Command) : (runAll fault cs s).2.SavedKeyed := by
  induction cs generalizing s with
  | nil => exact hkeyed
  | cons c cs ih => exact ih ((perform_effect fault s c).savedKeyed hkeyed)

private theorem savedOf_runAll (hkeyed : s.2.SavedKeyed) {cs : List Command} {userId : String}
    (hcallers : ∀ c ∈ cs, c.caller ≠ userId) : (runAll fault cs s).2.savedOf userId = s.2.savedOf userId := by
  induction cs generalizing s with
  | nil => rfl
  | cons c cs ih =>
    have hstep := (perform_effect fault s c).savedOf_eq hkeyed (hcallers c List.mem_cons_self)
    have hrest := ih ((perform_effect fault s c).savedKeyed hkeyed) fun d hd =>
      hcallers d (List.mem_cons_of_mem c hd)
    exact hrest.trans hstep

/-- Whatever calls of whatever users have been made, and whatever the database has failed to answer, the next call is
conducted as it should be; and calls of others leave the saved searches of a user as they are. -/
theorem run_conducted (fault : Nat → Option Error) {s : Nat × Database} (hkeyed : s.2.SavedKeyed) (cs : List Command) :
    (∀ c : Command, Conducted fault (runAll fault cs s) c (c.perform fault (runAll fault cs s)).1
      (c.perform fault (runAll fault cs s)).2) ∧
    ∀ userId, (∀ c ∈ cs, c.caller ≠ userId) → (runAll fault cs s).2.savedOf userId = s.2.savedOf userId :=
  ⟨conducted_perform (savedKeyed_runAll hkeyed cs), fun _ => savedOf_runAll hkeyed⟩

private def noon : Instant := ⟨1704110400, 0, Instant.epoch.nanos_lt, by decide, by decide, by decide⟩

private def one : Uuid := default

private def two : Uuid := ⟨List.replicate 32 (Fin.last 15), rfl⟩

private def reports : SavedSearch := ofRequest { userId := "ann", name := "reports", query := "report" } one noon

/-- Bob gets nowhere with a saved search of Ann's, however he tries, and Ann not with a blank name. -/
theorem run_conducted_ann_and_bob :
    let db := Database.pushSaved {} reports
    let fault (n : Nat) : Option Error := if n = 1 then some (.database .missingParent) else none
    let tries : List Command := [.delete one "bob", .save { userId := "bob", name := "mine", query := "plan" } two noon,
      .save { userId := "bob", name := "mine", query := "plan" } two noon,
      .update one "bob" { query := some "plan" } noon, .markUsed one "bob" noon]
    db.SavedKeyed ∧ (∀ c ∈ tries, c.caller ≠ "ann") ∧
      (runAll fault tries (0, db)).2.savedOf "ann" = [reports.toStored] ∧
      ((Command.update one "bob" { name := some " " } noon).perform fault (0, db)).1 =
        .error (.permissionDenied "bob" one.render) ∧
      ((Command.update one "ann" { name := some " " } noon).perform fault (0, db)).1 = .error (.request .blankName) ∧
      ((Command.get two "ann").perform fault (0, db)).1 = .error (.savedSearchNotFound two.render) := by
  intro db fault tries
  have hkeyed : db.SavedKeyed := by
    rw [Database.SavedKeyed, Database.toList_pushSaved]
    simp
  have hstored : db.getSavedSearch one = .ok (some reports) := Database.getSavedSearch_pushSaved (s := reports) rfl
  have hcallers : ∀ c ∈ tries, c.caller ≠ "ann" := by
    simp only [tries, List.forall_mem_cons]
    decide
  obtain ⟨hfirst, -⟩ := run_conducted fault (s := (0, db)) hkeyed []
  obtain ⟨-, hann⟩ := run_conducted fault (s := (0, db)) hkeyed tries
  refine ⟨hkeyed, hcallers, hann "ann" hcallers, ?_, ?_, ?_⟩
  · exact (hfirst _).denied one reports rfl rfl hstored (by decide)
  · exact (hfirst _).blank one "ann" _ noon rfl rfl ⟨reports, hstored, rfl⟩ ⟨" ", rfl, by decide⟩
  · exact (hfirst _).missing two rfl rfl (Database.getSavedSearch_eq_none.2 (by decide))

end Command

end SavedSearch

end WorkspaceSearch
