import Mathlib.Data.Fintype.Card
import WorkspaceSearch.Proofs.SavedSearch.Keeping

/-!
# Changes at the same time

The owner of a saved search makes several calls at the same time that change it.  Each call reads the saved search and
then writes it as a whole, and the reads and writes come in any order (`Concurrent.Course`).  So a write carries the
change of its own call and the changes carried by what the call has read, and no others (`Concurrent.Ledger`): in the
end the saved search has the changes that the last write carries.  Nothing is lost when no call writes between the read
and the write of another (`Concurrent.course_merges`), and something may be lost otherwise (`Concurrent.use_lost`).
-/

namespace WorkspaceSearch.SavedSearch

/-! ### Changes -/

/-- A change to a saved search that its owner asks for. -/
inductive Change where
  | update (u : SavedUpdate) (now : Instant)
  | use (now : Instant)

/-- A field that can be updated. -/
inductive Field where
  | name | query | filters | scope | isPinned

namespace Field

abbrev Value : Field → Type
  | .name | .query => String
  | .filters => Filters
  | .scope => Scope
  | .isPinned => Bool

def get (s : SavedSearch) : (f : Field) → f.Value
  | .name => s.name
  | .query => s.query
  | .filters => s.filters
  | .scope => s.scope
  | .isPinned => s.isPinned

/-- The value that an update gives to a field, if it gives one. -/
def given (u : SavedUpdate) : (f : Field) → Option f.Value
  | .name => u.name.map Text.trim
  | .query => u.query
  | .filters => u.filters
  | .scope => u.scope
  | .isPinned => u.isPinned

end Field

namespace Change

/-- The call that asks for a change. -/
def command (id : Uuid) (owner : String) : Change → Command
  | .update u now => .update id owner u now
  | .use now => .markUsed id owner now

/-- What a change makes of a saved search. -/
def apply (s : SavedSearch) : Change → SavedSearch
  | .update u now => s.updated u ((u.name.map Text.trim).getD s.name) now
  | .use now => { s with usageCount := s.usageCount + 1, lastUsedAt := some now, updatedAt := now }

def isUse : Change → Bool
  | .update .. => false
  | .use _ => true

/-- The value that a change gives to a field, if it gives one. -/
def gives (f : Field) : Change → Option f.Value
  | .update u _ => f.given u
  | .use _ => none

private theorem get_apply (s : SavedSearch) (c : Change) (f : Field) :
    f.get (c.apply s) = (c.gives f).getD (f.get s) := by
  cases c <;> cases f <;> rfl

private theorem usageCount_apply (s : SavedSearch) (c : Change) :
    (c.apply s).usageCount = s.usageCount + if c.isUse then 1 else 0 := by
  cases c with
  | update u now => exact (Int.add_zero _).symm
  | use now => rfl

private theorem origin_apply (s : SavedSearch) (c : Change) :
    (c.apply s).id = s.id ∧ (c.apply s).userId = s.userId ∧ (c.apply s).createdAt = s.createdAt := by
  cases c <;> exact ⟨rfl, rfl, rfl⟩

end Change

/-- Whether a call that has come to an outcome has done what it was asked for. -/
def Command.succeeds : (c : Command) → Except Error c.Answer → Bool
  | .markUsed .., .ok used => used.isSome
  | _, .ok _ => true
  | _, .error _ => false

namespace Concurrent

/-! ### Several changes -/

section

variable {ι : Type} (calls : ι → Change)

/-- A saved search after some changes, one after the other. -/
def after (s : SavedSearch) (carried : List ι) : SavedSearch := carried.foldl (fun s i => (calls i).apply s) s

variable (s : SavedSearch)

private theorem after_snoc (carried : List ι) (i : ι) :
    after calls s (carried ++ [i]) = (calls i).apply (after calls s carried) := by
  rw [after, List.foldl_append]
  rfl

private theorem origin_after (carried : List ι) :
    (after calls s carried).id = s.id ∧ (after calls s carried).userId = s.userId ∧
      (after calls s carried).createdAt = s.createdAt := by
  induction carried using List.reverseRecOn with
  | nil => exact ⟨rfl, rfl, rfl⟩
  | append_singleton carried i ih =>
    obtain ⟨hid, huser, hcreated⟩ := (calls i).origin_apply (after calls s carried)
    rw [after_snoc]
    exact ⟨hid.trans ih.1, huser.trans ih.2.1, hcreated.trans ih.2.2⟩

private theorem usageCount_after (carried : List ι) :
    (after calls s carried).usageCount = s.usageCount + (carried.filter fun i => (calls i).isUse).length := by
  induction carried using List.reverseRecOn with
  | nil => exact (Int.add_zero _).symm
  | append_singleton carried i ih =>
    rw [after_snoc, Change.usageCount_apply, ih, List.filter_append, List.length_append, List.filter_singleton]
    cases (calls i).isUse <;> simp [Int.add_assoc]

private theorem get_after_of_none {f : Field} {carried : List ι} (h : ∀ i ∈ carried, (calls i).gives f = none) :
    f.get (after calls s carried) = f.get s := by
  induction carried using List.reverseRecOn with
  | nil => rfl
  | append_singleton carried i ih =>
    rw [after_snoc, Change.get_apply, h i (List.mem_append_right _ (List.mem_singleton_self i)), Option.getD_none]
    exact ih fun j hj => h j (List.mem_append_left _ hj)

/-- A field that only one of the changes gives a value has this value. -/
private theorem get_after {f : Field} {i : ι} {v : f.Value} (hv : (calls i).gives f = some v) {carried : List ι}
    (hmem : i ∈ carried) (hsole : ∀ j ∈ carried, (calls j).gives f ≠ none → j = i) :
    f.get (after calls s carried) = v := by
  induction carried using List.reverseRecOn with
  | nil => cases hmem
  | append_singleton carried j ih =>
    rw [after_snoc, Change.get_apply]
    cases hgives : (calls j).gives f with
    | some w =>
      have hji := hsole j (List.mem_append_right _ (List.mem_singleton_self j)) (by simp [hgives])
      rw [hji, hv] at hgives
      exact (Option.some.inj hgives).symm
    | none =>
      have hij : i ≠ j := by
        rintro rfl
        rw [hv] at hgives
        cases hgives
      have hfront : i ∈ carried := by
        rcases List.mem_append.1 hmem with h | h
        · exact h
        · exact absurd (List.mem_singleton.1 h) hij
      exact ih hfront fun k hk => hsole k (List.mem_append_left _ hk)

end

/-! ### Reads and writes -/

/-- What happens in the course of some calls: one of them has read, has written, or was not answered. -/
inductive Event (ι : Type) where
  | read (i : ι)
  | wrote (i : ι)
  | failed (i : ι)

/-- The call that an event is about. -/
private def Event.caller {ι : Type} : Event ι → ι
  | .read i | .wrote i | .failed i => i

/-- What has happened when a call to the store has been answered. -/
def Event.of {ι : Type} (i : ι) : (c : Call) → Except Error c.Answer → Event ι
  | .updateSavedSearch _, .ok _ => .wrote i
  | _, .ok _ => .read i
  | _, .error _ => .failed i

/-- Which calls' changes are carried: by the saved search that is stored, and by what each call has read. -/
structure Ledger (ι : Type) where
  stored : List ι := []
  seen : ι → List ι := fun _ => []

section

variable {ι : Type} [DecidableEq ι]

def Ledger.next (ledger : Ledger ι) : Event ι → Ledger ι
  | .read i => { ledger with seen := Function.update ledger.seen i ledger.stored }
  | .wrote i => { ledger with stored := ledger.seen i ++ [i] }
  | .failed _ => ledger

/-- The ledger after some events. -/
def ledger (log : List (Event ι)) : Ledger ι := log.foldl Ledger.next {}

private theorem ledger_snoc (log : List (Event ι)) (e : Event ι) : ledger (log ++ [e]) = (ledger log).next e := by
  rw [ledger, List.foldl_append]
  rfl

/-- Only calls that have written are carried. -/
private theorem wrote_of_carried {log : List (Event ι)} {i : ι} :
    (i ∈ (ledger log).stored → .wrote i ∈ log) ∧ ∀ j, i ∈ (ledger log).seen j → .wrote i ∈ log := by
  induction log using List.reverseRecOn with
  | nil => exact ⟨fun h => absurd h List.not_mem_nil, fun _ h => absurd h List.not_mem_nil⟩
  | append_singleton log e ih =>
    obtain ⟨hstored, hseen⟩ := ih
    rw [ledger_snoc]
    simp only [List.mem_append, List.mem_singleton]
    cases e with
    | read k =>
      refine ⟨fun h => .inl (hstored h), fun j h => .inl ?_⟩
      by_cases hj : j = k
      · subst hj
        simp only [Ledger.next, Function.update_self] at h
        exact hstored h
      · simp only [Ledger.next, Function.update_of_ne hj] at h
        exact hseen j h
    | wrote k =>
      refine ⟨fun h => ?_, fun j h => .inl (hseen j h)⟩
      rcases List.mem_append.1 h with h | h
      · exact .inl (hseen k h)
      · exact .inr (by rw [List.mem_singleton.1 h])
    | failed k => exact ⟨fun h => .inl (hstored h), fun j h => .inl (hseen j h)⟩

/-- No call writes between the read and the write of another call. -/
def Undisturbed (log : List (Event ι)) : Prop :=
  ∀ front middle back i, log = front ++ .read i :: middle ++ .wrote i :: back → ∀ j, .wrote j ∉ middle

omit [DecidableEq ι] in
/-- A call that is made after others have returned keeps out of their way. -/
private theorem Undisturbed.turn {log : List (Event ι)} (h : Undisturbed log) {i : ι} (hi : .read i ∉ log) :
    Undisturbed (log ++ [.read i, .wrote i]) := by
  intro front middle back k heq
  rcases List.eq_nil_or_concat back with rfl | ⟨back, e, rfl⟩
  · have hlast : log ++ [.read i] = front ++ .read k :: middle ∧ i = k := by
      rw [List.append_cons] at heq
      simpa using List.append_inj' heq rfl
    obtain ⟨hlog, rfl⟩ := hlast
    rcases List.eq_nil_or_concat middle with rfl | ⟨middle, e, rfl⟩
    · exact fun j => List.not_mem_nil
    · refine absurd ?_ hi
      rw [List.concat_eq_append, ← List.cons_append, ← List.append_assoc] at hlog
      rw [(List.append_inj' hlog rfl).1]
      simp
  · rw [List.append_cons log, List.concat_eq_append, ← List.cons_append, ← List.append_assoc] at heq
    have hfront := (List.append_inj' heq rfl).1
    rcases List.eq_nil_or_concat back with rfl | ⟨back, e, rfl⟩
    · have hend := (List.append_inj' hfront rfl).2
      cases hend
    · rw [List.concat_eq_append, ← List.cons_append, ← List.append_assoc] at hfront
      exact h front middle back k (List.append_inj' hfront rfl).1

omit [DecidableEq ι] in
private theorem Undisturbed.of_snoc {log : List (Event ι)} {e : Event ι} (h : Undisturbed (log ++ [e])) :
    Undisturbed log := by
  rintro front middle back i rfl
  exact h front middle (back ++ [e]) i (by simp)

private theorem stored_of_no_write {front rest : List (Event ι)} (h : ∀ j, .wrote j ∉ rest) :
    (ledger (front ++ rest)).stored = (ledger front).stored := by
  induction rest using List.reverseRecOn with
  | nil => rw [List.append_nil]
  | append_singleton rest e ih =>
    rw [← List.append_assoc, ledger_snoc]
    have hrest := ih fun j hj => h j (List.mem_append_left _ hj)
    cases e with
    | read k => exact hrest
    | wrote k => exact absurd (List.mem_append_right _ (List.mem_singleton_self _)) (h k)
    | failed k => exact hrest

end

/-! ### The course of the calls -/

/-- A call has returned, and has succeeded or not. -/
def Returned (c : Command) (success : Bool) (p : Program (Except Error c.Answer)) : Prop :=
  ∃ outcome, p = .done outcome ∧ c.succeeds outcome = success

/-- All that a call has still to do is to write a saved search, and it succeeds if that is answered. -/
def Writes (c : Command) (new : SavedSearch) (p : Program (Except Error c.Answer)) : Prop :=
  ∃ next, p = .call (.updateSavedSearch new) next ∧ Returned c true (next (.ok ())) ∧
    ∀ e, Returned c false (next (.error e))

/-- The owner's action on a saved search reads it first. -/
private theorem run_owned_bind {α : Type} {id : Uuid} {owner : String} {p : Action α} {f : SavedSearch → Action α}
    (hp : p = owned id owner >>= f) :
    ∃ next, p.run = .call (.getSavedSearch id) next ∧ (∀ e, next (.error e) = .done (.error e)) ∧
      ∀ old : SavedSearch, old.userId = owner → next (.ok (some old)) = (f old).run := by
  subst hp
  refine ⟨_, rfl, fun _ => rfl, fun old howner => ?_⟩
  simp only [Program.andThen, ExceptT.bindCont, if_pos howner]
  rfl

/-- A change reads the saved search, and then it either fails or writes what it makes of it. -/
private theorem run_action (c : Change) (id : Uuid) (owner : String) :
    ∃ next, (c.command id owner).action.run = .call (.getSavedSearch id) next ∧
      (∀ e, Returned (c.command id owner) false (next (.error e))) ∧
      ∀ old : SavedSearch, old.userId = owner →
        Returned (c.command id owner) false (next (.ok (some old))) ∨
          Writes (c.command id owner) (c.apply old) (next (.ok (some old))) := by
  cases c with
  | update u now =>
    obtain ⟨next, hrun, herror, hok⟩ := run_owned_bind (rfl : SavedSearch.update id owner u now = _)
    refine ⟨next, hrun, fun e => ⟨_, herror e, rfl⟩, fun old howner => ?_⟩
    rw [hok old howner]
    cases hname : old.updatedName u with
    | error e => exact .inl ⟨.error e, rfl, rfl⟩
    | ok name =>
      obtain ⟨-, rfl⟩ := updatedName_eq_ok.1 hname
      exact .inr ⟨_, rfl, ⟨_, rfl, rfl⟩, fun e => ⟨.error e, rfl, rfl⟩⟩
  | use now =>
    obtain ⟨next, hrun, herror, hok⟩ := run_owned_bind (rfl : SavedSearch.markUsed id owner now = _)
    refine ⟨next, hrun, fun e => ⟨_, herror e, rfl⟩, fun old howner => ?_⟩
    rw [hok old howner]
    cases hused : old.used? now with
    | none => exact .inl ⟨.ok none, rfl, rfl⟩
    | some new =>
      obtain rfl := used?_eq_some hused
      exact .inr ⟨_, rfl, ⟨.ok (some _), rfl, rfl⟩, fun e => ⟨.error e, rfl, rfl⟩⟩

section

variable {ι : Type} [DecidableEq ι]

/-- What some calls have still to do, and the database. -/
structure Stage (calls : ι → Change) (id : Uuid) (owner : String) where
  rest : (i : ι) → Program (Except Error ((calls i).command id owner).Answer)
  store : Nat × Database

/-- How the calls of an owner can go on from a database: at each step the next read or write of any one of them is
answered. -/
inductive Course (fault : Nat → Option Error) (calls : ι → Change) (id : Uuid) (owner : String) (s : Nat × Database) :
    List (Event ι) → Stage calls id owner → Prop
  | start : Course fault calls id owner s [] ⟨fun i => ((calls i).command id owner).action.run, s⟩
  | step {log : List (Event ι)} {stage : Stage calls id owner} {i : ι} {c : Call}
      {next : Except Error c.Answer → Program (Except Error ((calls i).command id owner).Answer)}
      (before : Course fault calls id owner s log stage) (rest : stage.rest i = .call c next) :
      Course fault calls id owner s (log ++ [.of i c (Database.failing fault c stage.store).1])
        ⟨Function.update stage.rest i (next (Database.failing fault c stage.store).1),
          (Database.failing fault c stage.store).2⟩

variable {calls : ι → Change} {id : Uuid} {owner : String}

namespace Stage

/-- Whether a call has returned and has succeeded. -/
def succeeded (stage : Stage calls id owner) (i : ι) : Bool :=
  match stage.rest i with
  | .done outcome => ((calls i).command id owner).succeeds outcome
  | .call .. => false

/-- All calls have returned. -/
def AllReturned (stage : Stage calls id owner) : Prop := ∀ i, ∃ outcome, stage.rest i = .done outcome

/-- The number of uses that have succeeded. -/
def uses [Fintype ι] (stage : Stage calls id owner) : Nat :=
  (Finset.univ.filter fun i => stage.succeeded i = true ∧ (calls i).isUse = true).card

/-- Of the calls that have succeeded, only this one gives a value to a field. -/
structure Sole (stage : Stage calls id owner) (f : Field) (i : ι) (v : f.Value) : Prop where
  succeeded : stage.succeeded i = true
  gives : (calls i).gives f = some v
  only : ∀ j, stage.succeeded j = true → (calls j).gives f ≠ none → j = i

/-- No change is lost: every use that has succeeded is counted, and a field has the value that the only update of it
that has succeeded gives it. -/
structure Complete [Fintype ι] (stage : Stage calls id owner) (init final : SavedSearch) : Prop where
  usageCount : final.usageCount = init.usageCount + stage.uses
  field : ∀ f i v, stage.Sole f i v → f.get final = v

end Stage

/-- How far a call has come when some events have happened, and what it knows. -/
inductive Progress (calls : ι → Change) (id : Uuid) (owner : String) (init : SavedSearch) (log : List (Event ι)) (i : ι)
    (p : Program (Except Error ((calls i).command id owner).Answer)) : Prop
  | reads (unwritten : .wrote i ∉ log) (rest : p = ((calls i).command id owner).action.run)
  | writes {front middle : List (Event ι)} (unwritten : .wrote i ∉ log) (split : log = front ++ .read i :: middle)
      (seen : (ledger log).seen i = (ledger front).stored)
      (rest : Writes ((calls i).command id owner) ((calls i).apply (after calls init ((ledger log).seen i))) p)
  | returned {success : Bool} (written : success = true ↔ .wrote i ∈ log)
      (rest : Returned ((calls i).command id owner) success p)

variable {init : SavedSearch} {log : List (Event ι)}

private theorem Progress.of_other {i : ι} {p : Program (Except Error ((calls i).command id owner).Answer)}
    (h : Progress calls id owner init log i p) {e : Event ι} (he : e.caller ≠ i) :
    Progress calls id owner init (log ++ [e]) i p := by
  have hwrote : .wrote i ∈ log ++ [e] ↔ .wrote i ∈ log := by
    rw [List.mem_append, List.mem_singleton, or_iff_left]
    rintro rfl
    exact he rfl
  have hseen : (ledger (log ++ [e])).seen i = (ledger log).seen i := by
    rw [ledger_snoc]
    cases e with
    | read k => exact Function.update_of_ne (Ne.symm he) _ _
    | wrote k | failed k => rfl
  cases h with
  | reads unwritten rest => exact .reads (mt hwrote.1 unwritten) rest
  | @writes front middle unwritten split seen rest =>
    have hsplit : log ++ [e] = front ++ .read i :: (middle ++ [e]) := by
      rw [split, List.append_assoc, List.cons_append]
    refine .writes (mt hwrote.1 unwritten) hsplit (hseen.trans seen) ?_
    rw [hseen]
    exact rest
  | returned written rest => exact .returned (written.trans hwrote.symm) rest

/-- The call that has been answered has gone on, and the others are where they were. -/
private theorem progress_update {rest : (i : ι) → Program (Except Error ((calls i).command id owner).Answer)}
    (h : ∀ i, Progress calls id owner init log i (rest i)) {e : Event ι} {i : ι} (he : e.caller = i)
    {p : Program (Except Error ((calls i).command id owner).Answer)}
    (hp : Progress calls id owner init (log ++ [e]) i p) (j : ι) :
    Progress calls id owner init (log ++ [e]) j (Function.update rest i p j) := by
  by_cases hj : j = i
  · subst hj
    rw [Function.update_self]
    exact hp
  · rw [Function.update_of_ne hj]
    exact (h j).of_other fun heq => hj (heq.symm.trans he)

/-- The saved search is as its changes have made it, and every call is on its way. -/
structure Accounted (init : SavedSearch) (log : List (Event ι)) (stage : Stage calls id owner) : Prop where
  stored : stage.store.2.Owned id owner (after calls init (ledger log).stored)
  progress : ∀ i, Progress calls id owner init log i (stage.rest i)
  nodup : (ledger log).stored.Nodup
  nodup_seen : ∀ i, ((ledger log).seen i).Nodup
  carried : Undisturbed log → ∀ i, .wrote i ∈ log → i ∈ (ledger log).stored

namespace Accounted

variable {stage : Stage calls id owner} (h : Accounted init log stage) (i : ι)
  {p : Program (Except Error ((calls i).command id owner).Answer)}

include h

/-- A step of a call that leaves the saved search as it is. -/
private theorem keep {e : Event ι} (he : e.caller = i) (hquiet : ∀ j, .wrote j ≠ e)
    (hseen : ∀ j, ((ledger (log ++ [e])).seen j).Nodup) (hp : Progress calls id owner init (log ++ [e]) i p) (n : Nat) :
    Accounted init (log ++ [e]) (⟨Function.update stage.rest i p, n, stage.store.2⟩ : Stage calls id owner) := by
  have hstored : (ledger (log ++ [e])).stored = (ledger log).stored := by
    refine stored_of_no_write fun j hj => hquiet j ?_
    exact List.mem_singleton.1 hj
  constructor
  case stored =>
    rw [hstored]
    exact h.stored
  case progress => exact progress_update h.progress he hp
  case nodup =>
    rw [hstored]
    exact h.nodup
  case nodup_seen => exact hseen
  case carried =>
    intro hlog j hj
    rw [hstored]
    rcases List.mem_append.1 hj with hj | hj
    · exact h.carried hlog.of_snoc j hj
    · exact absurd (List.mem_singleton.1 hj) (hquiet j)

private theorem failed (hp : Returned ((calls i).command id owner) false p) (unwritten : .wrote i ∉ log) (n : Nat) :
    Accounted init (log ++ [.failed i])
      (⟨Function.update stage.rest i p, n, stage.store.2⟩ : Stage calls id owner) := by
  have hreturned : false = true ↔ .wrote i ∈ log ++ [.failed i] := by simpa using unwritten
  refine h.keep i rfl (by simp) (fun j => ?_) (.returned hreturned hp) n
  rw [ledger_snoc]
  exact h.nodup_seen j

theorem read (hp : Returned ((calls i).command id owner) false p ∨
      Writes ((calls i).command id owner) ((calls i).apply (after calls init (ledger log).stored)) p)
    (unwritten : .wrote i ∉ log) (n : Nat) :
    Accounted init (log ++ [.read i])
      (⟨Function.update stage.rest i p, n, stage.store.2⟩ : Stage calls id owner) := by
  have hledger := ledger_snoc log (.read i)
  have hstill : .wrote i ∉ log ++ [.read i] := by simpa using unwritten
  refine h.keep i rfl (by simp) (fun j => ?_) ?_ n
  · rw [hledger]
    by_cases hj : j = i
    · subst hj
      simpa only [Ledger.next, Function.update_self] using h.nodup
    · simpa only [Ledger.next, Function.update_of_ne hj] using h.nodup_seen j
  · have hseen : (ledger (log ++ [.read i])).seen i = (ledger log).stored := by
      rw [hledger]
      exact Function.update_self _ _ _
    rcases hp with hp | hp
    · exact .returned (iff_of_false Bool.false_ne_true hstill) hp
    · refine .writes hstill rfl hseen ?_
      rw [hseen]
      exact hp

private theorem wrote (hp : Returned ((calls i).command id owner) true p) (unwritten : .wrote i ∉ log)
    {front middle : List (Event ι)} (split : log = front ++ .read i :: middle)
    (seen : (ledger log).seen i = (ledger front).stored) (n : Nat) :
    Accounted init (log ++ [.wrote i]) (⟨Function.update stage.rest i p, n,
      stage.store.2.updateSavedSearch ((calls i).apply (after calls init ((ledger log).seen i)))⟩ :
        Stage calls id owner) := by
  have hledger := ledger_snoc log (.wrote i)
  have hstored : (ledger (log ++ [.wrote i])).stored = (ledger log).seen i ++ [i] := by rw [hledger]; rfl
  have hmem : i ∉ (ledger log).seen i := mt (wrote_of_carried.2 i) unwritten
  constructor
  case stored =>
    rw [hstored, after_snoc]
    obtain ⟨hid, huser, hcreated⟩ := origin_after calls init (ledger log).stored
    obtain ⟨hid', huser', hcreated'⟩ := origin_after calls init ((ledger log).seen i ++ [i])
    rw [after_snoc] at hid' huser' hcreated'
    refine ⟨Database.getSavedSearch_updateSavedSearch h.stored (hid'.trans hid.symm) (huser'.trans huser.symm)
      (hcreated'.trans hcreated.symm), ?_⟩
    rw [huser', ← huser]
    exact h.stored.2
  case progress =>
    have hreturned : true = true ↔ .wrote i ∈ log ++ [.wrote i] := by simp
    exact progress_update h.progress rfl (.returned hreturned hp)
  case nodup =>
    rw [hstored, ← List.concat_eq_append]
    exact (h.nodup_seen i).concat hmem
  case nodup_seen =>
    rw [hledger]
    exact h.nodup_seen
  case carried =>
    intro hlog j hj
    rw [hstored]
    -- nobody has written since the call has read, so it has seen all that is carried
    have hquiet : ∀ k, .wrote k ∉ .read i :: middle := by
      intro k hk
      have hk : .wrote k ∈ middle := by simpa using hk
      exact hlog front middle [] i (by rw [split]) k hk
    have hsame : (ledger log).stored = (ledger log).seen i := by
      rw [seen, split]
      exact stored_of_no_write hquiet
    rw [← hsame]
    rcases List.mem_append.1 hj with hj | hj
    · exact List.mem_append_left _ (h.carried hlog.of_snoc j hj)
    · obtain rfl := Event.wrote.inj (List.mem_singleton.1 hj)
      exact List.mem_append_right _ (List.mem_singleton_self _)

end Accounted

/-! ### Whole courses -/

variable {fault : Nat → Option Error} {s : Nat × Database} {stage : Stage calls id owner}

private theorem accounted_step (h : Accounted init log stage) {i : ι} {c : Call}
    {next : Except Error c.Answer → Program (Except Error ((calls i).command id owner).Answer)}
    (hrest : stage.rest i = .call c next) :
    Accounted init (log ++ [.of i c (Database.failing fault c stage.store).1])
      (⟨Function.update stage.rest i (next (Database.failing fault c stage.store).1),
        (Database.failing fault c stage.store).2⟩ : Stage calls id owner) := by
  have hprogress := h.progress i
  rw [hrest] at hprogress
  cases hprogress with
  | reads unwritten rest =>
    -- a call that has not written has its whole program before it, which begins by reading
    obtain ⟨next', hrun, herror, hok⟩ := run_action (calls i) id owner
    rw [hrun] at rest
    cases rest
    cases hfault : fault stage.store.1 with
    | some e =>
      rw [Database.failing, hfault]
      exact h.failed i (herror e) unwritten _
    | none =>
      have hanswer : Database.answer (.getSavedSearch id) stage.store.2 =
          (.ok (some (after calls init (ledger log).stored)), stage.store.2) := by
        rw [Database.answer, h.stored.1]
      rw [Database.failing, hfault]
      dsimp only
      rw [hanswer]
      exact h.read i (hok _ h.stored.2) unwritten _
  | @writes front middle unwritten split seen rest =>
    obtain ⟨next', hrun, hok, herror⟩ := rest
    cases hrun
    cases hfault : fault stage.store.1 with
    | some e =>
      rw [Database.failing, hfault]
      exact h.failed i (herror e) unwritten _
    | none =>
      rw [Database.failing, hfault]
      exact h.wrote i hok unwritten split seen _
  | returned written rest =>
    obtain ⟨outcome, hdone, -⟩ := rest
    cases hdone

private theorem accounted_course (hinit : s.2.Owned id owner init) (h : Course fault calls id owner s log stage) :
    Accounted init log stage := by
  induction h with
  | start =>
    refine ⟨hinit, fun i => .reads List.not_mem_nil rfl, List.nodup_nil, fun _ => List.nodup_nil, fun _ i hi => ?_⟩
    cases hi
  | step before rest ih => exact accounted_step ih rest

private theorem Accounted.succeeded_iff (h : Accounted init log stage) (hreturned : stage.AllReturned) (i : ι) :
    stage.succeeded i = true ↔ .wrote i ∈ log := by
  obtain ⟨outcome, hdone⟩ := hreturned i
  have hprogress := h.progress i
  rw [Stage.succeeded, hdone]
  rw [hdone] at hprogress
  cases hprogress with
  | reads unwritten rest =>
    obtain ⟨next, hrun, -⟩ := run_action (calls i) id owner
    rw [hrun] at rest
    cases rest
  | writes unwritten split seen rest =>
    obtain ⟨next, hrun, -⟩ := rest
    cases hrun
  | returned written rest =>
    obtain ⟨outcome', hdone', hsuccess⟩ := rest
    cases hdone'
    rw [← written, ← hsuccess]

private theorem Course.answered (h : Course fault calls id owner s log stage) {i : ι} {c : Call}
    {next : Except Error c.Answer → Program (Except Error ((calls i).command id owner).Answer)}
    (hrest : stage.rest i = .call c next) {outcome : Except Error c.Answer} {s' : Nat × Database}
    (hanswer : Database.failing fault c stage.store = (outcome, s')) :
    Course fault calls id owner s (log ++ [.of i c outcome]) ⟨Function.update stage.rest i (next outcome), s'⟩ := by
  have hstep := h.step hrest
  rw [hanswer] at hstep
  exact hstep

/-- Each use that is carried is counted once. -/
private theorem length_uses_le [Fintype ι] {carried : List ι} (hnodup : carried.Nodup)
    (hsucceeded : ∀ i ∈ carried, stage.succeeded i = true) :
    (carried.filter fun i => (calls i).isUse).length ≤ stage.uses ∧
      ((∀ i, stage.succeeded i = true → i ∈ carried) →
        (carried.filter fun i => (calls i).isUse).length = stage.uses) := by
  have hcard := List.toFinset_card_of_nodup (hnodup.filter fun i => (calls i).isUse)
  rw [← hcard, Stage.uses]
  constructor
  · refine Finset.card_le_card fun i hi => ?_
    obtain ⟨hmem, huse⟩ := List.mem_filter.1 (List.mem_toFinset.1 hi)
    exact Finset.mem_filter.2 ⟨Finset.mem_univ i, hsucceeded i hmem, huse⟩
  · intro hall
    congr 1
    ext i
    simp only [List.mem_toFinset, List.mem_filter, Finset.mem_filter, Finset.mem_univ, true_and]
    exact and_congr_left fun _ => ⟨hsucceeded i, hall i⟩

/-- When some changes to a saved search that are made at the same time have returned, it has the changes that the last
write carries, which are changes that succeeded, each of them once.  So no more uses are counted than have succeeded,
and a field that one update has changed has its value or still the one that it had.  Nothing is lost if no call writes
between the read and the write of another. -/
theorem course_merges [Fintype ι] (hinit : s.2.Owned id owner init) (hcourse : Course fault calls id owner s log stage)
    (hreturned : stage.AllReturned) :
    ∃ final, stage.store.2.getSavedSearch id = .ok (some final) ∧
      (Undisturbed log → stage.Complete init final) ∧
      final = after calls init (ledger log).stored ∧ (ledger log).stored.Nodup ∧
      (∀ i ∈ (ledger log).stored, stage.succeeded i = true) ∧
      final.usageCount ≤ init.usageCount + stage.uses ∧
      ∀ f i v, stage.Sole f i v → f.get final = v ∨ f.get final = f.get init := by
  have haccounted := accounted_course hinit hcourse
  have hsucceeded : ∀ i ∈ (ledger log).stored, stage.succeeded i = true := fun i hi =>
    (haccounted.succeeded_iff hreturned i).2 (wrote_of_carried.1 hi)
  obtain ⟨hle, heq⟩ := length_uses_le haccounted.nodup hsucceeded
  have hcount := usageCount_after calls init (ledger log).stored
  have hfield : ∀ f i v, stage.Sole f i v → i ∈ (ledger log).stored →
      f.get (after calls init (ledger log).stored) = v := fun f i v hsole hi =>
    get_after calls init hsole.gives hi fun j hj => hsole.only j (hsucceeded j hj)
  refine ⟨_, haccounted.stored.1, fun hlog => ?_, rfl, haccounted.nodup, hsucceeded, ?_, fun f i v hsole => ?_⟩
  · have hall : ∀ i, stage.succeeded i = true → i ∈ (ledger log).stored := fun i hi =>
      haccounted.carried hlog i ((haccounted.succeeded_iff hreturned i).1 hi)
    refine ⟨?_, fun f i v hsole => hfield f i v hsole (hall i hsole.succeeded)⟩
    rw [hcount, heq hall]
  · rw [hcount]
    omega
  · -- a change that is not carried is lost, and with it the only one of its field
    by_cases hi : i ∈ (ledger log).stored
    · exact .inl (hfield f i v hsole hi)
    · refine .inr (get_after_of_none calls init fun j hj => ?_)
      by_contra hgives
      exact hi (hsole.only j (hsucceeded j hj) hgives ▸ hj)

end

private def dailyPlans : SavedSearch :=
  ofRequest { userId := "ann", name := "daily", query := "plan" } default .epoch

private def plansShelf : Database := Database.pushSaved {} dailyPlans

private def usedPlans : SavedSearch := (Change.use .epoch).apply dailyPlans

private def twoUses : Bool → Change := fun _ => .use .epoch

private theorem owned_plans : plansShelf.Owned default "ann" dailyPlans :=
  ⟨Database.getSavedSearch_pushSaved (s := dailyPlans) rfl, rfl⟩

private theorem read_plans (n : Nat) {db : Database} {s : SavedSearch} (h : db.Owned default "ann" s) :
    Database.failing (fun _ => none) (.getSavedSearch default) (n, db) = (.ok (some s), n + 1, db) := by
  rw [Database.failing, Database.answer, h.1]

private theorem uses_of_succeeded {stage : Stage twoUses default "ann"} (h : ∀ i, stage.succeeded i = true) :
    stage.uses = 2 := by
  rw [Stage.uses, Finset.filter_true_of_mem fun i _ => ⟨h i, rfl⟩]
  rfl

private theorem exists_course_in_turn : ∃ stage, Course (fun _ => none) twoUses default "ann" (0, plansShelf)
    [.read false, .wrote false, .read true, .wrote true] stage ∧ stage.AllReturned := by
  have hused : (plansShelf.updateSavedSearch usedPlans).Owned default "ann" usedPlans :=
    ⟨Database.getSavedSearch_updateSavedSearch owned_plans rfl rfl rfl, rfl⟩
  have h0 : Course (fun _ => none) twoUses default "ann" (0, plansShelf) [] _ := .start
  have h1 := h0.answered (i := false) rfl (read_plans 0 owned_plans)
  have h2 := h1.answered (i := false) rfl rfl
  have h3 := h2.answered (i := true) rfl (read_plans 2 hused)
  have h4 := h3.answered (i := true) rfl rfl
  exact ⟨_, h4, Bool.forall_bool.2 ⟨⟨_, rfl⟩, ⟨_, rfl⟩⟩⟩

private theorem exists_course_crossed : ∃ stage, Course (fun _ => none) twoUses default "ann" (0, plansShelf)
    [.read false, .read true, .wrote false, .wrote true] stage ∧ stage.AllReturned := by
  have h0 : Course (fun _ => none) twoUses default "ann" (0, plansShelf) [] _ := .start
  have h1 := h0.answered (i := false) rfl (read_plans 0 owned_plans)
  have h2 := h1.answered (i := true) rfl (read_plans 1 owned_plans)
  have h3 := h2.answered (i := false) rfl rfl
  have h4 := h3.answered (i := true) rfl rfl
  exact ⟨_, h4, Bool.forall_bool.2 ⟨⟨_, rfl⟩, ⟨_, rfl⟩⟩⟩

/-- Two uses, the second of which begins when the first has returned, are both counted. -/
theorem course_merges_in_turn :
    ∃ stage final, plansShelf.Owned default "ann" dailyPlans ∧
      Course (fun _ => none) twoUses default "ann" (0, plansShelf)
        [.read false, .wrote false, .read true, .wrote true] stage ∧ stage.AllReturned ∧
      Undisturbed [.read false, .wrote false, .read true, .wrote true] ∧ (∀ i, stage.succeeded i = true) ∧
      stage.store.2.getSavedSearch default = .ok (some final) ∧ final.usageCount = 2 := by
  obtain ⟨stage, hcourse, hreturned⟩ := exists_course_in_turn
  have hnone : Undisturbed ([] : List (Event Bool)) := by
    intro front middle back i h
    simp at h
  have hlog := (hnone.turn (i := false) List.not_mem_nil).turn (i := true) (by simp)
  have hsucceeded : ∀ i, stage.succeeded i = true := by
    intro i
    rw [(accounted_course (s := (0, plansShelf)) owned_plans hcourse).succeeded_iff hreturned]
    cases i <;> simp
  obtain ⟨final, hfinal, hcomplete, -⟩ := course_merges (s := (0, plansShelf)) owned_plans hcourse hreturned
  refine ⟨stage, final, owned_plans, hcourse, hreturned, hlog, hsucceeded, hfinal, ?_⟩
  rw [(hcomplete hlog).usageCount, uses_of_succeeded hsucceeded]
  rfl

/-- Of two uses that both read before either writes, one is lost, although both succeed. -/
theorem use_lost :
    ∃ stage final, plansShelf.Owned default "ann" dailyPlans ∧
      Course (fun _ => none) twoUses default "ann" (0, plansShelf)
        [.read false, .read true, .wrote false, .wrote true] stage ∧ stage.AllReturned ∧
      (∀ i, stage.succeeded i = true) ∧ stage.store.2.getSavedSearch default = .ok (some final) ∧
      final.usageCount = 1 ∧ ¬stage.Complete dailyPlans final := by
  obtain ⟨stage, hcourse, hreturned⟩ := exists_course_crossed
  have haccounted := accounted_course (s := (0, plansShelf)) owned_plans hcourse
  have hsucceeded : ∀ i, stage.succeeded i = true := by
    intro i
    rw [haccounted.succeeded_iff hreturned]
    cases i <;> simp
  refine ⟨stage, _, owned_plans, hcourse, hreturned, hsucceeded, haccounted.stored.1, rfl, ?_⟩
  intro hcomplete
  have hcount : (1 : Int) = 0 + stage.uses := hcomplete.usageCount
  rw [uses_of_succeeded hsucceeded] at hcount
  omega

end Concurrent

end WorkspaceSearch.SavedSearch
