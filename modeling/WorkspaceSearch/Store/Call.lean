import WorkspaceSearch.SavedSearch
import WorkspaceSearch.Store.Lookup
import WorkspaceSearch.Store.Row

/-!
# Calls to a store

Everything that can be asked of a store, and what it answers.  A store may also fail.

A searcher or a service is a program over these calls: it has finished with a result, or it makes a call and goes on
with the answer (`Program`).  Such a program can be run on any store that has a state (`Program.run`), and the
calls it makes there are listed in order (`Program.trace`).
-/

namespace WorkspaceSearch

/-- A call to a store. -/
inductive Call where
  | searchMessages (lookup : MessageLookup)
  | searchDirectMessages (lookup : DirectMessageLookup)
  /-- The messages of some channels that have an attachment. -/
  | attachmentMessageIds (channelIds : List String)
  | searchFiles (lookup : FileLookup)
  | searchChannels (lookup : ChannelLookup)
  /-- The channels with some names or ids; a name that is not known counts for nothing. -/
  | resolveChannelIds (names : List String)
  | channelNamesWithPrefix (start : String) (limit : Nat)
  | searchUsers (lookup : UserLookup)
  /-- The users with some names, addresses or ids; a name that is not known counts for nothing. -/
  | resolveUserIds (names : List String)
  | fullNamesContaining (fragment : String) (limit : Nat)
  | recordSearch (entry : HistoryEntry)
  /-- Different queries with the given start, the one used last in front. -/
  | recentQueriesWithPrefix (userId start : String) (limit : Nat)
  | listHistory (userId : String) (limit : Nat)
  /-- Removes the history of a user; the answer is the number of entries removed. -/
  | clearHistory (userId : String)
  | insertSavedSearch (saved : SavedSearch)
  | getSavedSearch (id : Uuid)
  | listSavedSearches (userId : String)
  | updateSavedSearch (saved : SavedSearch)
  /-- Removes a saved search; the answer says whether there was one. -/
  | deleteSavedSearch (id : Uuid)
  deriving DecidableEq, Repr

namespace Call

/-- What a store answers to a call. -/
abbrev Answer : Call → Type
  | .searchMessages _ => List MessageRow
  | .searchDirectMessages _ => List DirectMessageRow
  | .attachmentMessageIds _ => List String
  | .searchFiles _ => List FileRow
  | .searchChannels _ => List ChannelRow
  | .resolveChannelIds _ => List String
  | .channelNamesWithPrefix .. => List String
  | .searchUsers _ => List UserRow
  | .resolveUserIds _ => List String
  | .fullNamesContaining .. => List String
  | .recordSearch _ => Unit
  | .recentQueriesWithPrefix .. => List String
  | .listHistory .. => List HistoryEntry
  | .clearHistory _ => Nat
  | .insertSavedSearch _ => Unit
  | .getSavedSearch _ => Option SavedSearch
  | .listSavedSearches _ => List SavedSearch
  | .updateSavedSearch _ => Unit
  | .deleteSavedSearch _ => Bool

end Call

/-- How a store with a state answers: the answer, or the reason of its failure, and the new state. -/
abbrev Store (σ : Type) : Type := (c : Call) → σ → Except Error c.Answer × σ

/-- A program over the calls to a store. -/
inductive Program (α : Type) where
  | done (result : α)
  | call (c : Call) (next : Except Error c.Answer → Program α)

namespace Program

/-- Goes on with the result of a program. -/
def andThen {α β : Type} : Program α → (α → Program β) → Program β
  | .done a, f => f a
  | .call c next, f => .call c fun answer => (next answer).andThen f

instance : Monad Program where
  pure := .done
  bind := andThen

/-- The program that makes one call. -/
def ask (c : Call) : Program (Except Error c.Answer) := .call c .done

/-- Runs a program on a store. -/
def run {σ α : Type} (store : Store σ) : Program α → σ → α × σ
  | .done a, s => (a, s)
  | .call c next, s => (next (store c s).1).run store (store c s).2

/-- The calls that a program makes when it is run on a store, in order. -/
def trace {σ α : Type} (store : Store σ) : Program α → σ → List Call
  | .done _, _ => []
  | .call c next, s => c :: (next (store c s).1).trace store (store c s).2

@[simp] theorem pure_eq {α : Type} (a : α) : (pure a : Program α) = .done a := rfl

@[simp] theorem bind_eq {α β : Type} (p : Program α) (f : α → Program β) : p >>= f = p.andThen f := rfl

/-- A program followed by another is run one after the other. -/
theorem run_andThen {σ α β : Type} (store : Store σ) (p : Program α) (f : α → Program β) (s : σ) :
    (p.andThen f).run store s = (f (p.run store s).1).run store (p.run store s).2 := by
  induction p generalizing s with
  | done a => rfl
  | call c next ih => simp [andThen, run, ih]

/-- A program that may fail goes on on the store that it leaves behind, unless it fails. -/
theorem run_bind {σ ε α β : Type} (store : Store σ) (p : ExceptT ε Program α) (f : α → ExceptT ε Program β) (s : σ) :
    (p >>= f).run.run store s =
      match p.run.run store s with
      | (.ok a, s') => (f a).run.run store s'
      | (.error e, s') => (.error e, s') := by
  have h : (p >>= f).run = p.run.andThen (ExceptT.bindCont f) := rfl
  rw [h, run_andThen]
  rcases p.run.run store s with ⟨_ | _, _⟩ <;> rfl

/-- The calls of a program followed by another are those of the first and then those of the second. -/
theorem trace_andThen {σ α β : Type} (store : Store σ) (p : Program α) (f : α → Program β) (s : σ) :
    (p.andThen f).trace store s =
      p.trace store s ++ (f (p.run store s).1).trace store (p.run store s).2 := by
  induction p generalizing s with
  | done a => rfl
  | call c next ih => simp [andThen, trace, run, ih]

end Program

end WorkspaceSearch
