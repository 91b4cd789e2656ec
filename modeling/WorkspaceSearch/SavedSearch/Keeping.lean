import WorkspaceSearch.Store.Call

/-!
# Keeping saved searches

Saving, listing, reading, changing, removing and using saved searches.  Only the owner of a saved search gets at it, and
that is checked before anything else; no store is changed by a call that is refused.

The time is a parameter, as is the identifier of a new saved search.
-/

namespace WorkspaceSearch.SavedSearch

-- the powers of the core library, whatever else is in scope
attribute [local instance (2000)] instPowNat Rat.instPowNat

/-- A program over the calls to a store that may fail. -/
abbrev Action (α : Type) : Type := ExceptT Error Program α

/-- Makes a call, and fails when it fails. -/
def ask (c : Call) : Action c.Answer := ExceptT.mk (.ask c)

/-- An outcome that takes no call. -/
def ofOutcome {α : Type} (outcome : Except Error α) : Action α := ExceptT.mk (.done outcome)

/-- A name without the blanks at both ends; a blank one is refused. -/
def checkName (name : String) : Except Error String :=
  if Text.isBlank name then .error (.request .blankName) else .ok (Text.trim name)

/-- Saves a search. -/
def save (r : SaveRequest) (id : Uuid) (now : Instant) : Action SavedSearch := do
  let name ← ofOutcome (checkName r.name)
  let saved := ofRequest { r with name } id now
  ask (.insertSavedSearch saved)
  return saved

/-- Pinned ones come first, then those used last; those never used come at the end. -/
def inOrder (a b : SavedSearch) : Bool :=
  if a.isPinned ≠ b.isPinned then a.isPinned
  else
    match a.lastUsedAt, b.lastUsedAt with
    | some s, some t => t ≤ s
    | _, none => true
    | none, some _ => false

/-- The saved searches of a user. -/
def list (userId : String) : Action (List SavedSearch) := do
  let saved ← ask (.listSavedSearches userId)
  return saved.mergeSort inOrder

/-- The saved search with an identifier, if the caller owns it. -/
def owned (id : Uuid) (caller : String) : Action SavedSearch := do
  match ← ask (.getSavedSearch id) with
  | none => throw (.savedSearchNotFound id.render)
  | some saved => if saved.userId = caller then return saved else throw (.permissionDenied caller id.render)

/-- A saved search after an update. -/
def updated (s : SavedSearch) (u : SavedUpdate) (name : String) (now : Instant) : SavedSearch :=
  { s with
    name
    query := u.query.getD s.query
    filters := u.filters.getD s.filters
    scope := u.scope.getD s.scope
    isPinned := u.isPinned.getD s.isPinned
    updatedAt := now }

/-- The name that an update leads to: its own, or the name there is. -/
def updatedName (s : SavedSearch) (u : SavedUpdate) : Except Error String :=
  match u.name with
  | some name => checkName name
  | none => .ok s.name

/-- Changes a saved search. -/
def update (id : Uuid) (caller : String) (u : SavedUpdate) (now : Instant) : Action SavedSearch := do
  let saved ← owned id caller
  let name ← ofOutcome (saved.updatedName u)
  let saved := saved.updated u name now
  ask (.updateSavedSearch saved)
  return saved

/-- Removes a saved search. -/
def delete (id : Uuid) (caller : String) : Action Unit := do
  let _ ← owned id caller
  if ← ask (.deleteSavedSearch id) then return () else throw (.savedSearchNotFound id.render)

/-- The greatest number of uses that is counted. -/
def greatestCount : Int := 2 ^ (63 : Nat) - 1

/-- A saved search after it has been used once more; none when its uses can no longer be counted. -/
def used? (s : SavedSearch) (now : Instant) : Option SavedSearch :=
  if s.usageCount < greatestCount then
    some { s with usageCount := s.usageCount + 1, lastUsedAt := some now, updatedAt := now }
  else none

/-- Counts a use of a saved search; none when its uses can no longer be counted, and nothing is changed. -/
def markUsed (id : Uuid) (caller : String) (now : Instant) : Action (Option SavedSearch) := do
  let saved ← owned id caller
  match saved.used? now with
  | none => return none
  | some saved =>
    ask (.updateSavedSearch saved)
    return some saved

end WorkspaceSearch.SavedSearch
