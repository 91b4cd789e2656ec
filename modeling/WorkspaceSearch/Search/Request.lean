import WorkspaceSearch.Condition
import WorkspaceSearch.Query.Operators
import WorkspaceSearch.Relevance.Context
import WorkspaceSearch.Relevance.Highlight
import WorkspaceSearch.Store.Call

/-!
# Requests to the searchers

A request is a query that has been read, together with the filters and the user it comes from; every searcher of a
search gets the same request.  This module derives what all searchers need of it: whether there is anything to search
for, the condition on the text, the bounds on the date, and score, highlights and context of a result.
-/

namespace WorkspaceSearch

/-- A member of the metadata, if there is a text for it. -/
def metadataText (name : String) (text : Option String) : List (String × Json) :=
  match text with
  | some text => [(name, .string text)]
  | none => []

/-- What a searcher needs to know. -/
structure Request where
  /-- The free text of the query. -/
  base : String := ""
  operators : Operators := {}
  filters : Filters := {}
  /-- The user who searches. -/
  userId : String := ""
  /-- The channels of that user, as far as they are known. -/
  userChannelIds : Option (List String) := none
  /-- The number of rows to fetch. -/
  limit : Nat := 100
  offset : Nat := 0
  /-- The number of characters kept on both sides of a match. -/
  contextRadius : Nat := 50
  deriving DecidableEq, Repr, Inhabited

namespace Request

/-- There is text to search for. -/
def hasText (r : Request) : Bool := !Text.isBlank r.base

/-- There is text to search for, or an operator that narrows the search. -/
def hasCriteria (r : Request) : Bool := r.hasText || !r.operators.isUnrestricted

/-- The condition on the text of a row: any word, or else the whole text. -/
def textMatch (r : Request) : TextMatch :=
  if r.operators.matchAny then { anyOf := Text.words r.base, exclude := r.operators.exclude }
  else { phrase := r.base, exclude := r.operators.exclude }

/-- The first instant allowed: the later bound of the query and of the filters. -/
def after (r : Request) : Option Instant := latestBound r.operators.after r.filters.dateFrom

/-- The last instant allowed: the earlier bound of the query and of the filters. -/
def before (r : Request) : Option Instant := earliestBound r.operators.before r.filters.dateTo

/-- Fills in score, highlights and context of a result by its primary text; none when the highlights would cut through
a character or the context overflows. -/
def annotate (r : Request) (primary : String) (result : SearchResult) : Option SearchResult := do
  let highlights ← Relevance.highlights primary r.base
  let context ← Relevance.context primary r.base r.contextRadius
  return { result with score := Relevance.score primary r.base, highlights, context }

end Request

/-- Why a searcher has no results. -/
inductive Mishap where
  | failed (reason : Error)
  /-- The time allowed has run out. -/
  | late
  /-- The searcher has broken down, and the whole search with it. -/
  | crashed
  deriving DecidableEq, Repr

/-- A program over the calls to a store that may break off. -/
abbrev Attempt (α : Type) : Type := ExceptT Mishap Program α

namespace Attempt

/-- Makes a call, and breaks off when it fails. -/
def ask (c : Call) : Attempt c.Answer := ExceptT.mk (.call c fun answer => .done (answer.mapError .failed))

/-- Goes on with a value, and breaks down when there is none. -/
def orCrash {α : Type} : Option α → Attempt α
  | some a => pure a
  | none => throw .crashed

end Attempt

/-- A searcher: it answers a request with results, or it has none. -/
abbrev Searcher : Type := Request → Program (Except Mishap (List SearchResult))

namespace Request

/-- The channels that the query names. -/
def channelIds (r : Request) : Attempt (List String) :=
  if r.operators.channels.isEmpty then pure [] else Attempt.ask (.resolveChannelIds r.operators.channels)

/-- The senders that the query names. -/
def senderIds (r : Request) : Attempt (List String) :=
  if r.operators.senders.isEmpty then pure [] else Attempt.ask (.resolveUserIds r.operators.senders)

/-- The results of some rows of which a condition holds. -/
def results {Row : Type} (r : Request) (condition : Condition) (ofRow : Row → SearchResult)
    (primary : Row → String) (rows : List Row) : Attempt (List SearchResult) := do
  let results ← Attempt.orCrash (rows.mapM fun row => r.annotate (primary row) (ofRow row))
  pure (condition.select results)

end Request

end WorkspaceSearch
