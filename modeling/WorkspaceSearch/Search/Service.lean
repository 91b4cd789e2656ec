import WorkspaceSearch.Query.Parse
import WorkspaceSearch.Search.File
import WorkspaceSearch.Search.People
import WorkspaceSearch.Settings.Basic

/-!
# The search service

A search reads the query once, asks the searcher of every domain in its scope, and merges what they find: the results
are sorted, ties staying in the order of the domains and of each domain, and a page is cut out of them.

A domain that fails or is late has no results, and the search goes on.  Every search that is not refused is recorded in
the history of its user, whatever becomes of it.
-/

namespace WorkspaceSearch

-- the powers of the core library, whatever else is in scope
attribute [local instance (2000)] instPowNat Rat.instPowNat

/-- The searcher of a domain. -/
def Domain.searcher : Domain → Searcher
  | .messages => searchMessages
  | .directMessages => searchDirectMessages
  | .files => searchFiles
  | .channels => searchChannels
  | .users => searchUsers

/-- A search service: its settings and a searcher for every domain. -/
structure SearchService where
  settings : SearchSettings := {}
  searcher : Domain → Searcher := Domain.searcher

namespace SearchService

/-- The service with another searcher for a domain. -/
def withSearcher (service : SearchService) (domain : Domain) (searcher : Searcher) : SearchService :=
  { service with searcher := fun d => if d = domain then searcher else service.searcher d }

/-- The largest number of rows that can be asked for. -/
def largestWindow : Nat := 2 ^ (32 : Nat) - 1

/-- The number of rows to fetch for every domain: enough for the page, and at least what the settings ask for. -/
def fetchLimit (settings : SearchSettings) (o : SearchOptions) : Nat :=
  max (min (o.offset + o.limit).toNat largestWindow) settings.maxResultsPerDomain.toNat

/-- What every searcher is asked. -/
def request (settings : SearchSettings) (o : SearchOptions) : Request :=
  let query := ParsedQuery.ofText o.query
  { base := query.base
    operators := query.operators
    filters := o.filters
    userId := o.userId
    userChannelIds := o.userChannelIds
    limit := fetchLimit settings o
    offset := 0
    contextRadius := settings.contextRadius.toNat }

/-- The results of a domain.  One that has failed or is late has none; one that has crashed takes the search down. -/
def degrade : Except Mishap (List SearchResult) → Except Mishap (List SearchResult)
  | .error .crashed => .error .crashed
  | .error _ => .ok []
  | .ok results => .ok results

/-- Asks the searchers of some domains one after the other, and puts their results behind each other. -/
def gather (service : SearchService) (r : Request) : List Domain → Program (Except Mishap (List SearchResult))
  | [] => .done (.ok [])
  | d :: ds =>
    (service.searcher d r).andThen fun reply =>
      (service.gather r ds).andThen fun later =>
        .done do
          let results ← degrade reply
          let more ← later
          pure (results ++ more)

/-- Whether one result may stand in front of another. -/
def inOrder (sortBy : SortBy) (sortOrder : SortOrder) (a b : SearchResult) : Bool :=
  match sortBy, sortOrder with
  | .relevance, _ => b.score.le a.score
  | .date, .ascending => a.timestamp ≤ b.timestamp
  | .date, .descending => b.timestamp ≤ a.timestamp

/-- Sorts results; ties stay in their order. -/
def sortResults (sortBy : SortBy) (sortOrder : SortOrder) (rs : List SearchResult) : List SearchResult :=
  rs.mergeSort (inOrder sortBy sortOrder)

/-- Sorts results and cuts the page out of them. -/
def page (o : SearchOptions) (merged : List SearchResult) : SearchResponse :=
  { results := ((sortResults o.sortBy o.sortOrder merged).drop o.offset.toNat).take o.limit.toNat
    total := merged.length }

/-- The history entry of a search. -/
def entryOf (o : SearchOptions) (id : Uuid) (now : Instant) : HistoryEntry :=
  { id, userId := o.userId, query := o.query, filters := o.filters, scope := o.scope, createdAt := now }

/-- What a search finds; a search that is cancelled before it starts finds nothing. -/
def find (service : SearchService) (o : SearchOptions) (cancelled : Bool) : Program (Except Mishap SearchResponse) :=
  if cancelled then .done (.error (.failed .cancelled))
  else
    (service.gather (request service.settings o) o.scope.domains).andThen fun merged =>
      .done (merged.map (page o))

/-- Searches, and records the search under an identifier and a time. -/
def search (service : SearchService) (o : SearchOptions) (cancelled : Bool) (id : Uuid) (now : Instant) :
    Program (Except Mishap SearchResponse) :=
  match o.validate with
  | .error e => .done (.error (.failed e))
  | .ok () =>
    (service.find o cancelled).andThen fun response =>
      (Program.ask (.recordSearch (entryOf o id now))).andThen fun _ => .done response

/-- The latest history entries of a user. -/
def history (userId : String) (limit : Nat) : Program (Except Error (List HistoryEntry)) :=
  .ask (.listHistory userId limit)

/-- Removes the history of a user. -/
def clearHistory (userId : String) : Program (Except Error Nat) := .ask (.clearHistory userId)

end SearchService

end WorkspaceSearch
