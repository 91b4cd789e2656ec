import WorkspaceSearch.Number.Machine
import WorkspaceSearch.Search.Service

/-!
# A search in machine integers

The numbers of a search as a machine counts them: the rows to fetch, the page that is cut out of the results, and the
window around a match.  The limit and the offset have 64 bits with a sign, a number of rows has 32 bits without one, and
places in a text and in a list have 64 bits without one.
-/

namespace WorkspaceSearch

namespace Relevance

/-- The window of a text around a match.  There is none when a sum is too large, and none when the window is no piece of
the text. -/
def machineWindow (text : List Char) (offset length radius : UInt64) : Option String := do
  let size := UInt64.ofNat text.length
  let first := min (Machine.subSaturating offset radius) size
  let last := min (← Machine.add? (← Machine.add? offset length) radius) size
  if first ≤ last ∧ last ≤ size then some (.ofList (window text first.toNat last.toNat)) else none

/-- The window of a text around the first match of a query, if it has one; none when there is a match and no window. -/
def machineContext (content query : String) (radius : UInt64) : Option (Option String) :=
  let text := content.toList
  let query := Chars.trim query.toList
  if text = [] ∨ query = [] then some none
  else
    match locateQuery query (Chars.lower text) with
    | none => some none
    | some (offset, length) => (machineWindow text (.ofNat offset) (.ofNat length) radius).map some

end Relevance

namespace SearchService

/-- The number of rows to fetch for every domain. -/
def machineFetchLimit (settings : SearchSettings) (o : SearchOptions) : UInt32 :=
  let window := Machine.addSaturating (.ofInt o.offset) (.ofInt o.limit)
  max ((Machine.natural32? window).getD 4294967295) (.ofNat settings.maxResultsPerDomain.toNat)

/-- What every searcher is asked. -/
def machineRequest (settings : SearchSettings) (o : SearchOptions) : Request :=
  { request settings o with
    limit := (machineFetchLimit settings o).toNat
    contextRadius := (UInt64.ofNat settings.contextRadius.toNat).toNat }

/-- Sorts results and cuts the page out of them. -/
def machinePage (o : SearchOptions) (merged : List SearchResult) : SearchResponse :=
  let skipped := (Int64.ofInt o.offset).toUInt64
  let taken := (Int64.ofInt o.limit).toUInt64
  { results := ((sortResults o.sortBy o.sortOrder merged).drop skipped.toNat).take taken.toNat
    total := merged.length }

end SearchService

end WorkspaceSearch
