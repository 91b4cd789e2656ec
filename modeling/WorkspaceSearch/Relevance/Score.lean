import WorkspaceSearch.Number.Decimal
import WorkspaceSearch.Text.Blank
import WorkspaceSearch.Text.LowerCase
import WorkspaceSearch.Text.Occurrence

/-!
# Relevance of a text

How well a text answers a query, case aside.  A text that is the query earns 100, a text that contains it 50 and up to
20 more the nearer to the front it stands, a tenth less for every character before it, and every word of the query with
two characters or more that the text contains earns 10, repeated words again.

Scores are counted in tenths (`scoreTenths`).
-/

namespace WorkspaceSearch.Relevance

/-- The words of a query that count: those with two characters or more. -/
def longWords (query : List Char) : List (List Char) := (Chars.words query).filter fun w => 2 ≤ w.length

/-- The words of a query that count. -/
def queryWords (query : String) : List String := (longWords query.toList).map .ofList

/-- What the place of the first occurrence adds, in tenths. -/
def positionTenths (offset : Nat) : Nat := 200 - offset

/-- The score of a text in lower case for a query in lower case, in tenths. -/
def scoreLowered (content query : List Char) : Nat :=
  let same := if content = query then 1000 else 0
  let place :=
    match Chars.find? query content with
    | some offset => 500 + positionTenths offset
    | none => 0
  let words := ((longWords query).filter fun w => Chars.contains content w).length * 100
  same + place + words

/-- The score of a text for a query, in tenths.  An empty text and a blank query score nothing. -/
def scoreTenths (content query : String) : Nat :=
  let query := Chars.trim query.toList
  if content.toList = [] ∨ query = [] then 0
  else scoreLowered (Chars.lower content.toList) (Chars.lower query)

/-- The score of a text for a query. -/
def score (content query : String) : Decimal := .ofTenths (scoreTenths content query)

/-- The text of a score, with six places. -/
def renderScore (score : Decimal) : String := score.renderFixed 6

end WorkspaceSearch.Relevance
