import WorkspaceSearch.Result
import WorkspaceSearch.Text.Occurrence

/-!
# Conditions on results

Conditions are built from two simple ones, that a result mentions one of several terms and that its date lies in a
range, by negation and conjunction.  They are checked on the results of a store lookup and catch what the store has let
through.
-/

namespace WorkspaceSearch

/-- A condition on results. -/
inductive Condition where
  /-- It always holds. -/
  | always
  | not (c : Condition)
  | and (a b : Condition)
  /-- The content contains one of the terms, case aside. -/
  | mentions (terms : List String)
  /-- The date is neither before the first bound nor after the last. -/
  | within (first last : Option Instant)
  deriving DecidableEq, Repr

namespace Condition

instance : Inhabited Condition := ⟨.always⟩

/-- The terms that are not blank, trimmed and in lower case. -/
def normalTerms (terms : List String) : List (List Char) :=
  (terms.map fun t => Chars.lower (Chars.trim t.toList)).filter (· ≠ [])

/-- Whether a text contains one of the terms, case aside. -/
def mentionsAny (terms : List String) (content : String) : Bool :=
  (normalTerms terms).any (Chars.contains (Chars.lower content.toList))

/-- Whether an instant is neither before the first bound nor after the last. -/
def isWithin (first last : Option Instant) (t : Instant) : Bool :=
  (match first with | some f => f ≤ t | none => true) && (match last with | some l => t ≤ l | none => true)

/-- Whether a condition holds of a content and a date. -/
def holdsOf (content : String) (timestamp : Instant) : Condition → Bool
  | .always => true
  | .not c => !holdsOf content timestamp c
  | .and a b => holdsOf content timestamp a && holdsOf content timestamp b
  | .mentions terms => mentionsAny terms content
  | .within first last => isWithin first last timestamp

/-- Whether a condition holds of a result. -/
def holds (c : Condition) (r : SearchResult) : Bool := c.holdsOf r.content r.timestamp

/-- Adds that none of the terms is mentioned; blank terms exclude nothing. -/
def excluding (c : Condition) (terms : List String) : Condition :=
  if terms.all Text.isBlank then c else .and c (.not (.mentions terms))

/-- Adds a range of dates; without bounds there is nothing to add. -/
def between (c : Condition) (first last : Option Instant) : Condition :=
  if first.isNone && last.isNone then c else .and c (.within first last)

/-- The results of which a condition holds, in order. -/
def select (c : Condition) (rs : List SearchResult) : List SearchResult := rs.filter c.holds

end Condition

/-- The later of two bounds; one alone counts. -/
def latestBound : Option Instant → Option Instant → Option Instant
  | some a, some b => some (a.later b)
  | some a, none => some a
  | none, b => b

/-- The earlier of two bounds; one alone counts. -/
def earliestBound : Option Instant → Option Instant → Option Instant
  | some a, some b => some (a.earlier b)
  | some a, none => some a
  | none, b => b

end WorkspaceSearch
