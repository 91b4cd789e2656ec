import WorkspaceSearch.Store.Lookup
import WorkspaceSearch.Text.Like

/-!
# Limits of statements

A lookup is a statement: a first condition and further ones, each joined to all before it.  Joining makes a condition
one deeper than the deeper of its two parts.  The database refuses a statement that is too deep or holds too many
values.

A pattern that is too long is refused only when a row is tested against it (`TextMatch.test?`); a test goes from left to
right and stops as soon as its outcome is known.
-/

namespace WorkspaceSearch

-- the zero of the core library, whatever else is in scope
attribute [local instance (2000)] Zero.ofOfNat0

/-- A condition of a statement. -/
structure Clause where
  depth : Nat
  /-- The number of values it is compared with. -/
  values : Nat
  deriving DecidableEq, Repr

namespace Clause

/-- A comparison with a value. -/
def comparison : Clause := ⟨3, 1⟩

/-- A comparison of a time with a value. -/
def timeComparison : Clause := ⟨4, 1⟩

/-- A condition that needs no value. -/
def test : Clause := ⟨3, 0⟩

/-- A condition that other rows are there. -/
def existence : Clause := ⟨4, 0⟩

/-- Membership in a list of values. -/
def membership (values : List String) : Clause := ⟨3, values.length⟩

/-- The depth of conditions that are joined one after the other. -/
def joinDepth (first : Nat) (rest : List Nat) : Nat := rest.foldl (fun depth next => max depth next + 1) first

end Clause

/-- A statement: the condition it starts with and the others, in order. -/
structure StatementShape where
  first : Clause
  rest : List Clause
  /-- Another statement is nested in the last condition. -/
  isNested : Bool := false
  deriving DecidableEq, Repr

namespace StatementShape

/-- The greatest depth of a statement. -/
def depthLimit : Nat := 1000

/-- The greatest number of values of a statement. -/
def valueLimit : Nat := 32766

/-- How much deeper a nested statement is. -/
def nestedDepth : Nat := 3

/-- The depth of a statement. -/
def depth (s : StatementShape) : Nat :=
  Clause.joinDepth s.first.depth (s.rest.map (·.depth)) + if s.isNested then nestedDepth else 0

/-- The number of values of a statement, the bounds of the page among them. -/
def values (s : StatementShape) : Nat := s.first.values + (s.rest.map (·.values)).sum + 2

/-- Whether the database accepts a statement. -/
def fits (s : StatementShape) : Bool := s.depth ≤ depthLimit && s.values ≤ valueLimit

end StatementShape

namespace TextMatch

/-- The texts of which one must occur. -/
def needles (t : TextMatch) : List String :=
  if !t.anyOf.isEmpty then t.anyOf else if Text.isBlank t.phrase then [] else [Text.trim t.phrase]

/-- The texts that must not occur; blank ones exclude nothing. -/
def excluded (t : TextMatch) : List String := (t.exclude.filter fun term => !Text.isBlank term).map Text.trim

/-- The conditions on texts that lie in columns of some depths, the primary one of a depth of its own. -/
def clauses (t : TextMatch) (columns : List Nat) (primary : Nat) : List Clause :=
  let tests := t.needles.flatMap fun _ => columns.map (· + 2)
  let found : List Clause :=
    match tests with
    | [] => []
    | first :: rest => [⟨Clause.joinDepth first rest, tests.length⟩]
  found ++ t.excluded.map fun _ => ⟨primary + 3, 1⟩

/-- Tests whether one of the columns contains one of the texts asked for, if any are; none when a pattern is too long. -/
def finds? (t : TextMatch) (columns : List String) : Option Bool :=
  if t.needles.isEmpty then some true
  else t.needles.anyM fun needle => columns.anyM fun column => Like.test? (Like.containing needle) column

/-- Tests whether the primary text contains none of the excluded texts; none when a pattern is too long. -/
def spares? (t : TextMatch) (primary : String) : Option Bool :=
  t.excluded.allM fun term => (Like.test? (Like.containing term) primary).map (!·)

/-- Tests the columns and then the primary text; none when a pattern is too long. -/
def test? (t : TextMatch) (columns : List String) (primary : String) : Option Bool := do
  if ← t.finds? columns then t.spares? primary else return false

/-- Whether one of the patterns is too long. -/
def hasLongPattern (t : TextMatch) : Bool :=
  (t.needles ++ t.excluded).any fun text => Like.isTooLong (Like.containing text)

/-- Whether the test of a row comes to a pattern that is too long. -/
def overruns (t : TextMatch) (columns : List String) (primary : String) : Bool :=
  t.hasLongPattern && (t.test? columns primary).isNone

end TextMatch

/-! ### The statements of lookups -/

/-- The depth of a column. -/
def columnDepth : Nat := 2

/-- The depth of first and last name with a space between them. -/
def nameDepth : Nat := 4

/-- The condition on a value, if one is asked for. -/
def valueClauses {α : Type} (asked : Option α) (clause : Clause) : List Clause := if asked.isSome then [clause] else []

/-- The condition on a list of values, if it asks for any. -/
def listClauses (values : List String) : List Clause := if values.isEmpty then [] else [Clause.membership values]

/-- The conditions on a time. -/
def timeClauses (after before : Option Instant) : List Clause :=
  valueClauses after Clause.timeComparison ++ valueClauses before Clause.timeComparison

/-- A condition that may be there. -/
def clauseIf (b : Bool) (clause : Clause) : List Clause := if b then [clause] else []

/-- A condition that always holds, with which statements start. -/
def alwaysClause : Clause := ⟨2, 0⟩

/-- The statement of a lookup of messages. -/
def MessageLookup.shape (q : MessageLookup) : StatementShape where
  first := alwaysClause
  rest := q.text.clauses [columnDepth, columnDepth] columnDepth
    ++ listClauses q.channelIds ++ listClauses q.senderIds ++ listClauses (q.accessibleChannelIds.getD [])
    ++ valueClauses q.filters.channelId .comparison ++ valueClauses q.filters.userId .comparison
    ++ valueClauses q.filters.messageType .comparison
    ++ clauseIf (q.requireAttachment || q.filters.hasAttachment.isSome) .test
    ++ clauseIf q.requireLink .test ++ clauseIf q.requireReaction .existence ++ timeClauses q.after q.before
    ++ [.test, .test]
  isNested := q.requireReaction

/-- The statement of a lookup of direct messages. -/
def DirectMessageLookup.shape (q : DirectMessageLookup) : StatementShape where
  first := ⟨4, 2⟩
  rest := q.text.clauses [columnDepth, columnDepth] columnDepth
    ++ listClauses q.senderIds ++ valueClauses q.filters.userId ⟨4, 2⟩
    ++ clauseIf (q.requireAttachment || q.filters.hasAttachment.isSome) .test
    ++ clauseIf q.requireLink .test ++ timeClauses q.after q.before
    ++ [.test, .test]

/-- The statement of a lookup of files. -/
def FileLookup.shape (q : FileLookup) : StatementShape where
  first := alwaysClause
  rest := q.text.clauses [columnDepth, columnDepth] columnDepth
    ++ listClauses q.uploaderIds ++ listClauses (q.messageIds.getD [])
    ++ valueClauses q.filters.fileType .comparison ++ valueClauses q.filters.userId .comparison
    ++ timeClauses q.after q.before
    ++ [.test, .test, .test]

/-- The statement of a lookup of channels. -/
def ChannelLookup.shape (q : ChannelLookup) : StatementShape where
  first := alwaysClause
  rest := q.text.clauses [columnDepth, columnDepth, columnDepth] columnDepth ++ valueClauses q.tier .comparison

/-- The statement of a lookup of users. -/
def UserLookup.shape (q : UserLookup) : StatementShape where
  first := alwaysClause
  rest := q.text.clauses [columnDepth, columnDepth, columnDepth, nameDepth] nameDepth
    ++ valueClauses q.isAdmin .comparison

/-- Whether the database accepts a statement with some lists of values and no more. -/
def fitsValues (lists : List (List String)) : Bool := (lists.map (·.length)).sum ≤ StatementShape.valueLimit

end WorkspaceSearch
