import WorkspaceSearch.Relevance.Score

/-!
# The context of a match

A window of a text around the first match of a query, case aside: the match of the whole query, or else of the first of
its words that occurs.  A number of characters is kept on both sides, and three dots stand for what is cut off.

The end of the window is a number of 64 bits; a radius that leads beyond them is an overflow, and there is no window.
-/

namespace WorkspaceSearch.Relevance

-- the powers of the core library, whatever else is in scope
attribute [local instance (2000)] instPowNat Rat.instPowNat

/-- The number of values of a machine word. -/
def wordSize : Nat := 2 ^ (64 : Nat)

/-- Offset and length of the first occurrence of a text, if it is not empty and occurs. -/
def locate (needle text : List Char) : Option (Nat × Nat) :=
  if needle = [] then none else (Chars.find? needle text).map fun offset => (offset, needle.length)

/-- Offset and length of the match that a window is put around: of the whole query, or of its first word that
occurs. -/
def locateQuery (query lowered : List Char) : Option (Nat × Nat) :=
  match locate (Chars.lower query) lowered with
  | some found => some found
  | none => (longWords query).findSome? fun w => locate (Chars.lower w) lowered

/-- The window of a text from `first` up to `last`. -/
def window (text : List Char) (first last : Nat) : List Char :=
  let dots := ['.', '.', '.']
  (if 0 < first then dots else []) ++ (text.take last).drop first ++ (if last < text.length then dots else [])

/-- The window of a text around a match; none on an overflow. -/
def windowAround (text : List Char) (offset length radius : Nat) : Option String :=
  let last := offset + length + radius
  if wordSize ≤ last then none
  else some (.ofList (window text (min (offset - radius) text.length) (min last text.length)))

/-- The window of a text around the first match of a query, if it has one; none on an overflow. -/
def context (content query : String) (radius : Nat) : Option (Option String) :=
  let text := content.toList
  let query := Chars.trim query.toList
  if text = [] ∨ query = [] then some none
  else
    match locateQuery query (Chars.lower text) with
    | none => some none
    | some (offset, length) => (windowAround text offset length radius).map some

end WorkspaceSearch.Relevance
