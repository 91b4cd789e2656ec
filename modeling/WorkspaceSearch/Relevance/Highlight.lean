import WorkspaceSearch.Relevance.Score

/-!
# Highlights

The pieces of a text that the words of a query match, case aside, one word after the other and each from left to right.

The words are looked for in the lower case of the text.  When that has as many bytes as the text itself, the pieces are
cut out of the text at the same bytes, and they keep its case; otherwise they are in lower case.  Characters may change
their number of bytes in such a way that the totals agree and the places do not: then a piece may begin or end inside a
character, and there are no highlights at all.
-/

namespace WorkspaceSearch

-- the zero of the core library, whatever else is in scope
attribute [local instance (2000)] Zero.ofOfNat0

namespace Chars

/-- The number of bytes of a text. -/
def byteCount (cs : List Char) : Nat := (cs.map Char.utf8Size).sum

/-- The text behind a number of bytes, unless they end inside a character. -/
def dropBytes : Nat → List Char → Option (List Char)
  | 0, cs => some cs
  | _ + 1, [] => none
  | n + 1, c :: rest => if c.utf8Size ≤ n + 1 then dropBytes (n + 1 - c.utf8Size) rest else none

/-- The text in front of a number of bytes, unless they end inside a character. -/
def takeBytes : Nat → List Char → Option (List Char)
  | 0, _ => some []
  | _ + 1, [] => none
  | n + 1, c :: rest =>
    if c.utf8Size ≤ n + 1 then (takeBytes (n + 1 - c.utf8Size) rest).map (c :: ·) else none

end Chars

namespace Relevance

/-- The pieces of a text that one word in lower case matches. -/
def wordHighlights (content lowered word : List Char) : Option (List (List Char)) :=
  (Chars.occurrences word lowered).mapM fun offset =>
    if Chars.byteCount lowered = Chars.byteCount content then
      (Chars.dropBytes (Chars.byteCount (lowered.take offset)) content).bind
        (Chars.takeBytes (Chars.byteCount word))
    else some word

/-- The pieces of a text that the words of a query match; none when a piece would cut through a character. -/
def highlights (content query : String) : Option (List String) :=
  let lowered := Chars.lower content.toList
  let pieces := (longWords query.toList).mapM fun w => wordHighlights content.toList lowered (Chars.lower w)
  pieces.map fun ps => ps.flatten.map .ofList

end Relevance

end WorkspaceSearch
