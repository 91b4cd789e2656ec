import WorkspaceSearch.Query.Rule

/-!
# Reading a query

A query is read by applying the ten rules one after the other, each to the text that the one before it has left.  What
they find makes up the operators, and the words that remain are the free text.  Reading never fails.
-/

namespace WorkspaceSearch

namespace Query

/-- Applies rules one after the other: the text they leave, and what they find. -/
def applyRules : List Rule → List Char → List Char × List Finding
  | [], cs => (cs, [])
  | rule :: rules, cs =>
    let (text, findings) := rule.apply cs
    let (text, later) := applyRules rules text
    (text, findings ++ later)

end Query

/-- Reads a query. -/
def ParsedQuery.ofText (raw : String) : ParsedQuery :=
  let (text, findings) := Query.applyRules Query.Rule.all raw.toList
  { base := .ofList (Chars.unwords (Chars.words text))
    operators := findings.foldl Query.Finding.addTo {} }

end WorkspaceSearch
