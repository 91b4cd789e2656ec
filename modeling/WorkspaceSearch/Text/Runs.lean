/-!
# Runs of characters

A table of characters is a list of runs, each with its first and its last character.
-/

namespace WorkspaceSearch.Chars

/-- Whether a character lies in one of the runs. -/
def inRuns (runs : List (Nat × Nat)) (c : Char) : Bool :=
  runs.any fun (first, last) => first ≤ c.toNat && c.toNat ≤ last

end WorkspaceSearch.Chars
