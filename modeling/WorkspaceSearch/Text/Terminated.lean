/-!
# Texts that end at NUL

Patterns and times in the database know a text only up to its first character NUL.  A text without that character is
known whole (`beforeNul_of_not_mem`).
-/

namespace WorkspaceSearch

namespace Chars

/-- The characters in front of the first NUL. -/
def beforeNul (cs : List Char) : List Char := cs.takeWhile (· != '\x00')

theorem beforeNul_of_not_mem {cs : List Char} (h : '\x00' ∉ cs) : beforeNul cs = cs := by
  induction cs with
  | nil => rfl
  | cons c cs ih =>
    simp only [List.mem_cons, not_or] at h
    have hc : (c != '\x00') = true := by simpa using Ne.symm h.1
    have := ih h.2
    simp only [beforeNul] at this ⊢
    simp [hc, this]

end Chars

end WorkspaceSearch
