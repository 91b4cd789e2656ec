import WorkspaceSearch.Text.LowerCase
import WorkspaceSearch.Text.Terminated

/-!
# Patterns with wildcards

A pattern is a list of tokens: any run of characters, any one character, or a character up to the case of ASCII
letters.  In the written form of a pattern `%` stands for any run and `_` for any one character, and a backslash in
front of a character makes it stand for itself.  Pattern and text end at their first NUL, and a pattern may have no more
than a limited number of bytes.

The database reads U+FFFE and U+FFFF, which are no characters, as the replacement character, in patterns and in texts
(`read`), so that these three match one another.

`containing` and `startingWith` write the patterns that match the texts containing, or starting with, a given text;
they escape the characters with a meaning of their own.
-/

namespace WorkspaceSearch.Like

/-- A character as the database reads it. -/
def read (c : Char) : Char := if c = '\uFFFE' ∨ c = '\uFFFF' then '\uFFFD' else c

/-- Whether two characters match, ASCII letters in either case. -/
def alike (c d : Char) : Bool := Chars.sameLetter (read c) (read d)

/-- One part of a pattern. -/
inductive Token where
  /-- Any run of characters, possibly empty. -/
  | anyRun
  /-- Any one character. -/
  | anyOne
  /-- A character, ASCII letters in either case. -/
  | letter (c : Char)
  deriving DecidableEq, Repr

/-- Reads the written form of a pattern.  A backslash at the end has nothing to escape, and no text matches. -/
def tokens? : List Char → Option (List Token)
  | [] => some []
  | '\\' :: [] => none
  | '\\' :: c :: rest => (tokens? rest).map (.letter c :: ·)
  | '%' :: rest => (tokens? rest).map (.anyRun :: ·)
  | '_' :: rest => (tokens? rest).map (.anyOne :: ·)
  | c :: rest => (tokens? rest).map (.letter c :: ·)

/-- Whether some way of dropping characters from the front leaves a text that satisfies `p`. -/
def anySuffix (p : List Char → Bool) : List Char → Bool
  | [] => p []
  | c :: rest => p (c :: rest) || anySuffix p rest

/-- Whether a whole text matches a list of tokens. -/
def matchTokens : List Token → List Char → Bool
  | [], text => text.isEmpty
  | .anyRun :: ts, text => anySuffix (matchTokens ts) text
  | .anyOne :: ts, text =>
    match text with
    | [] => false
    | _ :: rest => matchTokens ts rest
  | .letter c :: ts, text =>
    match text with
    | [] => false
    | d :: rest => alike c d && matchTokens ts rest

/-- Whether a text matches the written form of a pattern. -/
def isMatch (pattern text : String) : Bool :=
  match tokens? (Chars.beforeNul pattern.toList) with
  | none => false
  | some ts => matchTokens ts (Chars.beforeNul text.toList)

/-- The greatest number of bytes of a pattern. -/
def byteLimit : Nat := 50000

/-- Whether a pattern is longer than patterns may be. -/
def isTooLong (pattern : String) : Bool := byteLimit < pattern.utf8ByteSize

/-- Whether a text matches a pattern; none when the pattern is too long. -/
def test? (pattern text : String) : Option Bool := if isTooLong pattern then none else some (isMatch pattern text)

/-- The characters with a meaning of their own in a pattern. -/
def isSpecial (c : Char) : Bool := c == '\\' || c == '%' || c == '_'

/-- Writes a text so that every character of it stands for itself. -/
def escape : List Char → List Char
  | [] => []
  | c :: rest => if isSpecial c then '\\' :: c :: escape rest else c :: escape rest

/-- The pattern of the texts that contain `needle`. -/
def containing (needle : String) : String := .ofList ('%' :: escape needle.toList ++ ['%'])

/-- The pattern of the texts that start with `start`. -/
def startingWith (start : String) : String := .ofList (escape start.toList ++ ['%'])

/-- An escaped text reads back as itself, letter by letter, whatever follows it. -/
theorem tokens?_escape_append (needle rest : List Char) :
    tokens? (escape needle ++ rest) = (tokens? rest).map (needle.map .letter ++ ·) := by
  induction needle with
  | nil => simp [escape]
  | cons c needle ih =>
    by_cases h : isSpecial c
    · simp only [escape, h, if_true, List.cons_append, tokens?, ih, List.map_cons]
      cases tokens? rest <;> simp
    · have h1 : c ≠ '\\' := by rintro rfl; exact h (by decide)
      have h2 : c ≠ '%' := by rintro rfl; exact h (by decide)
      have h3 : c ≠ '_' := by rintro rfl; exact h (by decide)
      have hc : tokens? (c :: (escape needle ++ rest)) = (tokens? (escape needle ++ rest)).map (.letter c :: ·) := by
        rw [tokens?] <;> simp_all
      simp only [escape, h, Bool.false_eq_true, if_false, List.cons_append, List.map_cons, hc, ih]
      cases tokens? rest <;> simp

end WorkspaceSearch.Like
