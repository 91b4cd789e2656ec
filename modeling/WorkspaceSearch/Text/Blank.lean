/-!
# Blanks, trimming and words

A character is blank when it has the Unicode property White_Space.  Trimming removes the blanks at both ends of a
text, and the words of a text are its maximal runs of characters that are not blank.

The operations are defined on lists of characters (`Chars`) and lifted to strings (`Text`).
-/

namespace WorkspaceSearch

namespace Chars

/-- The characters with the property White_Space. -/
def isBlank (c : Char) : Bool :=
  let n := c.toNat
  (9 ≤ n && n ≤ 13) || n = 0x20 || n = 0x85 || n = 0xA0 || n = 0x1680 || (0x2000 ≤ n && n ≤ 0x200A) ||
    n = 0x2028 || n = 0x2029 || n = 0x202F || n = 0x205F || n = 0x3000

/-- The blanks of ASCII. -/
def isAsciiBlank (c : Char) : Bool := c == ' ' || (9 ≤ c.toNat && c.toNat ≤ 13)

/-- Drops the blanks at the front. -/
def trimStart (cs : List Char) : List Char := cs.dropWhile isBlank

/-- Drops the blanks at the back. -/
def trimEnd (cs : List Char) : List Char := (cs.reverse.dropWhile isBlank).reverse

/-- Drops the blanks at both ends. -/
def trim (cs : List Char) : List Char := trimEnd (trimStart cs)

/-- Puts a character in front of the first word, or makes it a word when there is none. -/
def consWord (c : Char) : List (List Char) → List (List Char)
  | [] => [[c]]
  | w :: ws => (c :: w) :: ws

/-- The maximal runs of characters that are not blank, in order. -/
def words : List Char → List (List Char)
  | [] => []
  | [c] => if isBlank c then [] else [[c]]
  | c :: d :: rest =>
    if isBlank c then words (d :: rest)
    else if isBlank d then [c] :: words (d :: rest)
    else consWord c (words (d :: rest))

/-- The longest front part without blanks, and what follows it. -/
def splitWord (cs : List Char) : List Char × List Char :=
  (cs.takeWhile fun c => !isBlank c, cs.dropWhile fun c => !isBlank c)

/-- The words with one space between neighbours. -/
def unwords (ws : List (List Char)) : List Char := List.intercalate [' '] ws

theorem isBlank_space : isBlank ' ' = true := by decide

theorem trimStart_cons_of_isBlank {c : Char} (h : isBlank c = true) (cs : List Char) :
    trimStart (c :: cs) = trimStart cs := by
  simp [trimStart, h]

theorem trimStart_cons_of_not_isBlank {c : Char} (h : isBlank c = false) (cs : List Char) :
    trimStart (c :: cs) = c :: cs := by
  simp [trimStart, h]

/-- A word is never empty. -/
theorem ne_nil_of_mem_words {cs w : List Char} (h : w ∈ words cs) : w ≠ [] := by
  fun_induction words cs generalizing w with
  | case1 => simp at h
  | case2 c hc => simp at h
  | case3 c hc => simp at h; simp [h]
  | case4 c d rest hc ih => exact ih h
  | case5 c d rest hc hd ih =>
    rcases List.mem_cons.1 h with rfl | h
    · simp
    · exact ih h
  | case6 c d rest hc hd ih =>
    cases hw : words (d :: rest) with
    | nil => simp [hw, consWord] at h; simp [h]
    | cons v vs =>
      simp only [hw, consWord, List.mem_cons] at h
      rcases h with rfl | h
      · simp
      · exact ih (by simp [hw, h])

end Chars

namespace Text

/-- Drops the blanks at both ends. -/
def trim (s : String) : String := .ofList (Chars.trim s.toList)

/-- Whether a text holds nothing but blanks. -/
def isBlank (s : String) : Bool := s.toList.all Chars.isBlank

/-- The words of a text, in order. -/
def words (s : String) : List String := (Chars.words s.toList).map .ofList

/-- The words of a text with one space between neighbours. -/
def collapse (s : String) : String := .ofList (Chars.unwords (Chars.words s.toList))

theorem isBlank_iff {s : String} : isBlank s = true ↔ ∀ c ∈ s.toList, Chars.isBlank c = true := by
  simp [isBlank]

end Text

end WorkspaceSearch
