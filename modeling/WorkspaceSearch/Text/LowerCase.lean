import WorkspaceSearch.Text.LowerCase.Table
import WorkspaceSearch.Text.Runs

/-!
# Lower case

The full lower case of a text.  Every character has a lower case of its own, with two exceptions: the dotted
capital I becomes two characters, and a capital sigma becomes the final sigma at the end of a word, that is, when a
cased letter stands before it and none after it, case-ignorable characters aside.

Outside those exceptions lowering keeps the number of characters (`length_lower`), and on ASCII it is the ASCII lower
case (`lower_of_ascii`).
-/

namespace WorkspaceSearch

namespace Chars

/-- The capital letters of ASCII. -/
def isAsciiUpper (c : Char) : Bool := 'A' ≤ c && c ≤ 'Z'

/-- The lower case of an ASCII capital; every other character is left alone. -/
def asciiLower (c : Char) : Char := if isAsciiUpper c then Char.ofNat (c.toNat + 32) else c

/-- A character of ASCII. -/
def isAscii (c : Char) : Bool := c.toNat < 128

/-- The simple lower case of a character. -/
def simpleLower (c : Char) : Char :=
  if isAscii c then asciiLower c
  else
    match lowerRuns.find? fun (first, last, step, _) =>
        first ≤ c.toNat && c.toNat ≤ last && (c.toNat - first) % step == 0 with
    | some (_, _, _, distance) => Char.ofNat (c.toNat + distance).toNat
    | none => c

/-- The capital I with a dot, the one character whose lower case is two characters. -/
def dottedCapitalI : Char := 'İ'

/-- Whether the first character that is not case-ignorable is a cased letter. -/
def startsCased (cs : List Char) : Bool :=
  match cs.dropWhile (inRuns caseIgnorableRuns) with
  | [] => false
  | c :: _ => inRuns casedRuns c

/-- The lower case of a character between the text before it (read backwards) and the text after it. -/
def lowerAt (before : List Char) (c : Char) (after : List Char) : List Char :=
  if c = 'Σ' then [if startsCased before && !startsCased after then 'ς' else 'σ']
  else if c = dottedCapitalI then ['i', '\u0307']
  else [simpleLower c]

/-- The lower case of the rest of a text, given the text before it read backwards. -/
def lowerFrom (before : List Char) : List Char → List Char
  | [] => []
  | c :: after => lowerAt before c after ++ lowerFrom (c :: before) after

/-- The lower case of a text. -/
def lower (cs : List Char) : List Char := lowerFrom [] cs

private theorem length_lowerAt {before after : List Char} {c : Char} (h : c ≠ dottedCapitalI) :
    (lowerAt before c after).length = 1 := by
  unfold lowerAt
  split
  · rfl
  · rfl

private theorem length_lowerFrom {before cs : List Char} (h : dottedCapitalI ∉ cs) :
    (lowerFrom before cs).length = cs.length := by
  induction cs generalizing before with
  | nil => rfl
  | cons c after ih =>
    simp only [List.mem_cons, not_or] at h
    simp [lowerFrom, length_lowerAt (Ne.symm h.1), ih h.2, Nat.add_comm]

/-- Without the dotted capital I, lowering keeps the number of characters. -/
theorem length_lower {cs : List Char} (h : dottedCapitalI ∉ cs) : (lower cs).length = cs.length :=
  length_lowerFrom h

private theorem lowerAt_of_ascii {before after : List Char} {c : Char} (h : isAscii c = true) :
    lowerAt before c after = [asciiLower c] := by
  have h1 : c ≠ 'Σ' := by rintro rfl; revert h; decide
  have h2 : c ≠ dottedCapitalI := by rintro rfl; revert h; decide
  simp [lowerAt, h1, h2, simpleLower, h]

private theorem lowerFrom_of_ascii {before cs : List Char} (h : ∀ c ∈ cs, isAscii c = true) :
    lowerFrom before cs = cs.map asciiLower := by
  induction cs generalizing before with
  | nil => rfl
  | cons c after ih =>
    simp [lowerFrom, lowerAt_of_ascii (h c (by simp)), ih fun d hd => h d (by simp [hd])]

/-- On ASCII the lower case is taken letter by letter. -/
theorem lower_of_ascii {cs : List Char} (h : ∀ c ∈ cs, isAscii c = true) : lower cs = cs.map asciiLower :=
  lowerFrom_of_ascii h

/-- Whether two characters agree up to the case of ASCII letters. -/
def sameLetter (a b : Char) : Bool := asciiLower a == asciiLower b

end Chars

namespace Text

/-- The lower case of a text. -/
def lower (s : String) : String := .ofList (Chars.lower s.toList)

/-- The lower case of the ASCII letters of a text, all other characters left alone. -/
def asciiLower (s : String) : String := .ofList (s.toList.map Chars.asciiLower)

end Text

end WorkspaceSearch
