import WorkspaceSearch.Text.Numeral

/-!
# Quoted texts of TOML documents

Texts stand in double quotes, where a backslash escapes, or in single quotes, where it does not; three quotes let a text
run over several lines.  A line break right behind three quotes is dropped, and line breaks are read as one line feed.

A text is written in the first of these forms that needs no escapes (`quote`), and with escapes where there is none.
-/

namespace WorkspaceSearch.Toml

open Numeral (hexValue? hexDigit)

/-- A character of a comment or a text on one line: a tab, or no control character. -/
def isPlain (c : Char) : Bool := c == '\t' || (' ' ≤ c && c != '\x7f')

/-- A blank inside a line. -/
def isGap (c : Char) : Bool := c == ' ' || c == '\t'

/-- Drops a line break. -/
def newline? : List Char → Option (List Char)
  | '\n' :: rest => some rest
  | '\r' :: '\n' :: rest => some rest
  | _ => none

/-- Reads the character with a code of some hexadecimal digits. -/
def readCode (width : Nat) (cs : List Char) : Option (Char × List Char) := do
  let ds ← (cs.take width).mapM hexValue?
  let n := ds.foldl (fun n d => n * 16 + d) 0
  if ds.length = width ∧ n.isValidChar then some (Char.ofNat n, cs.drop width) else none

/-- Reads the character behind a backslash. -/
def readEscape : List Char → Option (Char × List Char)
  | 'b' :: rest => some ('\x08', rest)
  | 't' :: rest => some ('\t', rest)
  | 'n' :: rest => some ('\n', rest)
  | 'f' :: rest => some ('\x0c', rest)
  | 'r' :: rest => some ('\r', rest)
  | '"' :: rest => some ('"', rest)
  | '\\' :: rest => some ('\\', rest)
  | 'u' :: rest => readCode 4 rest
  | 'U' :: rest => readCode 8 rest
  | _ => none

/-- Reads a text on one line up to the quote that ends it.  The first number bounds the characters to read. -/
def readLine (quote : Char) : Nat → List Char → Option (List Char × List Char)
  | 0, _ => none
  | _ + 1, [] => none
  | fuel + 1, c :: rest =>
    if c = quote then some ([], rest)
    else if c = '\\' ∧ quote = '"' then do
      let (d, rest) ← readEscape rest
      let (s, rest) ← readLine quote fuel rest
      some (d :: s, rest)
    else if isPlain c then do
      let (s, rest) ← readLine quote fuel rest
      some (c :: s, rest)
    else none

/-- Drops the blanks and line breaks behind a backslash that ends a line.  The first number bounds them. -/
def dropBreaks : Nat → List Char → List Char
  | 0, cs => cs
  | fuel + 1, cs =>
    match newline? cs with
    | some rest => dropBreaks fuel rest
    | none =>
      match cs with
      | c :: rest => if isGap c then dropBreaks fuel rest else c :: rest
      | [] => []

/-- Reads a text of several lines up to the three quotes that end it; up to two more quotes in front of them belong to
the text.  The first number bounds the characters to read. -/
def readLines (quote : Char) : Nat → List Char → Option (List Char × List Char)
  | 0, _ => none
  | _ + 1, [] => none
  | fuel + 1, c :: rest =>
    if c = quote then
      let more := (rest.takeWhile (· == quote)).length
      if 2 ≤ more then
        let kept := min (more - 2) 2
        some (List.replicate kept quote, rest.drop (kept + 2))
      else do
        let (s, rest) ← readLines quote fuel rest
        some (c :: s, rest)
    else
      match newline? (c :: rest) with
      | some rest => do
        let (s, rest) ← readLines quote fuel rest
        some ('\n' :: s, rest)
      | none =>
        if c = '\\' ∧ quote = '"' then
          match newline? (rest.dropWhile isGap) with
          | some rest => readLines quote fuel (dropBreaks rest.length rest)
          | none => do
            let (d, rest) ← readEscape rest
            let (s, rest) ← readLines quote fuel rest
            some (d :: s, rest)
        else if isPlain c then do
          let (s, rest) ← readLines quote fuel rest
          some (c :: s, rest)
        else none

/-- Reads a text behind its first quote. -/
def readQuoted (quote : Char) (cs : List Char) : Option (String × List Char) :=
  let body :=
    match cs with
    | a :: b :: rest =>
      if a = quote ∧ b = quote then
        let rest := (newline? rest).getD rest
        readLines quote (rest.length + 1) rest
      else readLine quote (cs.length + 1) cs
    | _ => readLine quote (cs.length + 1) cs
  body.map fun (s, rest) => (.ofList s, rest)

/-! ### Writing -/

/-- A character that has to be escaped in a text of several lines, quotes and backslashes aside. -/
def isControl (c : Char) : Bool := !isPlain c && c != '\n'

/-- The longest run of a character. -/
def longestRun (c : Char) (cs : List Char) : Nat :=
  (cs.foldl (fun (best, now) d => if d = c then (max best (now + 1), now + 1) else (best, 0)) (0, 0)).1

/-- The form a text is written in. -/
structure Quoting where
  quote : Char
  /-- Over several lines. -/
  isLong : Bool
  deriving DecidableEq, Repr

/-- The first form of a text that needs no escapes; if there is none, the form with escapes. -/
def quotingOf (cs : List Char) : Quoting :=
  let control := cs.any isControl
  let newline := cs.contains '\n'
  if !control && !newline && !cs.contains '"' && !cs.contains '\\' then ⟨'"', false⟩
  else if !control && !newline && !cs.contains '\'' then ⟨'\'', false⟩
  else if !control && !cs.contains '\\' && longestRun '"' cs ≤ 2 then ⟨'"', true⟩
  else if !control && longestRun '\'' cs ≤ 2 then ⟨'\'', true⟩
  else ⟨'"', newline⟩

/-- The written form of a character between double quotes.  `quotes` is the number of quotes right before it. -/
def writeChar (isLong : Bool) (quotes : Nat) (c : Char) : List Char :=
  match c with
  | '\x08' => ['\\', 'b']
  | '\t' => ['\\', 't']
  | '\n' => if isLong then ['\n'] else ['\\', 'n']
  | '\x0c' => ['\\', 'f']
  | '\r' => ['\\', 'r']
  | '\\' => ['\\', '\\']
  | '"' => if isLong && quotes < 2 then ['"'] else ['\\', '"']
  | c =>
    if isControl c then ['\\', 'u', '0', '0', hexDigit true (c.toNat / 16), hexDigit true (c.toNat % 16)] else [c]

/-- The written form of the rest of a text between double quotes, `quotes` quotes right before it. -/
def writeChars (isLong : Bool) : Nat → List Char → List Char
  | _, [] => []
  | quotes, c :: rest =>
    let quotes' := if c = '"' ∧ isLong ∧ quotes < 2 then quotes + 1 else 0
    writeChar isLong quotes c ++ writeChars isLong quotes' rest

/-- A text in quotes. -/
def quote (cs : List Char) : List Char :=
  let q := quotingOf cs
  let mark := if q.isLong then [q.quote, q.quote, q.quote] else [q.quote]
  let start := if q.isLong && cs.contains '\n' then ['\n'] else []
  let body := if q.quote = '"' then writeChars q.isLong 0 cs else cs
  mark ++ start ++ body ++ mark

end WorkspaceSearch.Toml
