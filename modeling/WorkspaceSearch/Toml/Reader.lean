import WorkspaceSearch.Toml.Number

/-!
# Reading TOML documents

A document is read line by line: headers, which say what table is added to, keys with their values, comments and blank
lines.  A key is a path of names with points between them.  Values are texts, numbers, dates, truth values, arrays,
which may run over several lines, and tables on one line.  Keys and values that are nested too deeply are refused.
-/

namespace WorkspaceSearch.Toml

open Numeral (readMark)

/-- Drops the blanks at the front. -/
def skipGaps (cs : List Char) : List Char := cs.dropWhile isGap

/-- Drops a comment; none when it holds control characters. -/
def skipComment : List Char → Option (List Char)
  | '#' :: rest =>
    let behind := rest.dropWhile isPlain
    match behind with
    | [] => some []
    | c :: _ => if c = '\n' || c = '\r' then some behind else none
  | cs => some cs

/-- Drops blanks, line breaks and comments.  The first number bounds the lines. -/
def skipLines : Nat → List Char → Option (List Char)
  | 0, _ => none
  | fuel + 1, cs => do
    let rest ← skipComment (skipGaps cs)
    match newline? rest with
    | some rest => skipLines fuel rest
    | none => some rest

/-- A character of a name without quotes. -/
def isBare (c : Char) : Bool :=
  ('a' ≤ c && c ≤ 'z') || ('A' ≤ c && c ≤ 'Z') || ('0' ≤ c && c ≤ '9') || c == '_' || c == '-'

/-- Reads a name. -/
def readName (cs : List Char) : Option (String × List Char) :=
  match cs with
  | '"' :: rest => (readLine '"' (rest.length + 1) rest).map fun (s, rest) => (.ofList s, rest)
  | '\'' :: rest => (readLine '\'' (rest.length + 1) rest).map fun (s, rest) => (.ofList s, rest)
  | cs =>
    let name := cs.takeWhile isBare
    if name = [] then none else some (.ofList name, cs.drop name.length)

/-- The most names of a key, and the most arrays and tables on one line around a value. -/
def nestingLimit : Nat := 79

/-- Reads a key: names with points between them, the last one apart.  The first number bounds the names. -/
def readKey : Nat → List Char → Option ((List String × String) × List Char)
  | 0, _ => none
  | fuel + 1, cs => do
    let (name, rest) ← readName (skipGaps cs)
    match skipGaps rest with
    | '.' :: rest => do
      let ((path, last), rest) ← readKey fuel rest
      some ((name :: path, last), rest)
    | rest => some (([], name), rest)

mutual

/-- Reads a value.  The first number bounds the depth and length of what is read; twice the length of the text is
enough.  The second one bounds the arrays and tables in one another. -/
def readValue : Nat → Nat → List Char → Option (Value × List Char)
  | 0, _, _ => none
  | fuel + 1, room, cs =>
    match cs with
    | '"' :: rest => (readQuoted '"' rest).map fun (s, rest) => (.string s, rest)
    | '\'' :: rest => (readQuoted '\'' rest).map fun (s, rest) => (.string s, rest)
    | '[' :: rest => do
      if room = 0 then none
      let (items, rest) ← readItems fuel (room - 1) rest
      some (.array items, rest)
    | '{' :: rest => do
      if room = 0 then none
      match skipGaps rest with
      | '}' :: rest => some (.table [], rest)
      | rest => do
        let (es, rest) ← readPairs fuel (room - 1) [] rest
        some (.table (entriesToValues es), rest)
    | 't' :: 'r' :: 'u' :: 'e' :: rest => some (.boolean true, rest)
    | 'f' :: 'a' :: 'l' :: 's' :: 'e' :: rest => some (.boolean false, rest)
    | cs => readNumber cs

/-- Reads the items of an array up to the bracket that ends it. -/
def readItems : Nat → Nat → List Char → Option (List Value × List Char)
  | 0, _, _ => none
  | fuel + 1, room, cs => do
    let rest ← skipLines (cs.length + 1) cs
    match rest with
    | ']' :: rest => some ([], rest)
    | rest => do
      let (v, rest) ← readValue fuel room rest
      let rest ← skipLines (rest.length + 1) rest
      match rest with
      | ']' :: rest => some ([v], rest)
      | ',' :: rest => do
        let (items, rest) ← readItems fuel room rest
        some (v :: items, rest)
      | _ => none

/-- Reads keys and values up to the brace that ends a table on one line, at least one, and adds them to the entries
there are. -/
def readPairs : Nat → Nat → Entries → List Char → Option (Entries × List Char)
  | 0, _, _, _ => none
  | fuel + 1, room, es, cs => do
    let ((path, name), rest) ← readKey nestingLimit cs
    let rest ← readMark '=' rest
    let (v, rest) ← readValue fuel room (skipGaps rest)
    let es ← es.addAt? [] path name v
    match skipGaps rest with
    | '}' :: rest => some (es, rest)
    | ',' :: rest => readPairs fuel room es rest
    | _ => none

end

/-- Reads what may end a line: blanks, a comment, and a line break or the end of the text. -/
def readEnd (cs : List Char) : Option (List Char) := do
  let rest ← skipComment (skipGaps cs)
  if rest = [] then some [] else newline? rest

/-- Reads lines up to the end of the text, adding to the table at a path.  The first number bounds the lines. -/
def readDocument : Nat → List String → Entries → List Char → Option Entries
  | 0, _, _, _ => none
  | fuel + 1, table, es, cs =>
    match skipGaps cs with
    | [] => some es
    | '[' :: '[' :: rest => do
      let ((path, name), rest) ← readKey nestingLimit rest
      let rest ← readMark ']' rest
      let rest ← readMark ']' rest
      let es ← Entries.descend false (Entries.openNext? name) path .header es
      readDocument fuel (path ++ [name]) es (← readEnd rest)
    | '[' :: rest => do
      let ((path, name), rest) ← readKey nestingLimit rest
      let rest ← readMark ']' rest
      let es ← Entries.descend false (Entries.open? name) path .header es
      readDocument fuel (path ++ [name]) es (← readEnd rest)
    | c :: rest =>
      if c = '#' || c = '\n' || c = '\r' then do readDocument fuel table es (← readEnd (c :: rest))
      else do
        let ((path, name), rest) ← readKey nestingLimit (c :: rest)
        let rest ← readMark '=' rest
        let (v, rest) ← readValue (2 * rest.length + 1) nestingLimit (skipGaps rest)
        let es ← es.addAt? table path name v
        readDocument fuel table es (← readEnd rest)

/-- The mark of the byte order, which may stand in front of a document. -/
def byteOrderMark : Char := '\ufeff'

/-- The table that a document holds. -/
def parse? (text : String) : Option Value :=
  let cs := match text.toList with
    | c :: rest => if c = byteOrderMark then rest else c :: rest
    | [] => []
  (readDocument (cs.length + 1) [] [] cs).map fun es => .table (entriesToValues es)

end WorkspaceSearch.Toml
