/-!
# Values of TOML documents

A document is a table of values.  While it is read, it is known of every table how it came to be: by a header of its own,
by the header of a table inside it, or by a dotted key.  That decides whether a later header or key may add to it
(`Node.descend`).
-/

namespace WorkspaceSearch.Toml

/-- A value of a document.  Numbers with a fraction and dates are kept as they are written. -/
inductive Value where
  | string (s : String)
  | integer (n : Int)
  | float (text : String)
  | boolean (b : Bool)
  | datetime (text : String)
  | array (items : List Value)
  | table (entries : List (String × Value))
  deriving Inhabited

/-- How a table came to be. -/
inductive Origin where
  /-- By a header of its own. -/
  | header
  /-- By the header of a table inside it. -/
  | implied
  /-- By a dotted key. -/
  | dotted
  deriving DecidableEq, Repr

/-- A part of a document that is being read. -/
inductive Node where
  | value (v : Value)
  | table (origin : Origin) (entries : List (String × Node))
  /-- An array of tables; only the last one is added to. -/
  | tables (earlier : List (List (String × Node))) (last : List (String × Node))
  deriving Inhabited

/-- Named parts of a document that is being read. -/
abbrev Entries : Type := List (String × Node)

namespace Entries

/-- The part with a name. -/
def named (es : Entries) (name : String) : Option Node := (es.find? fun e => e.1 = name).map (·.2)

/-- Puts a part in the place of the one with its name, or behind all others. -/
def put (es : Entries) (name : String) (node : Node) : Entries :=
  if es.any fun e => e.1 = name then es.map fun e => if e.1 = name then (name, node) else e
  else es ++ [(name, node)]

/-- Changes the table at a path.  Tables on the way that are missing are made.  A dotted key must not go through a table
with a header of its own. -/
def descend (dotted : Bool) (change : Origin → Entries → Option Entries) :
    List String → Origin → Entries → Option Entries
  | [], origin, es => change origin es
  | name :: path, _, es =>
    match es.named name with
    | none =>
      let origin := if dotted then Origin.dotted else Origin.implied
      (descend dotted change path origin []).map fun es' => es.put name (.table origin es')
    | some (.value _) => none
    | some (.tables earlier last) =>
      (descend dotted change path .header last).map fun es' => es.put name (.tables earlier es')
    | some (.table origin inner) =>
      if dotted && origin = .header then none
      else (descend dotted change path origin inner).map fun es' => es.put name (.table origin es')

/-- Opens the table with a name by its header, once only. -/
def open? (name : String) (_ : Origin) (es : Entries) : Option Entries :=
  match es.named name with
  | none => some (es.put name (.table .header []))
  | some (.table .implied inner) => some (es.put name (.table .header inner))
  | _ => none

/-- Opens a further table of the array of tables with a name. -/
def openNext? (name : String) (_ : Origin) (es : Entries) : Option Entries :=
  match es.named name with
  | none => some (es.put name (.tables [] []))
  | some (.tables earlier last) => some (es.put name (.tables (earlier ++ [last]) []))
  | _ => none

/-- Adds a value under a name that is new.  Only a dotted key adds to a table made by a dotted key. -/
def add? (dotted : Bool) (name : String) (v : Value) (origin : Origin) (es : Entries) : Option Entries :=
  if dotted ≠ (origin = .dotted : Bool) then none
  else if (es.named name).isSome then none
  else some (es.put name (.value v))

/-- Adds a value under a key, which is a path and a name, to the table at another path. -/
def addAt? (table path : List String) (name : String) (v : Value) (es : Entries) : Option Entries :=
  descend false (fun origin es => descend true (add? (!path.isEmpty) name v) path origin es) table .header es

end Entries

mutual

/-- The value that a part of a document has in the end. -/
def Node.toValue : Node → Value
  | .value v => v
  | .table _ es => .table (entriesToValues es)
  | .tables earlier last => .array (tablesToValues earlier ++ [.table (entriesToValues last)])

/-- The values of named parts. -/
def entriesToValues : List (String × Node) → List (String × Value)
  | [] => []
  | (name, node) :: rest => (name, node.toValue) :: entriesToValues rest

/-- The values of tables. -/
def tablesToValues : List (List (String × Node)) → List Value
  | [] => []
  | es :: rest => .table (entriesToValues es) :: tablesToValues rest

end

end WorkspaceSearch.Toml
