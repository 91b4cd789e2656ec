import WorkspaceSearch.Number.Decimal

/-!
# JSON values

Documents are JSON values.  Whole numbers that fit into 64 bits, with or without a sign, are kept apart from all other
numbers, which are decimals.  An object keeps its members in the order and number in which they were written.
-/

namespace WorkspaceSearch

/-- A JSON value. -/
inductive Json where
  | null
  | bool (b : Bool)
  | integer (n : Int)
  | decimal (d : Decimal)
  | string (s : String)
  | array (items : List Json)
  | object (members : List (String × Json))
  deriving Inhabited

namespace Json

/-- The values of the members of that name, in order. -/
def named (members : List (String × Json)) (name : String) : List Json :=
  members.filterMap fun (n, j) => if n = name then some j else none

/-- The members of an object whose names are not among the given ones. -/
def membersOutside (j : Json) (names : List String) : List (String × Json) :=
  match j with
  | .object members => members.filter fun m => !names.contains m.1
  | _ => []

end Json

end WorkspaceSearch
