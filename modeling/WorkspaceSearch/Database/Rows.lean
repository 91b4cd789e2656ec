/-!
# Rows of a table

The rows of a table in the order in which they were inserted, each under a number of its own.  What is looked up is the
list of the rows (`Rows.toList`); the numbers only serve to name single rows.
-/

namespace WorkspaceSearch

/-- A row under its number. -/
structure Numbered (Row : Type) where
  number : Int
  row : Row
  deriving DecidableEq, Repr

/-- The rows of a table. -/
structure Rows (Row : Type) where
  entries : List (Numbered Row) := []
  deriving DecidableEq, Repr

namespace Rows

variable {Row : Type}

instance : Inhabited (Rows Row) := ⟨{}⟩

/-- The rows without their numbers. -/
def toList (t : Rows Row) : List Row := t.entries.map (·.row)

/-- The number of the next row: one more than the greatest there is. -/
def nextNumber (t : Rows Row) : Int :=
  match t.entries.map (·.number) with
  | [] => 1
  | n :: ns => ns.foldl max n + 1

/-- Whether there is a row under a number. -/
def hasNumber (t : Rows Row) (number : Int) : Bool := t.entries.any fun e => e.number == number

/-- Whether some row satisfies a condition. -/
def any (t : Rows Row) (p : Row → Bool) : Bool := t.toList.any p

/-- Puts a row at the end, under the next number. -/
def push (t : Rows Row) (r : Row) : Rows Row := ⟨t.entries ++ [⟨t.nextNumber, r⟩]⟩

/-- Gives the row at the end another number. -/
def renumberLast (t : Rows Row) (number : Int) : Rows Row :=
  match t.entries.getLast? with
  | none => t
  | some e => ⟨t.entries.dropLast ++ [{ e with number }]⟩

/-- Takes out the entries that satisfy a condition. -/
def erase (t : Rows Row) (p : Numbered Row → Bool) : Rows Row := ⟨t.entries.filter (!p ·)⟩

/-- Changes every row and keeps its number. -/
def map (t : Rows Row) (f : Row → Row) : Rows Row := ⟨t.entries.map fun e => { e with row := f e.row }⟩

/-- The number of rows. -/
def size (t : Rows Row) : Nat := t.entries.length

@[simp] theorem toList_empty : ({} : Rows Row).toList = [] := rfl

@[simp] theorem toList_push (t : Rows Row) (r : Row) : (t.push r).toList = t.toList ++ [r] := by
  simp [push, toList]

@[simp] theorem toList_renumberLast (t : Rows Row) (number : Int) : (t.renumberLast number).toList = t.toList := by
  unfold renumberLast
  split
  · rfl
  · rename_i e h
    obtain ⟨init, hi⟩ := List.getLast?_eq_some_iff.1 h
    simp [toList, hi]

@[simp] theorem toList_map (t : Rows Row) (f : Row → Row) : (t.map f).toList = t.toList.map f := by
  simp [map, toList]

/-- Taking out rows by a condition on the row alone. -/
@[simp] theorem toList_erase_row (t : Rows Row) (p : Row → Bool) :
    (t.erase fun e => p e.row).toList = t.toList.filter (!p ·) := by
  simp [erase, toList, List.filter_map, Function.comp_def]

theorem toList_erase_sublist (t : Rows Row) (p : Numbered Row → Bool) : (t.erase p).toList.Sublist t.toList :=
  List.filter_sublist.map _

@[simp] theorem size_eq_length (t : Rows Row) : t.size = t.toList.length := by simp [size, toList]

end Rows

end WorkspaceSearch
