import WorkspaceSearch.Form.Query
import WorkspaceSearch.Form.Result
import WorkspaceSearch.Proofs.Json.Whole
import WorkspaceSearch.Proofs.SavedSearch.Stored

/-!
# Forms that lose nothing

What a form writes is read back (`Form.Lossless`) of texts, dates, identifiers and choices by name, and of optional
values and lists of these.  A record is read from the object that it is written as field by field, for every field
stands there once (`Record.ofJson?_given`).
-/

namespace WorkspaceSearch

-- the powers of the core library, whatever else is in scope
attribute [local instance (2000)] instPowNat

namespace Record

/-- The record with what is given for each of its fields. -/
def given (members : List (String × Json)) : Record := ⟨members.map fun m => (m.1, .given m.2)⟩

/-- An object with every field once is read as the record with what it gives. -/
theorem ofJson?_given (fields : List String) (members : List (String × Json)) (hnames : members.map (·.1) = fields)
    (hnodup : fields.Nodup) : ofJson? fields (.object members) = some (given members) := by
  subst hnames
  exact Form.ofJson?_of_nodup hnodup

end Record

namespace Form

variable {α : Type} {f : Form α}

/-- Reading goes on with what has been read of a field. -/
theorem reads_then {β : Type} {field : Option α} {a : α} {more : α → Option β} {b : β} (hfield : field = some a)
    (hmore : more a = some b) : (field >>= more) = some b := by
  rw [hfield]
  exact hmore

/-- What is written is a document without decimals, is not null, and is read back. -/
structure Lossless (f : Form α) : Prop where
  read_write : ∀ a, f.read (f.write a) = some a
  isWhole : ∀ a, (f.write a).IsWhole
  ne_null : ∀ a, f.write a ≠ .null

private theorem Faithful.lossless (h : f.Faithful) : f.Lossless :=
  ⟨h.read_write, fun a => (h.isLeaf a).isWhole, h.ne_null⟩

theorem lossless_text : text.Lossless := faithful_text.lossless

theorem lossless_bool : bool.Lossless := faithful_bool.lossless

theorem lossless_instant : instant.Lossless := faithful_instant.lossless

theorem lossless_uuid : uuid.Lossless := ⟨fun u => u.ofText?_render, fun _ => .string _, fun _ => Json.noConfusion⟩

/-- A choice is read back when every value is one of the list and the names of the list differ. -/
private theorem lossless_choice {values : List α} {name : α → String} (hall : ∀ a, a ∈ values)
    (hinj : Function.Injective name) : (choice values name).Lossless := by
  refine ⟨fun a => ?_, fun _ => .string _, fun _ => Json.noConfusion⟩
  cases hfound : values.find? fun b => name b = name a with
  | none => exact absurd rfl (of_decide_eq_false (Bool.eq_false_iff.2 (List.find?_eq_none.1 hfound a (hall a))))
  | some b =>
    have hname := List.find?_some hfound
    obtain rfl := hinj (of_decide_eq_true hname)
    exact hfound

theorem lossless_scope : scope.Lossless := by
  refine lossless_choice (fun s => ?_) fun s t h => ?_
  · rcases s with _ | ⟨_ | _⟩ <;> decide
  · rcases s with _ | ⟨_ | _⟩ <;> rcases t with _ | ⟨_ | _⟩ <;> first | rfl | exact absurd h (by decide)

theorem lossless_sortBy : sortBy.Lossless := by
  refine lossless_choice (fun s => ?_) fun s t h => ?_
  · cases s <;> decide
  · cases s <;> cases t <;> first | rfl | exact absurd h (by decide)

theorem lossless_sortOrder : sortOrder.Lossless := by
  refine lossless_choice (fun s => ?_) fun s t h => ?_
  · cases s <;> decide
  · cases s <;> cases t <;> first | rfl | exact absurd h (by decide)

/-- A tag is read back, whatever the text of one that is not known. -/
theorem lossless_hasTag : hasTag.Lossless := by
  refine ⟨fun tag => ?_, fun tag => ?_, fun tag => ?_⟩
  · cases tag <;> rfl
  · cases tag with
    | other text => exact .object (by simpa using .string text)
    | _ => exact .string _
  · cases tag <;> exact Json.noConfusion

/-! ### Options and lists -/

theorem Lossless.read_option (h : f.Lossless) (o : Option α) : f.option.read (f.option.write o) = some o := by
  cases o with
  | none => rfl
  | some a => exact (read_option_of_ne_null (h.ne_null a)).trans (congrArg (Option.map some) (h.read_write a))

theorem Lossless.isWhole_option (h : f.Lossless) (o : Option α) : (f.option.write o).IsWhole := by
  cases o with
  | none => exact .null
  | some a => exact h.isWhole a

theorem Lossless.list (h : f.Lossless) : f.list.Lossless := by
  refine ⟨fun as => ?_, fun as => .array fun j hj => ?_, fun _ => Json.noConfusion⟩
  · induction as with
    | nil => rfl
    | cons a as ih =>
      have hmore : (as.map f.write).mapM f.read = some as := ih
      have hread : f.list.read (f.list.write (a :: as)) = ((a :: as).map f.write).mapM f.read := rfl
      rw [hread, List.map_cons, List.mapM_cons, h.read_write, hmore]
      rfl
  · obtain ⟨a, -, rfl⟩ := List.mem_map.1 hj
    exact h.isWhole a

/-! ### Whole numbers -/

/-- A whole number that fits into 64 bits with a sign. -/
def Fits (n : Int) : Prop := Numeral.Range.integer64.holds n = true

theorem read_write_integer64 {n : Int} (h : Fits n) : integer64.read (integer64.write n) = some n := if_pos h

theorem isWhole_integer64 {n : Int} (h : Fits n) : (integer64.write n).IsWhole := by
  obtain ⟨hlow, hhigh⟩ := Bool.and_eq_true_iff.1 h
  have hlow : -(2 ^ (63 : Nat)) ≤ n := of_decide_eq_true hlow
  have hhigh : n ≤ 2 ^ (63 : Nat) - 1 := of_decide_eq_true hhigh
  exact .integer (by omega)

/-- A number that is read fits. -/
private theorem fits_of_read {j : Json} {n : Int} (h : integer64.read j = some n) : Fits n := by
  cases j with
  | integer m =>
    have hread : (if Numeral.Range.integer64.holds m then some m else none) = some n := h
    split at hread
    · next hm => exact Option.some.inj hread ▸ hm
    · cases hread
  | _ => cases h

theorem fits_of_required {r : Record} {name : String} {n : Int} (h : r.required name integer64 = some n) : Fits n := by
  unfold Record.required at h
  split at h
  · exact fits_of_read h
  · cases h

end Form

end WorkspaceSearch
