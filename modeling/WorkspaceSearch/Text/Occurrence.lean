/-!
# Occurrences of one text in another

`find?` gives the offset of the first occurrence, `contains` asks whether there is one, and `occurrences` lists the
offsets of a leftmost scan in which no two occurrences overlap.  Offsets count characters.
-/

namespace WorkspaceSearch.Chars

/-- The offset of the first occurrence of `needle`. -/
def find? (needle : List Char) : List Char → Option Nat
  | [] => if needle = [] then some 0 else none
  | c :: rest => if needle.isPrefixOf (c :: rest) then some 0 else (find? needle rest).map (· + 1)

/-- Whether `needle` occurs in `text`. -/
def contains (text needle : List Char) : Bool := (find? needle text).isSome

/-- The offsets at which a leftmost scan finds `needle`, when the text left is at offset `offset` and the next
`skip` characters belong to the occurrence found last. -/
def occurrencesFrom (needle : List Char) (offset skip : Nat) : List Char → List Nat
  | [] => []
  | c :: rest =>
    match skip with
    | skip + 1 => occurrencesFrom needle (offset + 1) skip rest
    | 0 =>
      if needle.isPrefixOf (c :: rest) then
        offset :: occurrencesFrom needle (offset + 1) (needle.length - 1) rest
      else occurrencesFrom needle (offset + 1) 0 rest

/-- The offsets of the occurrences of `needle` that a leftmost scan takes, none overlapping the one before it. -/
def occurrences (needle text : List Char) : List Nat := occurrencesFrom needle 0 0 text

/-- The first occurrence stands where `find?` says. -/
theorem find?_eq_some {needle text : List Char} {i : Nat} (h : find? needle text = some i) :
    ∃ before after, text = before ++ needle ++ after ∧ before.length = i := by
  induction text generalizing i with
  | nil =>
    simp only [find?] at h
    split at h
    · next hn => exact ⟨[], [], by simp_all⟩
    · simp at h
  | cons c rest ih =>
    simp only [find?] at h
    split at h
    · next hp =>
      obtain ⟨after, ha⟩ := List.isPrefixOf_iff_prefix.1 hp
      exact ⟨[], after, by simp [ha], by simpa using h⟩
    · obtain ⟨j, hj, rfl⟩ := Option.map_eq_some_iff.1 h
      obtain ⟨before, after, hb, rfl⟩ := ih hj
      exact ⟨c :: before, after, by simp [hb], by simp⟩

/-- A text that occurs is found. -/
theorem find?_isSome_of_append (before needle after : List Char) :
    (find? needle (before ++ needle ++ after)).isSome := by
  induction before with
  | nil =>
    cases h : needle ++ after with
    | nil => simp_all [find?]
    | cons c rest =>
      have : needle.isPrefixOf (c :: rest) := List.isPrefixOf_iff_prefix.2 (h ▸ List.prefix_append needle after)
      simp [find?, h, this]
  | cons c before ih =>
    simp only [List.cons_append, find?]
    split
    · simp
    · simpa using ih

/-- A text is contained exactly when it is a contiguous part. -/
theorem contains_iff_infix {text needle : List Char} : contains text needle = true ↔ needle <:+: text := by
  constructor
  · intro h
    obtain ⟨i, hi⟩ := Option.isSome_iff_exists.1 h
    obtain ⟨before, after, ht, -⟩ := find?_eq_some hi
    exact ⟨before, after, ht.symm⟩
  · rintro ⟨before, after, rfl⟩
    exact find?_isSome_of_append before needle after

end WorkspaceSearch.Chars
