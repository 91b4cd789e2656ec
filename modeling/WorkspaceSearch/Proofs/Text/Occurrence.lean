import Mathlib.Data.List.Infix
import Mathlib.Data.List.Pairwise
import Mathlib.Data.List.Sort
import Mathlib.Data.Nat.Find
import WorkspaceSearch.Proofs.Relevance.Annotation

/-!
# First and leftmost occurrences

A list occurs first at a place when it stands there and at no place before (`FirstAt`); `find?` gives that place
(`find?_eq_some_iff`).

The places that a scan from the left takes are pinned down without the scan (`IsLeftmost`): the list stands at each of
them, no two overlap, and every other occurrence begins inside one of them.  There is only one such list of places
(`IsLeftmost.unique`), and `occurrences` is it (`isLeftmost_occurrences`).
-/

namespace WorkspaceSearch.Chars

/-! ### The first occurrence -/

section

variable {α : Type}

/-- A list stands at a place of another one, and at no place before. -/
structure FirstAt (needle text : List α) (place : Nat) : Prop where
  stands : needle <+: text.drop place
  first : ∀ i < place, ¬needle <+: text.drop i

variable {needle text : List α} {i j : Nat}

theorem FirstAt.unique (hi : FirstAt needle text i) (hj : FirstAt needle text j) : i = j := by
  rcases Nat.lt_trichotomy i j with hlt | heq | hlt
  · exact absurd hi.stands (hj.first i hlt)
  · exact heq
  · exact absurd hj.stands (hi.first j hlt)

private theorem infix_of_prefix_drop (h : needle <+: text.drop i) : needle <:+: text :=
  h.isInfix.trans (List.drop_suffix i text).isInfix

private theorem exists_prefix_drop (h : needle <:+: text) : ∃ i, needle <+: text.drop i := by
  obtain ⟨front, back, rfl⟩ := h
  refine ⟨front.length, ?_⟩
  rw [List.append_assoc, List.drop_left]
  exact List.prefix_append needle back

/-- What occurs has a first place. -/
theorem exists_firstAt_iff : (∃ i, FirstAt needle text i) ↔ needle <:+: text := by
  constructor
  · rintro ⟨i, h⟩
    exact infix_of_prefix_drop h.stands
  · intro h
    classical
    have hexists := exists_prefix_drop h
    exact ⟨Nat.find hexists, Nat.find_spec hexists, fun i => Nat.find_min hexists⟩

/-- An occurrence ends within the text. -/
theorem FirstAt.end_le (h : FirstAt needle text i) : i + needle.length ≤ text.length := by
  have hlength := h.stands.length_le
  rw [List.length_drop] at hlength
  cases needle with
  | nil =>
    -- the empty list stands everywhere, so first of all in front
    cases i with
    | zero => exact Nat.zero_le _
    | succ i => exact absurd List.nil_prefix (h.first 0 (Nat.succ_pos i))
  | cons a needle =>
    rw [List.length_cons] at hlength ⊢
    omega

theorem firstAt_zero_iff : FirstAt needle text 0 ↔ needle <+: text :=
  ⟨fun h => h.stands, fun h => ⟨h, fun _ hi => absurd hi (Nat.not_lt_zero _)⟩⟩

private theorem firstAt_succ_iff {a : α} :
    FirstAt needle (a :: text) (i + 1) ↔ ¬needle <+: a :: text ∧ FirstAt needle text i := by
  constructor
  · intro h
    exact ⟨h.first 0 (Nat.succ_pos i), h.stands, fun j hj => h.first (j + 1) (Nat.succ_lt_succ hj)⟩
  · rintro ⟨hnot, h⟩
    refine ⟨h.stands, fun j hj => ?_⟩
    cases j with
    | zero => exact hnot
    | succ j => exact h.first j (Nat.lt_of_succ_lt_succ hj)

/-! ### The leftmost occurrences -/

/-- The places at which a scan from the left takes a list, no occurrence overlapping the one taken before it. -/
structure IsLeftmost (needle text : List α) (places : List Nat) : Prop where
  stands : ∀ i ∈ places, needle <+: text.drop i
  apart : places.Pairwise fun i j => i + needle.length ≤ j
  /-- Whatever is not taken begins inside something that is taken. -/
  covered : ∀ j, needle <+: text.drop j → ∃ i ∈ places, i ≤ j ∧ j < i + needle.length

namespace IsLeftmost

variable {places places' : List Nat}

private theorem ne_nil (h : IsLeftmost needle text places) : needle ≠ [] := by
  rintro rfl
  obtain ⟨i, -, hle, hlt⟩ := h.covered 0 List.nil_prefix
  rw [List.length_nil] at hlt
  omega

private theorem end_le_of_lt (h : IsLeftmost needle text places) (hi : i ∈ places) (hj : j ∈ places) (hlt : i < j) :
    i + needle.length ≤ j := by
  have happart : places.Pairwise fun i j => i + needle.length ≤ j ∨ j + needle.length ≤ i := h.apart.imp .inl
  have : Std.Symm fun i j => i + needle.length ≤ j ∨ j + needle.length ≤ i := ⟨fun _ _ => Or.symm⟩
  rcases happart.forall hi hj hlt.ne with hle | hle <;> omega

/-- A place is taken exactly when the list stands there and nothing taken before reaches it. -/
private theorem mem_iff (h : IsLeftmost needle text places) :
    i ∈ places ↔ needle <+: text.drop i ∧ ∀ k ∈ places, k < i → k + needle.length ≤ i := by
  constructor
  · exact fun hi => ⟨h.stands i hi, fun k hk hlt => h.end_le_of_lt hk hi hlt⟩
  · rintro ⟨hstands, hclear⟩
    obtain ⟨k, hk, hle, hlt⟩ := h.covered i hstands
    rcases Nat.lt_or_eq_of_le hle with hbefore | rfl
    · exact absurd (hclear k hk hbefore) (Nat.not_le.2 hlt)
    · exact hk

private theorem strictly_apart (h : IsLeftmost needle text places) : places.Pairwise (· < ·) := by
  have hlength := List.length_pos_iff.2 h.ne_nil
  exact h.apart.imp fun hle => by omega

/-- A text has only one list of leftmost places. -/
theorem unique (h : IsLeftmost needle text places) (h' : IsLeftmost needle text places') : places = places' := by
  refine h.strictly_apart.eq_of_mem_iff h'.strictly_apart fun i => ?_
  -- which places are taken before decides whether the next one is
  induction i using Nat.strong_induction_on with
  | _ i ih =>
    rw [h.mem_iff, h'.mem_iff]
    refine and_congr_right fun _ => ?_
    constructor
    · exact fun hclear k hk hlt => hclear k ((ih k hlt).2 hk) hlt
    · exact fun hclear k hk hlt => hclear k ((ih k hlt).1 hk) hlt

end IsLeftmost

end

/-! ### The search for it -/

variable {needle text : List Char} {i offset skip : Nat}

theorem find?_eq_some_iff : find? needle text = some i ↔ FirstAt needle text i := by
  induction text generalizing i with
  | nil =>
    rw [find?]
    split
    · next hnil =>
      subst hnil
      constructor
      · intro h
        obtain rfl := Option.some.inj h
        exact firstAt_zero_iff.2 List.nil_prefix
      · intro h
        obtain rfl := h.unique (firstAt_zero_iff.2 List.nil_prefix)
        rfl
    · next hne =>
      refine iff_of_false (by simp) fun h => hne ?_
      simpa using h.stands
  | cons c text ih =>
    rw [find?]
    split
    · next hhere =>
      -- a place here is the first one, and first places are unique
      have hfirst := firstAt_zero_iff.2 (List.isPrefixOf_iff_prefix.1 hhere)
      constructor
      · intro h
        obtain rfl := Option.some.inj h
        exact hfirst
      · intro h
        rw [h.unique hfirst]
    · next hhere =>
      rw [List.isPrefixOf_iff_prefix] at hhere
      cases i with
      | zero => simpa [firstAt_zero_iff] using hhere
      | succ i => simp [firstAt_succ_iff, hhere, ih]

theorem find?_eq_none_iff : find? needle text = none ↔ ¬needle <:+: text := by
  rw [← contains_iff_infix, contains, Bool.not_eq_true, Option.isSome_eq_false_iff, Option.isNone_iff_eq_none]

/-! ### The scan -/

private theorem le_of_mem_occurrencesFrom (h : i ∈ occurrencesFrom needle offset skip text) : offset + skip ≤ i := by
  induction text generalizing offset skip with
  | nil => cases h
  | cons c text ih =>
    cases skip with
    | succ skip =>
      have hle := ih h
      omega
    | zero =>
      rw [occurrencesFrom] at h
      split at h
      · rcases List.mem_cons.1 h with rfl | h
        · exact Nat.le_refl _
        · have hle := ih h
          omega
      · have hle := ih h
        omega

private theorem pairwise_occurrencesFrom (hne : needle ≠ []) :
    (occurrencesFrom needle offset skip text).Pairwise fun i j => i + needle.length ≤ j := by
  have hlength := List.length_pos_iff.2 hne
  induction text generalizing offset skip with
  | nil => exact .nil
  | cons c text ih =>
    cases skip with
    | succ skip => exact ih
    | zero =>
      rw [occurrencesFrom]
      split
      · refine .cons (fun j hj => ?_) ih
        have hle := le_of_mem_occurrencesFrom hj
        omega
      · exact ih

private theorem exists_mem_occurrencesFrom (hne : needle ≠ []) {j : Nat} (hskip : skip ≤ j)
    (h : needle <+: text.drop j) :
    ∃ i ∈ occurrencesFrom needle offset skip text, i ≤ offset + j ∧ offset + j < i + needle.length := by
  have hlength := List.length_pos_iff.2 hne
  induction text generalizing offset skip j with
  | nil => exact absurd (List.prefix_nil.1 (by simpa using h)) hne
  | cons c text ih =>
    -- an occurrence behind the first character is one of the rest, one place nearer
    have hbehind : ∀ skip' j', j = j' + 1 → skip' ≤ j' →
        ∃ i ∈ occurrencesFrom needle (offset + 1) skip' text, i ≤ offset + j ∧ offset + j < i + needle.length := by
      rintro skip' j' rfl hskip'
      rw [Nat.add_comm j' 1, ← Nat.add_assoc]
      exact ih hskip' (by simpa using h)
    cases skip with
    | succ skip => exact hbehind skip (j - 1) (by omega) (by omega)
    | zero =>
      rw [occurrencesFrom]
      split
      · by_cases hinside : j < needle.length
        · exact ⟨offset, List.mem_cons_self, by omega, by omega⟩
        · obtain ⟨i, hi, hends⟩ := hbehind (needle.length - 1) (j - 1) (by omega) (by omega)
          exact ⟨i, List.mem_cons_of_mem _ hi, hends⟩
      · next hhere =>
        have hpos : j ≠ 0 := by
          rintro rfl
          exact hhere (List.isPrefixOf_iff_prefix.2 h)
        exact hbehind 0 (j - 1) (by omega) (Nat.zero_le _)

/-- The scan takes the leftmost occurrences. -/
theorem isLeftmost_occurrences (hne : needle ≠ []) (text : List Char) :
    IsLeftmost needle text (occurrences needle text) where
  stands _ hi := (prefix_of_mem_occurrences hi).2
  apart := pairwise_occurrencesFrom hne
  covered j h := by
    have hscan : ∃ i ∈ occurrencesFrom needle 0 0 text, i ≤ 0 + j ∧ 0 + j < i + needle.length :=
      exists_mem_occurrencesFrom hne (Nat.zero_le j) h
    rwa [Nat.zero_add] at hscan

/-- Something is taken exactly when the text contains the list. -/
theorem occurrences_ne_nil_iff (hne : needle ≠ []) : occurrences needle text ≠ [] ↔ needle <:+: text := by
  have hleftmost := isLeftmost_occurrences hne text
  constructor
  · intro h
    obtain ⟨i, hi⟩ := List.exists_mem_of_ne_nil _ h
    exact infix_of_prefix_drop (hleftmost.stands i hi)
  · intro h
    obtain ⟨j, hj⟩ := exists_prefix_drop h
    obtain ⟨i, hi, -⟩ := hleftmost.covered j hj
    exact List.ne_nil_of_mem hi

end WorkspaceSearch.Chars
