import Mathlib.Data.List.Nodup
import Mathlib.Data.List.Perm.Subperm

/-!
# Stretches

A page is a stretch of a ranking.  When some elements of a list without repetitions are left out, a stretch of it stays
the same only if they all stood behind its end (`stretch_eq_iff`).
-/

namespace WorkspaceSearch

/-- A stretch of a list. -/
def stretch {α : Type} (start length : Nat) (xs : List α) : List α := (xs.drop start).take length

theorem stretch_append {α : Type} (start m n : Nat) (xs : List α) :
    stretch start m xs ++ stretch (start + m) n xs = stretch start (m + n) xs := by
  rw [stretch, stretch, stretch, List.take_add, List.drop_drop]

/-! ### Stretches of a list and of some of its elements -/

section

variable {α : Type} {narrow wide : List α} {start length : Nat}

/-- The front is the same when all of it is left. -/
private theorem take_eq_of_subset (h : narrow.Sublist wide) (hnodup : wide.Nodup) {n : Nat}
    (hall : ∀ x ∈ wide.take n, x ∈ narrow) : narrow.take n = wide.take n := by
  have hlength : (narrow.take n).length ≤ (wide.take n).length := by
    have := h.length_le
    simp only [List.length_take]
    omega
  rw [← List.take_append_drop n wide] at h hnodup
  obtain ⟨front, back, rfl, hfront, hback⟩ := List.sublist_append_iff.1 h
  have hdisjoint := List.disjoint_of_nodup_append hnodup
  have hsubset : wide.take n ⊆ front := by
    intro x hx
    rcases List.mem_append.1 (hall x hx) with hf | hb
    · exact hf
    · exact absurd (hback.subset hb) (hdisjoint hx)
  have hle := (List.subperm_of_subset (List.nodup_append.1 hnodup).1 hsubset).length_le
  rw [hfront.eq_of_length_le hle] at hlength ⊢
  have hbegin : wide.take n <+: (wide.take n ++ back).take n := by
    rw [List.take_append, List.take_take, Nat.min_self]
    exact List.prefix_append _ _
  exact (hbegin.sublist.eq_of_length_le hlength).symm

/-- Leaving elements out moves the others to the front.  So nothing is left out in front of an element that does not
stand further in front than before. -/
private theorem front_subset_of_head_mem (h : narrow.Sublist wide) (hnodup : wide.Nodup) {x : α} {rest : List α}
    (hx : wide.drop start = x :: rest) (hmem : x ∈ narrow.drop start) : ∀ y ∈ wide.take start, y ∈ narrow := by
  rw [← List.take_append_drop start wide] at h
  obtain ⟨front, back, rfl, hfront, hback⟩ := List.sublist_append_iff.1 h
  have hxrest : x ∉ rest := by
    have hdrop := hnodup.sublist (List.drop_sublist start wide)
    rw [hx] at hdrop
    exact (List.nodup_cons.1 hdrop).1
  have hlength : (wide.take start).length ≤ front.length := by
    -- were something left out in front, the element would have moved into the first part
    by_contra hlt
    have hstart : (wide.take start).length ≤ start := List.length_take_le _ _
    obtain ⟨k, hk⟩ : ∃ k, start = front.length + (k + 1) := ⟨start - front.length - 1, by omega⟩
    rw [hk, List.drop_length_add_append, ← List.drop_tail] at hmem
    have htail := hback.tail
    rw [hx] at htail
    exact hxrest (htail.subset (List.mem_of_mem_drop hmem))
  rw [hfront.eq_of_length_le hlength]
  intro y hy
  exact List.mem_append_left back hy

/-- A stretch is the same when elements have been left out of the list exactly when it is empty, or when nothing up to
its end has been left out. -/
theorem stretch_eq_iff (h : narrow.Sublist wide) (hnodup : wide.Nodup) :
    stretch start length narrow = stretch start length wide ↔
      length = 0 ∨ wide.length ≤ start ∨ ∀ x ∈ wide.take (start + length), x ∈ narrow := by
  constructor
  · intro heq
    rcases Nat.eq_zero_or_pos length with hzero | hpos
    · exact .inl hzero
    · refine .inr (or_iff_not_imp_left.2 fun hstart => ?_)
      cases hdrop : wide.drop start with
      | nil => exact absurd (List.drop_eq_nil_iff.1 hdrop) hstart
      | cons x rest =>
        -- the stretch is not empty: its first element has kept its place
        have hhead : x ∈ stretch start length narrow := by
          obtain ⟨k, rfl⟩ := Nat.exists_eq_add_of_le' hpos
          rw [heq, stretch, hdrop]
          simp
        have hfront := front_subset_of_head_mem h hnodup hdrop (List.mem_of_mem_take hhead)
        intro y hy
        rw [List.take_add] at hy
        rcases List.mem_append.1 hy with hy | hy
        · exact hfront y hy
        · have hnarrow : y ∈ stretch start length narrow := heq ▸ hy
          exact List.mem_of_mem_drop (List.mem_of_mem_take hnarrow)
  · rintro (rfl | hstart | hall)
    · simp [stretch]
    · have hnarrow := Nat.le_trans h.length_le hstart
      rw [stretch, stretch, List.drop_eq_nil_of_le hstart, List.drop_eq_nil_of_le hnarrow]
    · rw [stretch, stretch, List.take_drop, List.take_drop, take_eq_of_subset h hnodup hall]

end

end WorkspaceSearch
