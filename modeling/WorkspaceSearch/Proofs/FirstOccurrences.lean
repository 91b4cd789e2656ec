import Mathlib.Data.List.Induction
import Mathlib.Data.List.Nodup
import Mathlib.Data.List.Perm.Subperm

/-!
# First occurrences

The elements of a list without repetitions, in the order in which they first occur.  There is one such list for every
list (`FirstOccurrences.unique`, `firstOccurrences_eraseDups`).
-/

namespace WorkspaceSearch

/-- A list has the elements of another one, each once, in the order in which they first occur there. -/
structure FirstOccurrences {α : Type} [BEq α] (all firsts : List α) : Prop where
  nodup : firsts.Nodup
  mem_iff : ∀ a, a ∈ firsts ↔ a ∈ all
  inOrder : firsts.Pairwise fun a b => all.idxOf a < all.idxOf b

namespace FirstOccurrences

variable {α : Type} [BEq α] {all firsts : List α}

theorem length_le (h : FirstOccurrences all firsts) : firsts.length ≤ all.length :=
  (List.subperm_of_subset h.nodup fun a ha => (h.mem_iff a).1 ha).length_le

/-- There is one such list only. -/
theorem unique {firsts' : List α} (h : FirstOccurrences all firsts) (h' : FirstOccurrences all firsts') :
    firsts = firsts' := by
  have hperm : firsts.Perm firsts' :=
    (List.perm_ext_iff_of_nodup h.nodup h'.nodup).2 fun a => (h.mem_iff a).trans (h'.mem_iff a).symm
  exact hperm.eq_of_pairwise (fun _ _ _ _ hlt hgt => absurd hgt (Nat.lt_asymm hlt)) h.inOrder h'.inOrder

variable [LawfulBEq α]

/-- An element that occurs for the first time comes last. -/
private theorem snoc (h : FirstOccurrences all firsts) {a : α} (ha : a ∉ all) :
    FirstOccurrences (all ++ [a]) (firsts ++ [a]) where
  nodup := by
    rw [List.nodup_append_comm]
    exact List.nodup_cons.2 ⟨fun hmem => ha ((h.mem_iff a).1 hmem), h.nodup⟩
  mem_iff b := by rw [List.mem_append, List.mem_append, h.mem_iff]
  inOrder := by
    have hidx : ∀ b ∈ firsts, (all ++ [a]).idxOf b = all.idxOf b := fun b hb =>
      List.idxOf_append_of_mem ((h.mem_iff b).1 hb)
    refine List.pairwise_append.2 ⟨?_, List.pairwise_singleton _ a, fun b hb c hc => ?_⟩
    · exact h.inOrder.imp_of_mem fun {b c} hb hc hlt => by rwa [hidx b hb, hidx c hc]
    · obtain rfl := List.mem_singleton.1 hc
      rw [hidx b hb, List.idxOf_append_of_notMem ha]
      exact Nat.lt_add_right _ (List.idxOf_lt_length_of_mem ((h.mem_iff b).1 hb))

/-- An element that has occurred makes no difference. -/
private theorem snoc_of_mem (h : FirstOccurrences all firsts) {a : α} (ha : a ∈ all) :
    FirstOccurrences (all ++ [a]) firsts where
  nodup := h.nodup
  mem_iff b := by
    rw [h.mem_iff, List.mem_append, List.mem_singleton, or_iff_left_of_imp]
    rintro rfl
    exact ha
  inOrder := by
    refine h.inOrder.imp_of_mem fun {b c} hb hc hlt => ?_
    rwa [List.idxOf_append_of_mem ((h.mem_iff b).1 hb), List.idxOf_append_of_mem ((h.mem_iff c).1 hc)]

end FirstOccurrences

/-- Leaving out what has occurred before leaves the first occurrences. -/
theorem firstOccurrences_eraseDups {α : Type} [BEq α] [LawfulBEq α] (all : List α) :
    FirstOccurrences all all.eraseDups := by
  induction all using List.reverseRecOn with
  | nil => exact ⟨List.nodup_nil, fun _ => Iff.rfl, List.Pairwise.nil⟩
  | append_singleton all a ih =>
    rw [List.eraseDups_append, List.removeAll]
    by_cases ha : a ∈ all
    · simpa [ha] using ih.snoc_of_mem ha
    · simpa [ha, List.eraseDups_cons] using ih.snoc ha

end WorkspaceSearch
