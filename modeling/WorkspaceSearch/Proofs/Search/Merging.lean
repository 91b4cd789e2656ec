import Mathlib.Data.List.Sort

/-!
# Merging sorted runs

Sorting runs that stand behind each other is merging them, when each run is sorted already (`mergeSort_append`).  The
front of a merge is made of the fronts of the two runs (`take_merge`), so a run that is cut off does not change what
stands in front of the cut (`take_mergeSort_flatMap`).
-/

namespace WorkspaceSearch.Merging

section

variable {α : Type} {le : α → α → Bool}

private theorem singleton_merge_of_le {a : α} {xs : List α} (h : ∀ x ∈ xs.head?, le a x = true) :
    [a].merge xs le = a :: xs := by
  cases xs with
  | nil => simp
  | cons x xs =>
    rw [List.cons_merge_cons_pos _ _ _ (h x rfl), List.nil_merge]

private theorem singleton_merge_append {a : α} {xs ys : List α} (hxs : ∀ x ∈ xs, le a x = false)
    (hys : ∀ y ∈ ys.head?, le a y = true) : [a].merge (xs ++ ys) le = xs ++ a :: ys := by
  induction xs with
  | nil => exact singleton_merge_of_le hys
  | cons x xs ih =>
    have hx : ¬le a x = true := by simp [hxs x List.mem_cons_self]
    rw [List.cons_append, List.cons_merge_cons_neg _ _ _ hx, ih fun z hz => hxs z (List.mem_cons_of_mem _ hz)]
    rfl

/-- The front of a merge needs no more of either run. -/
theorem take_merge {n v w : Nat} (hv : n ≤ v) (hw : n ≤ w) (xs ys : List α) :
    ((xs.take v).merge (ys.take w) le).take n = (xs.merge ys le).take n := by
  induction n generalizing v w xs ys with
  | zero => simp
  | succ n ih =>
    obtain ⟨v, rfl⟩ := Nat.exists_eq_add_of_le' (Nat.le_trans (Nat.succ_le_succ (Nat.zero_le n)) hv)
    obtain ⟨w, rfl⟩ := Nat.exists_eq_add_of_le' (Nat.le_trans (Nat.succ_le_succ (Nat.zero_le n)) hw)
    cases xs with
    | nil => simp [List.take_take, Nat.min_eq_left hw]
    | cons x xs =>
      cases ys with
      | nil => simp [List.take_take, Nat.min_eq_left (Nat.le_of_succ_le_succ hv)]
      | cons y ys =>
        rw [List.take_succ_cons, List.take_succ_cons, List.cons_merge_cons, List.cons_merge_cons]
        -- one of the two windows becomes smaller by one, as the front does
        split
        · have := ih (v := v) (w := w + 1) (by omega) (by omega) xs (y :: ys)
          rw [List.take_succ_cons] at this
          rw [List.take_succ_cons, List.take_succ_cons, this]
        · have := ih (v := v + 1) (w := w) (by omega) (by omega) (x :: xs) ys
          rw [List.take_succ_cons] at this
          rw [List.take_succ_cons, List.take_succ_cons, this]

variable (htrans : ∀ a b c, le a b → le b c → le a c) (htotal : ∀ a b, le a b || le b a)

include htrans in
/-- The first element of a sorted run may be merged in last. -/
private theorem singleton_merge_merge {a : α} {xs : List α} (hxs : (a :: xs).Pairwise (le · ·)) (ys : List α) :
    [a].merge (xs.merge ys le) le = (a :: xs).merge ys le := by
  have hhead : ∀ x ∈ xs.head?, le a x = true := fun x hx => List.rel_of_pairwise_cons hxs (List.mem_of_mem_head? hx)
  induction ys with
  | nil =>
    rw [List.merge_right, List.merge_right]
    exact singleton_merge_of_le hhead
  | cons y ys ih =>
    by_cases hy : le a y = true
    · rw [List.cons_merge_cons_pos _ _ _ hy]
      refine singleton_merge_of_le ?_
      cases xs with
      | nil => simpa using hy
      | cons x xs =>
        rw [List.cons_merge_cons]
        split
        · simpa using hhead x rfl
        · simpa using hy
    · -- what comes before the first element comes before the whole run
      have hstep : xs.merge (y :: ys) le = y :: xs.merge ys le := by
        cases xs with
        | nil => simp
        | cons x xs =>
          have hx : ¬le x y = true := fun h => hy (htrans a x y (hhead x rfl) h)
          exact List.cons_merge_cons_neg _ _ _ hx
      rw [hstep, List.cons_merge_cons_neg _ _ _ hy, List.cons_merge_cons_neg _ _ _ hy, ih]

include htrans htotal in
/-- Sorting a list with one more element in front is putting that element into the sorted list. -/
private theorem mergeSort_cons (a : α) (xs : List α) : (a :: xs).mergeSort le = [a].merge (xs.mergeSort le) le := by
  obtain ⟨front, back, hall, hrest, hfront⟩ := List.mergeSort_cons htrans htotal a xs
  have hsorted := List.pairwise_mergeSort htrans htotal (a :: xs)
  rw [hall] at hsorted
  have hback := (List.pairwise_append.1 hsorted).2.1
  rw [hall, hrest]
  refine (singleton_merge_append (fun x hx => ?_) fun y hy => ?_).symm
  · simpa using hfront x hx
  · exact List.rel_of_pairwise_cons hback (List.mem_of_mem_head? hy)

private theorem singleton_merge_eq_orderedInsert (a : α) (xs : List α) :
    [a].merge xs le = xs.orderedInsert (le · ·) a := by
  induction xs with
  | nil => simp
  | cons x xs ih =>
    by_cases hx : le a x = true
    · rw [List.cons_merge_cons_pos _ _ _ hx, List.nil_merge, List.orderedInsert_cons, if_pos hx]
    · rw [List.cons_merge_cons_neg _ _ _ hx, List.orderedInsert_cons, if_neg hx, ih]

include htrans htotal in
/-- Both ways of sorting keep ties in their order. -/
theorem mergeSort_eq_insertionSort (xs : List α) : xs.mergeSort le = xs.insertionSort (le · ·) := by
  induction xs with
  | nil => simp
  | cons x xs ih => rw [mergeSort_cons htrans htotal, ih, singleton_merge_eq_orderedInsert, List.insertionSort_cons]

include htrans htotal in
/-- Sorting fewer elements leaves the others in their order. -/
theorem mergeSort_sublist {xs ys : List α} (h : xs.Sublist ys) : (xs.mergeSort le).Sublist (ys.mergeSort le) := by
  have : IsTrans α (le · ·) := ⟨htrans⟩
  rw [mergeSort_eq_insertionSort htrans htotal, mergeSort_eq_insertionSort htrans htotal]
  induction h with
  | slnil => exact .refl _
  | cons y _ ih => exact ih.trans (List.sublist_orderedInsert y _)
  | @cons_cons _ ys x _ ih =>
    have hsorted := List.pairwise_mergeSort htrans htotal ys
    rw [mergeSort_eq_insertionSort htrans htotal] at hsorted
    exact ih.orderedInsert_sublist x hsorted

include htrans htotal in
/-- Sorting and leaving elements out may change places. -/
theorem mergeSort_filter (p : α → Bool) (xs : List α) : (xs.filter p).mergeSort le = (xs.mergeSort le).filter p := by
  have hall : ((xs.filter p).mergeSort le).filter p = (xs.filter p).mergeSort le :=
    List.filter_eq_self.2 fun x hx => List.of_mem_filter (List.mem_mergeSort.1 hx)
  have hsub := (mergeSort_sublist htrans htotal (List.filter_sublist (p := p) (l := xs))).filter p
  rw [hall] at hsub
  refine hsub.eq_of_length ?_
  rw [List.length_mergeSort, ((List.mergeSort_perm xs le).filter p).length_eq]

include htrans htotal in
/-- Elements that all tie keep their order. -/
theorem filter_mergeSort {p : α → Bool} (htie : ∀ x y, p x = true → p y = true → le x y = true) (xs : List α) :
    (xs.mergeSort le).filter p = xs.filter p := by
  have hties : (xs.filter p).Pairwise (le · ·) :=
    List.pairwise_of_forall_mem_list fun x hx y hy => htie x y (List.mem_filter.1 hx).2 (List.mem_filter.1 hy).2
  have hsublist := (List.sublist_mergeSort htrans htotal hties List.filter_sublist).filter p
  rw [List.filter_filter] at hsublist
  simp only [Bool.and_self] at hsublist
  exact (hsublist.eq_of_length ((List.mergeSort_perm xs le).filter p).length_eq.symm).symm

include htrans htotal in
/-- Sorting does not depend on how a list is arranged when there are no ties. -/
theorem mergeSort_eq_of_perm {xs ys : List α} (h : xs.Perm ys)
    (hanti : ∀ x ∈ xs, ∀ y ∈ xs, le x y = true → le y x = true → x = y) : xs.mergeSort le = ys.mergeSort le := by
  have hperm : (xs.mergeSort le).Perm (ys.mergeSort le) :=
    (List.mergeSort_perm xs le).trans (h.trans (List.mergeSort_perm ys le).symm)
  refine hperm.eq_of_pairwise (fun x y hx hy => ?_) (List.pairwise_mergeSort htrans htotal xs)
    (List.pairwise_mergeSort htrans htotal ys)
  exact hanti x (List.mem_mergeSort.1 hx) y (h.mem_iff.2 (List.mem_mergeSort.1 hy))

include htrans htotal in
/-- Sorting a sorted run and what stands behind it is merging the two. -/
theorem mergeSort_append {xs : List α} (hxs : xs.Pairwise (le · ·)) (ys : List α) :
    (xs ++ ys).mergeSort le = xs.merge (ys.mergeSort le) le := by
  induction xs with
  | nil => simp
  | cons x xs ih =>
    rw [List.cons_append, mergeSort_cons htrans htotal, ih hxs.of_cons, singleton_merge_merge htrans hxs]

include htrans htotal in
/-- The front of several sorted runs that are sorted together needs no more than the front of each. -/
theorem take_mergeSort_flatMap {ι : Type} {n w : Nat} (hw : n ≤ w) (run : ι → List α) {is : List ι}
    (hruns : ∀ i ∈ is, (run i).Pairwise (le · ·)) :
    ((is.flatMap fun i => (run i).take w).mergeSort le).take n = ((is.flatMap run).mergeSort le).take n := by
  induction is with
  | nil => rfl
  | cons i is ih =>
    have hrun := hruns i List.mem_cons_self
    have hrest := ih fun j hj => hruns j (List.mem_cons_of_mem _ hj)
    -- cut the merged rest to its front as well, where the induction hypothesis applies
    rw [List.flatMap_cons, List.flatMap_cons, mergeSort_append htrans htotal hrun,
      mergeSort_append htrans htotal (hrun.sublist (List.take_sublist w _)),
      ← take_merge (Nat.le_refl n) (Nat.le_refl n), hrest, List.take_take, Nat.min_eq_left hw,
      take_merge (Nat.le_refl n) (Nat.le_refl n)]

end

end WorkspaceSearch.Merging
