import WorkspaceSearch.Proofs.Search.Merging
import WorkspaceSearch.Search.Service

/-!
# The order of results

Decimals are compared by value, so results are ordered by a total preorder whatever they are sorted by.
-/

namespace WorkspaceSearch

namespace Decimal

/-- A decimal in units of a smaller power of ten has the same value. -/
private theorem units_mul (d : Decimal) {exponent : Int} (h : exponent ≤ d.exponent) :
    (d.units exponent : Rat) * 10 ^ exponent = d.toRat := by
  have hpow : (10 : Rat) ^ (d.exponent - exponent).toNat * 10 ^ exponent = 10 ^ d.exponent := by
    rw [← Rat.zpow_natCast, ← Rat.zpow_add (by decide)]
    congr 1
    omega
  have hshift : ((d.digits * 10 ^ (d.exponent - exponent).toNat : Nat) : Rat) * 10 ^ exponent = d.magnitude := by
    push_cast
    rw [Rat.mul_assoc, hpow, magnitude]
  unfold units toRat
  cases d.negative
  · simp only [Bool.false_eq_true, if_false, Rat.intCast_natCast]
    exact hshift
  · simp only [if_true, Rat.intCast_neg, Rat.intCast_natCast, Rat.neg_mul]
    rw [hshift]

/-- Decimals are compared by value. -/
theorem le_iff {a b : Decimal} : a.le b = true ↔ a.toRat ≤ b.toRat := by
  have hpos : (0 : Rat) < 10 ^ min a.exponent b.exponent := Rat.zpow_pos (by decide)
  rw [← units_mul a (Int.min_le_left a.exponent b.exponent), ← units_mul b (Int.min_le_right a.exponent b.exponent),
    le, decide_eq_true_iff, ← Rat.intCast_le_intCast]
  exact ⟨fun h => Rat.mul_le_mul_of_nonneg_right h (Rat.le_of_lt hpos),
    fun h => Rat.le_of_mul_le_mul_right h hpos⟩

private theorem le_total (a b : Decimal) : a.le b = true ∨ b.le a = true := by
  simp only [le_iff]
  exact Rat.le_total

private theorem le_trans {a b c : Decimal} (h : a.le b = true) (h' : b.le c = true) : a.le c = true := by
  rw [le_iff] at *
  exact Rat.le_trans h h'

end Decimal

namespace SearchService

theorem inOrder_total (sortBy : SortBy) (sortOrder : SortOrder) (a b : SearchResult) :
    (inOrder sortBy sortOrder a b || inOrder sortBy sortOrder b a) = true := by
  rw [Bool.or_eq_true]
  cases sortBy with
  | relevance => exact Decimal.le_total b.score a.score
  | date =>
    cases sortOrder <;> simp only [inOrder, decide_eq_true_iff]
    · exact Instant.le_total a.timestamp b.timestamp
    · exact Instant.le_total b.timestamp a.timestamp

theorem inOrder_trans (sortBy : SortBy) (sortOrder : SortOrder) (a b c : SearchResult)
    (h : inOrder sortBy sortOrder a b = true) (h' : inOrder sortBy sortOrder b c = true) :
    inOrder sortBy sortOrder a c = true := by
  cases sortBy with
  | relevance => exact Decimal.le_trans h' h
  | date =>
    cases sortOrder <;> simp only [inOrder, decide_eq_true_iff] at *
    · exact Instant.le_trans h h'
    · exact Instant.le_trans h' h

theorem sortResults_eq_insertionSort (sortBy : SortBy) (sortOrder : SortOrder) (rs : List SearchResult) :
    sortResults sortBy sortOrder rs = rs.insertionSort (inOrder sortBy sortOrder · ·) :=
  Merging.mergeSort_eq_insertionSort (inOrder_trans sortBy sortOrder) (inOrder_total sortBy sortOrder) rs

end SearchService

end WorkspaceSearch
