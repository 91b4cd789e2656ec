/-!
# Machine integers

Arithmetic on the integers of a machine, of 32 and of 64 bits.  A sum that leaves their range is cut off at its end
(`addSaturating`), or it is no sum at all (`add?`); a difference is cut off at zero (`subSaturating`).  Beside each
operation stands the number that it comes to.
-/

namespace WorkspaceSearch.Machine

/-- The sum, cut off at the end of the range that it leaves.  A sum that has left the range comes round at the other
end, on the wrong side of its first summand. -/
def addSaturating (a b : Int64) : Int64 :=
  if 0 ≤ b then (if a + b < a then Int64.maxValue else a + b)
  else (if a < a + b then Int64.minValue else a + b)

theorem toInt_addSaturating (a b : Int64) : (addSaturating a b).toInt =
    max Int64.minValue.toInt (min (a.toInt + b.toInt) Int64.maxValue.toInt) := by
  have hmin : Int64.minValue.toInt = -9223372036854775808 := rfl
  have hmax : Int64.maxValue.toInt = 9223372036854775807 := rfl
  have hzero : (0 : Int64).toInt = 0 := rfl
  have ha := a.toInt_le
  have hb := b.toInt_le
  have ha' := a.minValue_le_toInt
  have hb' := b.minValue_le_toInt
  have hsum : (a + b).toInt = (a.toInt + b.toInt).bmod 18446744073709551616 := Int64.toInt_add a b
  rw [Int.bmod_def] at hsum
  unfold addSaturating
  simp only [Int64.le_iff_toInt_le, Int64.lt_iff_toInt_lt, hzero]
  split <;> split <;> omega

/-- The same number in 32 bits without a sign, if it has a place there. -/
def natural32? (a : Int64) : Option UInt32 := if 0 ≤ a ∧ a ≤ 4294967295 then some a.toUInt64.toUInt32 else none

theorem toNat_toUInt64 {a : Int64} (h : 0 ≤ a.toInt) : a.toUInt64.toNat = a.toInt.toNat :=
  Int64.toNat_toUInt64_of_le (Int64.le_iff_toInt_le.2 h)

/-- A number that has no place in 32 bits gives way to the largest one that has. -/
theorem toNat_getD_natural32? {a : Int64} (h : 0 ≤ a.toInt) :
    ((natural32? a).getD 4294967295).toNat = min a.toInt.toNat 4294967295 := by
  have hzero : (0 : Int64).toInt = 0 := rfl
  have hlargest : (4294967295 : Int64).toInt = 4294967295 := rfl
  simp only [natural32?, Int64.le_iff_toInt_le, hzero, hlargest]
  split
  · next hplace =>
    rw [Option.getD_some, UInt64.toNat_toUInt32, toNat_toUInt64 h]
    omega
  · next hplace =>
    rw [Option.getD_none]
    show 4294967295 = _
    omega

/-- The sum, unless it leaves the range. -/
def add? (a b : UInt64) : Option UInt64 := if a + b < a then none else some (a + b)

theorem add?_eq_none_iff {a b : UInt64} : add? a b = none ↔ UInt64.size ≤ a.toNat + b.toNat := by
  have hsize : UInt64.size = 18446744073709551616 := rfl
  have ha := a.toNat_lt_size
  have hb := b.toNat_lt_size
  simp only [add?, UInt64.lt_iff_toNat_lt, UInt64.toNat_add, ite_eq_left_iff, reduceCtorEq, imp_false,
    Decidable.not_not]
  omega

theorem toNat_of_add? {a b c : UInt64} (h : add? a b = some c) : c.toNat = a.toNat + b.toNat := by
  have hroom : ¬UInt64.size ≤ a.toNat + b.toNat := by
    rw [← add?_eq_none_iff, h]
    exact Option.some_ne_none c
  have hsize : UInt64.size = 18446744073709551616 := rfl
  rw [add?] at h
  split at h
  · cases h
  · obtain rfl := Option.some.inj h
    rw [UInt64.toNat_add]
    omega

/-- The difference, cut off at zero. -/
def subSaturating (a b : UInt64) : UInt64 := if a < b then 0 else a - b

theorem toNat_subSaturating (a b : UInt64) : (subSaturating a b).toNat = a.toNat - b.toNat := by
  simp only [subSaturating, UInt64.lt_iff_toNat_lt]
  split
  · next hlt =>
    show 0 = _
    omega
  · next hle => exact UInt64.toNat_sub_of_le _ _ (UInt64.le_iff_toNat_le.2 (Nat.not_lt.1 hle))

theorem toNat_min (a b : UInt64) : (min a b).toNat = min a.toNat b.toNat := by
  rw [Nat.min_def]
  show (if a ≤ b then a else b).toNat = _
  simp only [UInt64.le_iff_toNat_le]
  split <;> rfl

theorem toNat_max (a b : UInt32) : (max a b).toNat = max a.toNat b.toNat := by
  rw [Nat.max_def]
  show (if a ≤ b then b else a).toNat = _
  simp only [UInt32.le_iff_toNat_le]
  split <;> rfl

end WorkspaceSearch.Machine
