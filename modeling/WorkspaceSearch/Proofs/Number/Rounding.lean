import Mathlib.Tactic.Linarith
import WorkspaceSearch.Number.Precision

/-!
# Rounding keeps the order

Rounding to a number of binary digits keeps the order of numbers that are not negative (`Precision.round_mono`), and it
leaves alone what has no more digits than that (`Precision.round_eq_self`).
-/

namespace WorkspaceSearch.Precision

-- the powers of the core library, whatever else is in scope
attribute [local instance (2000)] instPowNat Rat.instPowNat Rat.instPowInt

/-! ### The nearest whole number -/

private theorem nearest_intCast (n : Int) : nearest n = n := by
  have hfloor : (n : Rat).floor = n := Rat.floor_intCast n
  have hzero : (n : Rat) - n < 1 / 2 := by linarith
  simp only [nearest, hfloor, if_pos hzero]

/-- The nearest whole number is the one below or the one above. -/
private theorem floor_le_nearest (x : Rat) : x.floor ≤ nearest x ∧ nearest x ≤ x.floor + 1 := by
  simp only [nearest]
  split
  · omega
  · split
    · omega
    · split <;> omega

private theorem nearest_mono {x y : Rat} (h : x ≤ y) : nearest x ≤ nearest y := by
  rcases Int.lt_or_eq_of_le (Rat.floor_monotone h) with hlt | heq
  · have hx := (floor_le_nearest x).2
    have hy := (floor_le_nearest y).1
    omega
  · -- both lie between the same whole numbers, so only the halves count
    have hsub : x - (y.floor : Rat) ≤ y - y.floor := by linarith
    simp only [nearest, heq]
    generalize x - (y.floor : Rat) = a at hsub ⊢
    generalize y - (y.floor : Rat) = b at hsub ⊢
    by_cases hb : b < 1 / 2
    · rw [if_pos (by linarith), if_pos hb]
    · by_cases hb' : 1 / 2 < b
      · rw [if_neg hb, if_pos hb']
        split
        · omega
        · split
          · omega
          · split <;> omega
      · rw [if_neg hb, if_neg hb', if_neg (by linarith : ¬1 / 2 < a)]
        split <;> split <;> omega

/-! ### The first digit -/

private theorem two_zpow_pos (n : Int) : (0 : Rat) < 2 ^ n := Rat.zpow_pos (by decide)

private theorem two_zpow_add (m n : Int) : (2 : Rat) ^ (m + n) = 2 ^ m * 2 ^ n := Rat.zpow_add (by decide) m n

private theorem two_zpow_natCast (n : Nat) : (2 : Rat) ^ (n : Int) = ((2 ^ n : Nat) : Rat) := by
  rw [Rat.zpow_natCast]
  push_cast
  rfl

private theorem two_zpow_mono {m n : Int} (h : m ≤ n) : (2 : Rat) ^ m ≤ 2 ^ n := by
  obtain ⟨k, rfl⟩ : ∃ k : Nat, n = m + k := ⟨(n - m).toNat, by omega⟩
  have hone : (1 : Rat) ≤ ((2 ^ k : Nat) : Rat) := by exact_mod_cast Nat.one_le_two_pow
  have hm := two_zpow_pos m
  rw [two_zpow_add, two_zpow_natCast]
  nlinarith

/-- A number lies between the power of its first digit and the next one. -/
private theorem leadingPower_bounds {x : Rat} (hx : 0 < x) :
    2 ^ leadingPower x ≤ x ∧ x < 2 ^ (leadingPower x + 1) := by
  have hden : (0 : Rat) < x.den := by exact_mod_cast x.den_pos
  have hnum : x * x.den = x.num.natAbs := by
    have habs : (x.num.natAbs : Int) = x.num := by have := Rat.num_pos.2 hx; omega
    rw [Rat.mul_den_eq_num, ← habs]
    rfl
  have hne : x.num.natAbs ≠ 0 := by have := Rat.num_pos.2 hx; omega
  -- numerator and denominator lie between powers of two
  have hnum_le : ((2 ^ x.num.natAbs.log2 : Nat) : Rat) ≤ x.num.natAbs := by exact_mod_cast Nat.log2_self_le hne
  have hnum_lt : (x.num.natAbs : Rat) < ((2 ^ (x.num.natAbs.log2 + 1) : Nat) : Rat) := by
    exact_mod_cast Nat.lt_log2_self
  have hden_le : ((2 ^ x.den.log2 : Nat) : Rat) ≤ x.den := by exact_mod_cast Nat.log2_self_le x.den_nz
  have hden_lt : (x.den : Rat) < ((2 ^ (x.den.log2 + 1) : Nat) : Rat) := by exact_mod_cast Nat.lt_log2_self
  simp only [leadingPower, Rat.abs_of_nonneg (Rat.le_of_lt hx)]
  generalize Nat.log2 x.num.natAbs = a at *
  generalize Nat.log2 x.den = b at *
  rw [← two_zpow_natCast] at hnum_le hnum_lt hden_le hden_lt
  push_cast at hnum_lt hden_lt
  have hbelow : (2 : Rat) ^ ((a : Int) - b - 1) ≤ x := by
    refine Rat.le_of_mul_le_mul_right (?_ : _ * (x.den : Rat) ≤ _) hden
    have hsplit : (2 : Rat) ^ ((a : Int) - b - 1) * 2 ^ ((b : Int) + 1) = 2 ^ (a : Int) := by
      rw [← two_zpow_add]
      congr 1
      omega
    have hpos := two_zpow_pos ((a : Int) - b - 1)
    nlinarith
  have habove : x < (2 : Rat) ^ ((a : Int) - b + 1) := by
    refine Rat.lt_of_mul_lt_mul_right (?_ : _ * (x.den : Rat) < _) (Rat.le_of_lt hden)
    have hsplit : (2 : Rat) ^ ((a : Int) - b + 1) * 2 ^ (b : Int) = 2 ^ ((a : Int) + 1) := by
      rw [← two_zpow_add]
      congr 1
      omega
    have hpos := two_zpow_pos ((a : Int) - b + 1)
    nlinarith
  split
  · next hlt => exact ⟨hbelow, by rwa [Int.sub_add_cancel]⟩
  · next hge => exact ⟨not_lt.1 hge, habove⟩

private theorem leadingPower_mono {x y : Rat} (hx : 0 < x) (h : x ≤ y) : leadingPower x ≤ leadingPower y := by
  obtain ⟨hx_le, -⟩ := leadingPower_bounds hx
  obtain ⟨-, hy_lt⟩ := leadingPower_bounds (lt_of_lt_of_le hx h)
  by_contra hlt
  have hpow : (2 : Rat) ^ (leadingPower y + 1) ≤ 2 ^ leadingPower x := two_zpow_mono (by omega)
  linarith

/-! ### Rounding -/

variable {p : Precision} {x y : Rat}

/-- The power of two of the last digit that a number keeps. -/
private def lastPower (p : Precision) (x : Rat) : Int := max (leadingPower x - (p.digits - 1)) p.leastPower

private theorem round_of_pos (hx : 0 < x) : p.round x = nearest (x / 2 ^ p.lastPower x) * 2 ^ p.lastPower x := by
  have hne : x ≠ 0 := by rintro rfl; exact absurd hx (by decide)
  simp only [round, if_neg hne]
  rfl

/-- A number that is a multiple of the last digit of another bounds its rounding. -/
private theorem round_le_of_le {k : Int} (hx : 0 < x) (h : x ≤ k * 2 ^ p.lastPower x) :
    p.round x ≤ k * 2 ^ p.lastPower x := by
  have hpow := two_zpow_pos (p.lastPower x)
  have hnearest := nearest_mono ((div_le_iff₀ hpow).2 h)
  rw [nearest_intCast] at hnearest
  rw [round_of_pos hx]
  exact Rat.mul_le_mul_of_nonneg_right (by exact_mod_cast hnearest) (Rat.le_of_lt hpow)

private theorem le_round_of_le {k : Int} (hx : 0 < x) (h : k * 2 ^ p.lastPower x ≤ x) :
    k * 2 ^ p.lastPower x ≤ p.round x := by
  have hpow := two_zpow_pos (p.lastPower x)
  have hnearest := nearest_mono ((le_div_iff₀ hpow).2 h)
  rw [nearest_intCast] at hnearest
  rw [round_of_pos hx]
  exact Rat.mul_le_mul_of_nonneg_right (by exact_mod_cast hnearest) (Rat.le_of_lt hpow)

private theorem exists_multiple (m : Nat) {e n : Int} (h : e ≤ n) : ∃ k : Int, (m : Rat) * 2 ^ n = k * 2 ^ e := by
  obtain ⟨j, rfl⟩ : ∃ j : Nat, n = e + j := ⟨(n - e).toNat, by omega⟩
  refine ⟨(m * 2 ^ j : Nat), ?_⟩
  rw [two_zpow_add, two_zpow_natCast]
  push_cast
  rw [Rat.mul_comm (2 ^ e), Rat.mul_assoc]

theorem round_nonneg (hx : 0 ≤ x) : 0 ≤ p.round x := by
  rcases lt_or_eq_of_le hx with hpos | rfl
  · have hround := le_round_of_le (k := 0) (p := p) hpos (by simpa using hx)
    simpa using hround
  · simp [round]

/-- Rounding keeps the order of numbers that are not negative. -/
theorem round_mono (hdigits : 0 < p.digits) (hx : 0 ≤ x) (h : x ≤ y) : p.round x ≤ p.round y := by
  rcases lt_or_eq_of_le hx with hpos | rfl
  · have hlead := leadingPower_mono hpos h
    have hy : 0 < y := lt_of_lt_of_le hpos h
    have hlast : p.lastPower x ≤ p.lastPower y := by
      unfold lastPower
      omega
    rcases Int.lt_or_eq_of_le hlast with hlt | heq
    · -- the power of two at the first digit of the larger number lies between them
      obtain ⟨-, hxlt⟩ := leadingPower_bounds hpos
      obtain ⟨hyle, -⟩ := leadingPower_bounds hy
      unfold lastPower at hlt
      have hpow : (2 : Rat) ^ (leadingPower x + 1) ≤ 2 ^ leadingPower y := two_zpow_mono (by omega)
      obtain ⟨k, hk⟩ := exists_multiple 1 (n := leadingPower y) (e := p.lastPower x) (by unfold lastPower; omega)
      obtain ⟨l, hl⟩ := exists_multiple 1 (n := leadingPower y) (e := p.lastPower y) (by unfold lastPower; omega)
      have hxround := round_le_of_le (p := p) (k := k) hpos (by push_cast at hk; linarith)
      have hyround := le_round_of_le (p := p) (k := l) hy (by push_cast at hl; linarith)
      linarith
    · have hpow := two_zpow_pos (p.lastPower y)
      have hquot : x / 2 ^ p.lastPower y ≤ y / 2 ^ p.lastPower y := by gcongr
      rw [round_of_pos hpos, round_of_pos hy, heq]
      exact Rat.mul_le_mul_of_nonneg_right (by exact_mod_cast nearest_mono hquot) (Rat.le_of_lt hpow)
  · have hzero : p.round 0 = 0 := by simp [round]
    rw [hzero]
    exact round_nonneg h

/-- A number with no more digits than the precision is left alone. -/
theorem round_eq_self {m : Nat} {e : Int} (hm : m < 2 ^ p.digits) (he : p.leastPower ≤ e) :
    p.round (m * 2 ^ e) = m * 2 ^ e := by
  rcases Nat.eq_zero_or_pos m with rfl | hpos
  · simp [round]
  · have hx : (0 : Rat) < m * 2 ^ e := Rat.mul_pos (by exact_mod_cast hpos) (two_zpow_pos e)
    obtain ⟨hle, -⟩ := leadingPower_bounds hx
    have hlead : leadingPower (m * 2 ^ e) < p.digits + e := by
      by_contra hge
      have hpow : (2 : Rat) ^ (p.digits + e) ≤ 2 ^ leadingPower (m * 2 ^ e) := two_zpow_mono (by omega)
      have hm' : (m : Rat) < ((2 ^ p.digits : Nat) : Rat) := by exact_mod_cast hm
      rw [two_zpow_add, two_zpow_natCast] at hpow
      have hlt := Rat.mul_lt_mul_of_pos_right hm' (two_zpow_pos e)
      linarith
    obtain ⟨k, hk⟩ := exists_multiple m (n := e) (e := p.lastPower (m * 2 ^ e)) (by unfold lastPower; omega)
    refine Rat.le_antisymm ?_ ?_
    · exact le_trans (round_le_of_le (k := k) hx (le_of_eq hk)) (le_of_eq hk.symm)
    · exact le_trans (le_of_eq hk) (le_round_of_le (k := k) hx (le_of_eq hk.symm))

end WorkspaceSearch.Precision
