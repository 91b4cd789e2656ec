import WorkspaceSearch.Proofs.Number.Rounding
import WorkspaceSearch.Proofs.Text.Digits
import WorkspaceSearch.Time.JulianDay

/-!
# Milliseconds of seconds

The milliseconds of a second and its fraction are computed in the double precision, in several steps that each round.
Every step keeps the order, so the whole computation does (`JulianDay.millisOf_mono`), and it stays between the
milliseconds of the second and those of the next one (`JulianDay.le_millisOf`, `JulianDay.millisOf_le`).
-/

namespace WorkspaceSearch.JulianDay

-- the powers of the core library, whatever else is in scope
attribute [local instance (2000)] instPowNat Rat.instPowNat Rat.instPowInt

/-! ### The double precision -/

private theorem double_mono {x y : Rat} (hx : 0 ≤ x) (h : x ≤ y) : double x ≤ double y :=
  Precision.round_mono (by decide) hx h

private theorem double_nonneg {x : Rat} (hx : 0 ≤ x) : 0 ≤ double x := Precision.round_nonneg hx

private theorem double_natCast {m : Nat} (h : m < 2 ^ 53) : double m = m := by
  have hround := Precision.round_eq_self (p := Precision.double) (m := m) (e := 0) h (by decide)
  rwa [Rat.zpow_zero, Rat.mul_one] at hround

private theorem double_half {m : Nat} (h : m < 2 ^ 52) : double (m + 1 / 2) = m + 1 / 2 := by
  have hround := Precision.round_eq_self (p := Precision.double) (m := 2 * m + 1) (e := -1)
    (by show 2 * m + 1 < 2 ^ 53; omega) (by decide)
  have hvalue : ((2 * m + 1 : Nat) : Rat) * 2 ^ (-1 : Int) = m + 1 / 2 := by
    rw [Rat.zpow_neg, Rat.zpow_one]
    push_cast
    linarith
  rwa [hvalue] at hround

/-! ### Fractions -/

/-- The milliseconds of a second and a fraction of it. -/
def millisOf (second : Nat) (fraction : Rat) : Int := roundUp (double (double (second + double fraction) * 1000))

private theorem appendDigit_eq {n : Nat} {c : Char} (hn : n < 10 ^ 14) (hc : Numeral.isDigit c = true) :
    appendDigit n c = ((n * 10 + (Numeral.digit? c).getD 0 : Nat) : Rat) := by
  obtain ⟨hlow, hhigh⟩ := Numeral.toNat_of_isDigit hc
  have htimes : double (n * 10) = ((n * 10 : Nat) : Rat) := by
    have hexact : double ((n * 10 : Nat) : Rat) = ((n * 10 : Nat) : Rat) := double_natCast (by omega)
    push_cast at hexact ⊢
    exact hexact
  have hplus : double (((n * 10 : Nat) : Rat) + c.toNat) = ((n * 10 + c.toNat : Nat) : Rat) := by
    rw [← Rat.natCast_add]
    exact double_natCast (by omega)
  have hminus : ((n * 10 + c.toNat : Nat) : Rat) - 48 = ((n * 10 + (c.toNat - 48) : Nat) : Rat) := by
    obtain ⟨d, hd⟩ : ∃ d, c.toNat = d + 48 := ⟨c.toNat - 48, by omega⟩
    rw [hd, Nat.add_sub_cancel]
    push_cast
    linarith
  rw [appendDigit, htimes, hplus, hminus, Numeral.digit?_of_isDigit hc]
  exact double_natCast (by omega)

private theorem foldl_scale {ds : List Char} {k : Nat} (h : k + ds.length ≤ 15) :
    ds.foldl (fun scale _ => double (scale * 10)) ((10 ^ k : Nat) : Rat) = ((10 ^ (k + ds.length) : Nat) : Rat) := by
  induction ds generalizing k with
  | nil => rfl
  | cons c ds ih =>
    rw [List.length_cons] at h
    have hpow : 10 ^ (k + 1) ≤ 10 ^ 15 := Nat.pow_le_pow_right (by decide) (by omega)
    have hscale : double (((10 ^ k : Nat) : Rat) * 10) = ((10 ^ (k + 1) : Nat) : Rat) := by
      have hexact : double ((10 ^ (k + 1) : Nat) : Rat) = ((10 ^ (k + 1) : Nat) : Rat) := double_natCast (by omega)
      rw [Nat.pow_succ] at hexact ⊢
      push_cast at hexact ⊢
      exact hexact
    rw [List.foldl_cons, hscale, ih (by omega), List.length_cons, Nat.add_right_comm, Nat.add_assoc]

private theorem foldl_appendDigit {ds : List Char} (hds : ∀ c ∈ ds, Numeral.isDigit c = true) {n k : Nat}
    (hn : n < 10 ^ k) (h : k + ds.length ≤ 15) : ds.foldl appendDigit (n : Rat) = Numeral.value n ds := by
  induction ds generalizing n k with
  | nil => rfl
  | cons c ds ih =>
    rw [List.length_cons] at h
    have hc := hds c List.mem_cons_self
    have hpow : 10 ^ k ≤ 10 ^ 14 := Nat.pow_le_pow_right (by decide) (by omega)
    have hnext : n * 10 + (Numeral.digit? c).getD 0 < 10 ^ (k + 1) := by
      obtain ⟨hlow, hhigh⟩ := Numeral.toNat_of_isDigit hc
      rw [Numeral.digit?_of_isDigit hc, Option.getD_some, Nat.pow_succ]
      omega
    rw [List.foldl_cons, appendDigit_eq (by omega) hc,
      ih (fun d hd => hds d (List.mem_cons_of_mem c hd)) hnext (by omega)]
    rfl

/-- Up to fifteen digits are gathered exactly, and only their quotient is rounded. -/
private theorem fractionOf_eq {ds : List Char} (hds : ∀ c ∈ ds, Numeral.isDigit c = true) (hlength : ds.length ≤ 15) :
    fractionOf ds = double (Numeral.value 0 ds / (10 ^ ds.length : Nat)) := by
  have hscale := foldl_scale (k := 0) (by omega : 0 + ds.length ≤ 15)
  have hvalue := foldl_appendDigit hds (n := 0) (k := 0) (by decide) (by omega)
  rw [Nat.zero_add] at hscale
  rw [← hscale, ← hvalue]
  rfl

theorem roundMillis_eq {second : Nat} {ds : List Char} (hds : ∀ c ∈ ds, Numeral.isDigit c = true)
    (hlength : ds.length ≤ 15) :
    roundMillis second ds = millisOf second (Numeral.value 0 ds / (10 ^ ds.length : Nat)) := by
  rw [roundMillis, fractionOf_eq hds hlength]
  rfl

/-! ### The order of milliseconds -/

private theorem truncate_eq_floor {x : Rat} (hx : 0 ≤ x) : truncate x = x.floor := by
  rw [truncate, Int.tdiv_eq_ediv_of_nonneg (Rat.num_nonneg.2 hx), Rat.floor_def]

private theorem roundUp_mono {x y : Rat} (hx : 0 ≤ x) (h : x ≤ y) : roundUp x ≤ roundUp y := by
  have hx' : (0 : Rat) ≤ x + 1 / 2 := by linarith
  have hle : double (x + 1 / 2) ≤ double (y + 1 / 2) := double_mono hx' (by linarith)
  rw [roundUp, roundUp, truncate_eq_floor (double_nonneg hx'), truncate_eq_floor (double_nonneg (by linarith))]
  exact Rat.floor_monotone hle

/-- Every step of the computation keeps the order. -/
theorem millisOf_mono (second : Nat) {x y : Rat} (hx : 0 ≤ x) (h : x ≤ y) : millisOf second x ≤ millisOf second y := by
  have hsecond : (0 : Rat) ≤ second := by positivity
  have hfraction : double x ≤ double y := double_mono hx h
  have hx' : 0 ≤ double x := double_nonneg hx
  have hsum : double (second + double x) ≤ double (second + double y) := double_mono (by linarith) (by linarith)
  have hsum' : 0 ≤ double (second + double x) := double_nonneg (by linarith)
  exact roundUp_mono (double_nonneg (by linarith)) (double_mono (by linarith) (by linarith))

/-- Whole seconds have a thousand milliseconds each. -/
theorem millisOf_natCast {second k : Nat} (h : second + k < 2 ^ 40) :
    millisOf second k = ((second + k) * 1000 : Nat) := by
  have hfraction : double k = k := double_natCast (by omega)
  have hsum : double ((second : Rat) + k) = ((second + k : Nat) : Rat) := by
    rw [← Rat.natCast_add]
    exact double_natCast (by omega)
  have htimes : double (((second + k : Nat) : Rat) * 1000) = (((second + k) * 1000 : Nat) : Rat) := by
    have hexact : double (((second + k) * 1000 : Nat) : Rat) = (((second + k) * 1000 : Nat) : Rat) :=
      double_natCast (by omega)
    rw [Rat.natCast_mul] at hexact ⊢
    exact hexact
  rw [millisOf, hfraction, hsum, htimes, roundUp, double_half (by omega), truncate_eq_floor (by positivity)]
  generalize (second + k) * 1000 = n
  have hlow : (n : Int) ≤ ((n : Rat) + 1 / 2).floor := by
    rw [Rat.le_floor_iff]
    push_cast
    linarith
  have hhigh : ((n : Rat) + 1 / 2).floor < (n : Int) + 1 := by
    rw [Rat.floor_lt_iff]
    push_cast
    linarith
  omega

theorem le_millisOf {second : Nat} (hsecond : second < 60) {x : Rat} (hx : 0 ≤ x) :
    second * 1000 ≤ millisOf second x := by
  have hzero : millisOf second ((0 : Nat) : Rat) = ((second + 0) * 1000 : Nat) := millisOf_natCast (by omega)
  have hle : millisOf second ((0 : Nat) : Rat) ≤ millisOf second x := millisOf_mono second (by norm_num) (by simpa using hx)
  omega

theorem millisOf_le {second : Nat} (hsecond : second < 60) {x : Rat} (hx : 0 ≤ x) (hx' : x ≤ 1) :
    millisOf second x ≤ (second + 1) * 1000 := by
  have hone : millisOf second ((1 : Nat) : Rat) = ((second + 1) * 1000 : Nat) := millisOf_natCast (by omega)
  have hle : millisOf second x ≤ millisOf second ((1 : Nat) : Rat) := millisOf_mono second hx (by simpa using hx')
  omega

end WorkspaceSearch.JulianDay
