import Mathlib.Logic.Basic
import WorkspaceSearch.Proofs.Text.Digits

/-!
# Numerals of a range

A text is read as a number exactly when it is a numeral of that number and the range has it (`Numeral.read_eq_ok_iff`):
digits lead away from zero, so a number whose numeral has a front out of range is out of range itself.

The decimal text of a number of the range is a numeral of it (`Numeral.isNumeral_toString`).
-/

namespace WorkspaceSearch.Numeral

-- the powers of the core library, whatever else is in scope
attribute [local instance (2000)] instPowNat

/-- A numeral of a number: one or more digits, leading zeros among them, and a sign or none.  Only a range with negative
numbers has a minus sign. -/
def IsNumeral (range : Range) (text : String) (n : Int) : Prop :=
  ∃ ds, ds ≠ [] ∧ (∀ c ∈ ds, isDigit c = true) ∧
    ((text.toList = ds ∨ text.toList = '+' :: ds) ∧ n = value 0 ds ∨
      range.low < 0 ∧ text.toList = '-' :: ds ∧ n = -value 0 ds)

/-! ### Digits -/

/-- The number with a sign. -/
private def signed (negative : Bool) (n : Nat) : Int := if negative then -n else n

private theorem step_signed (negative : Bool) (n d : Nat) :
    step negative (signed negative n) d = signed negative (n * 10 + d) := by
  cases negative <;> simp [step, signed]
  omega

private theorem le_value (n : Nat) (cs : List Char) : n ≤ value n cs := by
  induction cs generalizing n with
  | nil => exact Nat.le_refl n
  | cons c cs ih =>
    have hstep : value n (c :: cs) = value (n * 10 + (digit? c).getD 0) cs := rfl
    have hrest := ih (n * 10 + (digit? c).getD 0)
    omega

/-- A range that has a number has the numbers between it and zero. -/
private theorem holds_of_le {range : Range} {negative : Bool} {m n : Nat} (h : range.holds (signed negative n) = true)
    (hle : m ≤ n) : range.holds (signed negative m) = true := by
  have hlow := range.low_le
  have hhigh := range.le_high
  simp only [Range.holds, Bool.and_eq_true, decide_eq_true_eq] at h ⊢
  cases negative <;> simp only [signed, Bool.false_eq_true, if_true, if_false] at h ⊢ <;> omega

/-- The digits that are left are read when they are digits and the range has the number they lead to. -/
private theorem readDigits_eq_ok_iff {range : Range} {negative : Bool} {soFar : Nat} {cs : List Char} {n : Int}
    (h : range.holds (signed negative soFar) = true) :
    readDigits range negative (signed negative soFar) cs = .ok n ↔
      (∀ c ∈ cs, isDigit c = true) ∧ n = signed negative (value soFar cs) ∧ range.holds n = true := by
  induction cs generalizing soFar with
  | nil =>
    simp only [readDigits, Except.ok.injEq, value, List.foldl_nil]
    constructor
    · rintro rfl
      exact ⟨by simp, rfl, h⟩
    · rintro ⟨-, rfl, -⟩
      rfl
  | cons c cs ih =>
    cases hdigit : digit? c with
    | none =>
      have hc : isDigit c = false := by rw [isDigit, hdigit]; rfl
      simp [readDigits, hdigit, hc]
    | some d =>
      have hc : isDigit c = true := by rw [isDigit, hdigit]; rfl
      have hvalue : value soFar (c :: cs) = value (soFar * 10 + d) cs := by
        rw [value, List.foldl_cons, hdigit]
        rfl
      simp only [readDigits, hdigit, step_signed, List.forall_mem_cons, hc, true_and, hvalue]
      by_cases hholds : range.holds (signed negative (soFar * 10 + d)) = true
      · rw [← ih hholds]
        simp only [Range.holds, Bool.and_eq_true, decide_eq_true_eq] at hholds
        rw [if_neg (by omega), if_neg (by omega)]
      · -- the number is out of range already, and the digits behind it lead further away
        have hout : ¬((∀ c ∈ cs, isDigit c = true) ∧ n = signed negative (value (soFar * 10 + d) cs) ∧
            range.holds n = true) := by
          rintro ⟨-, rfl, hin⟩
          exact hholds (holds_of_le hin (le_value _ _))
        rw [iff_false_right hout]
        simp only [Range.holds, Bool.and_eq_true, decide_eq_true_eq, not_and_or] at hholds
        split
        · simp
        · rw [if_pos (by omega)]
          simp

/-! ### Numerals -/

section

variable {range : Range} {text : String} {ds : List Char} (hds : ∀ c ∈ ds, isDigit c = true) (hne : ds ≠ [])

include hne

private theorem read_plus (h : text.toList = '+' :: ds) : read range text = readDigits range false 0 ds := by
  obtain ⟨d, rest, rfl⟩ := List.exists_cons_of_ne_nil hne
  rw [read, h]
  rfl

private theorem read_minus (h : text.toList = '-' :: ds) :
    read range text = if range.low < 0 then readDigits range true 0 ds else .error .notDigit := by
  obtain ⟨d, rest, rfl⟩ := List.exists_cons_of_ne_nil hne
  rw [read, h]
  rfl

include hds

private theorem read_unsigned (h : text.toList = ds) : read range text = readDigits range false 0 ds := by
  obtain ⟨d, rest, rfl⟩ := List.exists_cons_of_ne_nil hne
  have hd : isDigit d = true := hds d List.mem_cons_self
  have hplus : d ≠ '+' := by rintro rfl; cases hd
  have hminus : d ≠ '-' := by rintro rfl; cases hd
  rw [read, h]
  split <;> simp_all

end

/-- What is read is a number of the range, and the text a numeral of it. -/
theorem read_eq_ok_iff {range : Range} {text : String} {n : Int} :
    read range text = .ok n ↔ IsNumeral range text n ∧ range.holds n = true := by
  have hzero : ∀ negative, range.holds (signed negative 0) = true := by
    intro negative
    cases negative <;> exact range.holds_zero
  -- the accumulator starts at zero, which every range holds
  have hdigits : ∀ negative cs, readDigits range negative 0 cs = .ok n ↔
      (∀ c ∈ cs, isDigit c = true) ∧ n = signed negative (value 0 cs) ∧ range.holds n = true := by
    intro negative cs
    rw [← readDigits_eq_ok_iff (hzero negative)]
    cases negative <;> rfl
  constructor
  · intro h
    simp only [read] at h
    split at h
    · cases h
    · cases h
    · cases h
    · next rest hrest heq =>
      obtain ⟨hall, hvalue, hin⟩ := (hdigits false rest).1 h
      exact ⟨⟨rest, hrest, hall, .inl ⟨.inr heq, hvalue⟩⟩, hin⟩
    · next rest hrest heq =>
      split at h
      · next hlow =>
        obtain ⟨hall, hvalue, hin⟩ := (hdigits true rest).1 h
        exact ⟨⟨rest, hrest, hall, .inr ⟨hlow, heq, hvalue⟩⟩, hin⟩
      · cases h
    · next hnil _ _ _ _ =>
      obtain ⟨hall, hvalue, hin⟩ := (hdigits false text.toList).1 h
      exact ⟨⟨text.toList, hnil, hall, .inl ⟨.inl rfl, hvalue⟩⟩, hin⟩
  · rintro ⟨⟨ds, hne, hall, ⟨htext | htext, hvalue⟩ | ⟨hlow, htext, hvalue⟩⟩, hin⟩
    · rw [read_unsigned hall hne htext]
      exact (hdigits false ds).2 ⟨hall, hvalue, hin⟩
    · rw [read_plus hne htext]
      exact (hdigits false ds).2 ⟨hall, hvalue, hin⟩
    · rw [read_minus hne htext, if_pos hlow]
      exact (hdigits true ds).2 ⟨hall, hvalue, hin⟩

/-- A numeral of a number of the range is read as that number, and nothing else is. -/
theorem readBounded_eq_ok_iff {range : Range} {text : String} {n : Bounded range} :
    readBounded range text = .ok n ↔ IsNumeral range text n.val := by
  have hread : read range text = .ok n.val ↔ IsNumeral range text n.val := by
    rw [read_eq_ok_iff, and_iff_left n.isIn]
  rw [← hread, readBounded]
  split
  · next m heq =>
    constructor
    · intro h
      rw [← Except.ok.inj h]
      exact heq
    · intro h
      obtain ⟨n, hn⟩ := n
      obtain rfl : m = n := Except.ok.inj (heq.symm.trans h)
      rfl
  · next fault heq =>
    constructor
    · exact nofun
    · intro h
      cases heq.symm.trans h

/-! ### Decimal texts -/

theorem render_eq_toString (n : Int) : render n = toString n := by
  cases n with
  | ofNat n => rfl
  | negSucc n =>
    have htext : toString (Int.negSucc n) = "-" ++ String.ofList (digits (n + 1)) := rfl
    rw [htext, render, ← String.toList_inj, String.toList_append]
    simp

/-- The decimal text of a number of a range is a numeral of it. -/
theorem isNumeral_toString {range : Range} (n : Bounded range) : IsNumeral range (toString n.val) n.val := by
  obtain ⟨n, hin⟩ := n
  have hdigits : ∀ m, digits m ≠ [] ∧ ∀ c ∈ digits m, isDigit c = true := by
    intro m
    obtain ⟨d, ds, hm, -⟩ := exists_digits m
    exact ⟨by simp [hm], fun c => isDigit_of_mem_digits⟩
  rw [← render_eq_toString]
  cases n with
  | ofNat m =>
    refine ⟨digits m, (hdigits m).1, (hdigits m).2, .inl ⟨.inl ?_, ?_⟩⟩
    · simp [render]
    · simp [value_digits]
  | negSucc m =>
    simp only [Range.holds, Bool.and_eq_true, decide_eq_true_eq] at hin
    refine ⟨digits (m + 1), (hdigits (m + 1)).1, (hdigits (m + 1)).2, .inr ⟨by omega, ?_, ?_⟩⟩
    · simp [render]
    · rw [value_digits]
      rfl

end WorkspaceSearch.Numeral
