import WorkspaceSearch.Text.Numeral

/-!
# Digits of numerals

A numeral reads back as its number (`Numeral.value_digits`), and it starts with zero only as the numeral of zero
(`Numeral.digits_eq_zero_cons`).

A numeral that is padded with zeros up to a width has as many digits as the width says, and it reads back as its number
(`Numeral.value_padded`).
-/

namespace WorkspaceSearch.Numeral

-- the powers of the core library, whatever else is in scope
attribute [local instance (2000)] instPowNat

theorem hexValue?_hexDigit {n : Nat} (h : n < 16) (isUpper : Bool) : hexValue? (hexDigit isUpper n) = some n :=
  (by decide : ∀ isUpper, ∀ n : Fin 16, hexValue? (hexDigit isUpper n) = some n.val) isUpper ⟨n, h⟩

private theorem isDigit_eq (c : Char) : isDigit c = c.isDigit := by
  have hrange : ('0' ≤ c && c ≤ '9') = c.isDigit := rfl
  rw [isDigit, digit?, hrange]
  cases c.isDigit <;> rfl

/-- A digit is told by its character code. -/
theorem digit?_of_isDigit {c : Char} (h : isDigit c = true) : digit? c = some (c.toNat - 48) := by
  unfold isDigit at h
  unfold digit? at h ⊢
  split at h
  · next hrange => rw [if_pos hrange]
  · cases h

theorem toNat_of_isDigit {c : Char} (h : isDigit c = true) : 48 ≤ c.toNat ∧ c.toNat ≤ 57 := by
  rw [isDigit_eq] at h
  exact Char.isDigit_iff_toNat.1 h

theorem value_eq_ofDigitChars {cs : List Char} (h : ∀ c ∈ cs, isDigit c = true) (start : Nat) :
    value start cs = Nat.ofDigitChars 10 cs start := by
  induction cs generalizing start with
  | nil => rfl
  | cons c cs ih =>
    have hcs := ih (fun d hd => h d (List.mem_cons_of_mem c hd)) (start * 10 + (digit? c).getD 0)
    have hc : (digit? c).getD 0 = c.toNat - '0'.toNat := by
      rw [digit?_of_isDigit (h c List.mem_cons_self)]
      rfl
    rw [Nat.ofDigitChars_cons, Nat.mul_comm 10, ← hc, ← hcs]
    rfl

theorem isDigit_of_mem_digits {n : Nat} {c : Char} (h : c ∈ digits n) : isDigit c = true := by
  rw [isDigit_eq]
  exact Nat.isDigit_of_mem_toDigits (by decide) (by decide) h

theorem value_digits (n : Nat) : value 0 (digits n) = n := by
  rw [value_eq_ofDigitChars fun c hc => isDigit_of_mem_digits hc]
  exact Nat.ofDigitChars_ten_toDigits

/-- A numeral starts with a digit. -/
theorem exists_digits (n : Nat) : ∃ d ds, digits n = d :: ds ∧ isDigit d = true := by
  cases hdigits : digits n with
  | nil => exact absurd hdigits Nat.toDigits_ne_nil
  | cons d ds => exact ⟨d, ds, rfl, isDigit_of_mem_digits (hdigits ▸ List.mem_cons_self)⟩

/-- A numeral that starts with zero has no other digit. -/
theorem digits_eq_zero_cons {n : Nat} {cs : List Char} (h : digits n = '0' :: cs) : cs = [] := by
  induction n using Nat.strongRecOn generalizing cs with
  | ind n ih =>
    rw [digits, Nat.toDigits_eq_if (by decide)] at h
    split at h
    · exact (List.cons.inj h).2.symm
    · next hlarge =>
      obtain ⟨d, ds, hdigits, -⟩ := exists_digits (n / 10)
      rw [show Nat.toDigits 10 (n / 10) = d :: ds from hdigits] at h
      obtain ⟨rfl, -⟩ := List.cons.inj h
      -- the digits in front of the last one are those of a smaller number, and that is zero
      obtain rfl := ih (n / 10) (by omega) hdigits
      have hzero : 0 = n / 10 := by
        rw [← value_digits (n / 10), hdigits]
        rfl
      omega

variable {width n : Nat}

theorem isDigit_of_mem_padded {c : Char} (h : c ∈ padded width n) : isDigit c = true := by
  rw [isDigit_eq]
  rcases List.mem_append.1 h with hzero | hdigit
  · rw [(List.mem_replicate.1 hzero).2]
    rfl
  · exact Nat.isDigit_of_mem_toDigits (by decide) (by decide) hdigit

theorem length_padded (hwidth : 0 < width) (h : n < 10 ^ width) : (padded width n).length = width := by
  have hle : (digits n).length ≤ width := (Nat.length_toDigits_le_iff (by decide) hwidth).2 h
  rw [padded, List.length_append, List.length_replicate]
  omega

/-- A padded numeral starts with a digit. -/
theorem exists_padded (hwidth : 0 < width) (h : n < 10 ^ width) :
    ∃ c cs, padded width n = c :: cs ∧ isDigit c = true := by
  have hlength := length_padded hwidth h
  cases hpadded : padded width n with
  | nil =>
    rw [hpadded] at hlength
    exact absurd hlength (Nat.ne_of_lt hwidth)
  | cons c cs => exact ⟨c, cs, rfl, isDigit_of_mem_padded (hpadded ▸ List.mem_cons_self)⟩

theorem padded_ne_nil (hwidth : 0 < width) (h : n < 10 ^ width) : padded width n ≠ [] := by
  obtain ⟨c, cs, hpadded, -⟩ := exists_padded hwidth h
  rw [hpadded]
  exact List.cons_ne_nil c cs

theorem value_padded (width n : Nat) : value 0 (padded width n) = n := by
  rw [value_eq_ofDigitChars (fun c hc => isDigit_of_mem_padded hc), padded, Nat.ofDigitChars_append,
    Nat.ofDigitChars_replicate_zero, Nat.mul_zero]
  exact Nat.ofDigitChars_ten_toDigits

theorem readField_padded {width least most n : Nat} (hwidth : 0 < width) (hn : n < 10 ^ width)
    (hleast : least ≤ n) (hmost : n ≤ most) (rest : List Char) :
    readField width least most (padded width n ++ rest) = some (n, rest) := by
  have hlength := length_padded hwidth hn
  have htake : (padded width n ++ rest).take width = padded width n := List.take_left' hlength
  have hdrop : (padded width n ++ rest).drop width = rest := List.drop_left' hlength
  have hdigits : (padded width n).all isDigit = true :=
    List.all_eq_true.2 fun c hc => isDigit_of_mem_padded hc
  simp only [readField, htake, hdrop, value_padded]
  rw [if_pos ⟨hlength, hdigits, hleast, hmost⟩]

end WorkspaceSearch.Numeral
