import WorkspaceSearch.Proofs.Text.Digits
import WorkspaceSearch.Toml.Number

/-!
# Whole numbers are read back

The digits of a number at the end of a line are no date and no time, since no mark stands between them, and no number
with a fraction or an exponent.  So they are read as the number they were written for (`readNumber_digits`).
-/

namespace WorkspaceSearch.Toml

open Numeral (hexValue? takeSign readField readMark)

variable {ds rest : List Char}

/-! ### Dates and times -/

/-- Behind a field of digits there is a further digit, or the end of the line. -/
private theorem readMark_behind_field (hds : ∀ c ∈ ds, Numeral.isDigit c = true) {width least most n : Nat}
    {behind : List Char} (h : readField width least most (ds ++ '\n' :: rest) = some (n, behind)) {mark : Char}
    (hdigit : Numeral.isDigit mark = false) (hbreak : mark ≠ '\n') : readMark mark behind = none := by
  simp only [readField, Option.ite_none_right_eq_some, Option.some.injEq, Prod.mk.injEq, List.all_eq_true] at h
  obtain ⟨⟨-, hall, -⟩, -, rfl⟩ := h
  have hwidth : width ≤ ds.length := by
    -- otherwise the line break would be among the digits of the field
    refine Nat.le_of_not_lt fun hlong => ?_
    have hmem : '\n' ∈ (ds ++ '\n' :: rest).take width := by
      rw [List.take_append, List.mem_append]
      obtain ⟨k, hk⟩ : ∃ k, width - ds.length = k + 1 := ⟨width - ds.length - 1, by omega⟩
      rw [hk, List.take_succ_cons]
      exact .inr List.mem_cons_self
    exact absurd (hall '\n' hmem) (by decide)
  rw [List.drop_append_of_le_length hwidth]
  cases hleft : ds.drop width with
  | nil => exact if_neg hbreak.symm
  | cons d left =>
    have hd : Numeral.isDigit d = true := hds d (List.mem_of_mem_drop (hleft ▸ List.mem_cons_self))
    refine if_neg ?_
    rintro rfl
    rw [hdigit] at hd
    cases hd

private theorem readDatetime_digits (hds : ∀ c ∈ ds, Numeral.isDigit c = true) :
    readDatetime (ds ++ '\n' :: rest) = none := by
  have hdate : readDate (ds ++ '\n' :: rest) = none := by
    rw [readDate]
    cases hyear : readField 4 0 9999 (ds ++ '\n' :: rest) with
    | none => rfl
    | some found =>
      have hmark : readMark '-' found.2 = none := readMark_behind_field hds hyear rfl (by decide)
      simp only [Option.bind_eq_bind, Option.bind_some, hmark, Option.bind_none]
  have htime : readTime (ds ++ '\n' :: rest) = none := by
    rw [readTime]
    cases hhour : readField 2 0 23 (ds ++ '\n' :: rest) with
    | none => rfl
    | some found =>
      have hmark : readMark ':' found.2 = none := readMark_behind_field hds hhour rfl (by decide)
      simp only [Option.bind_eq_bind, Option.bind_some, hmark, Option.bind_none]
  rw [readDatetime, hdate, htime]
  rfl

/-! ### Digits -/

private theorem readDigits_digits (hne : ds ≠ []) (hds : ∀ c ∈ ds, Numeral.isDigit c = true) :
    readDigits Numeral.digit? (ds ++ '\n' :: rest) = some (ds, '\n' :: rest) := by
  induction ds with
  | nil => exact absurd rfl hne
  | cons c ds ih =>
    have hc : ¬(Numeral.digit? c).isNone = true := by
      rw [Numeral.digit?_of_isDigit (hds c List.mem_cons_self)]
      exact Bool.false_ne_true
    have hrest : ∀ d ∈ ds, Numeral.isDigit d = true := fun d hd => hds d (List.mem_cons_of_mem c hd)
    rw [List.cons_append, readDigits, if_neg hc]
    · cases ds with
      | nil =>
        have hnone : (Numeral.digit? '\n').isNone = true := rfl
        have hend : readDigits Numeral.digit? ('\n' :: rest) = none := by
          unfold readDigits
          rw [if_pos hnone]
        rw [List.nil_append, hend]
        rfl
      | cons d ds => rw [ih (List.cons_ne_nil d ds) hrest]
    · intro rest' heq
      cases ds with
      | nil => cases heq
      | cons d ds =>
        obtain ⟨rfl, -⟩ := List.cons.inj heq
        exact absurd (hrest '_' List.mem_cons_self) (by decide)

/-- The digits of a number are read as the front of a decimal number. -/
private theorem readWhole_digits (n : Nat) :
    readWhole (Numeral.digits n ++ '\n' :: rest) = some (Numeral.digits n, '\n' :: rest) := by
  obtain ⟨d, ds, hn, hd⟩ := Numeral.exists_digits n
  have hread : readDigits Numeral.digit? (Numeral.digits n ++ '\n' :: rest) = some (Numeral.digits n, '\n' :: rest) :=
    readDigits_digits (hn ▸ List.cons_ne_nil d ds) fun c => Numeral.isDigit_of_mem_digits
  unfold readWhole
  split
  · next zeros heq =>
    rw [hn, List.cons_append] at heq
    obtain ⟨rfl, rfl⟩ := List.cons.inj heq
    rw [hn, Numeral.digits_eq_zero_cons hn]
    rfl
  · exact hread

private theorem takeSign_digits (n : Nat) :
    takeSign (Numeral.digits n ++ '\n' :: rest) = (false, Numeral.digits n ++ '\n' :: rest) := by
  obtain ⟨d, ds, hn, hd⟩ := Numeral.exists_digits n
  rw [hn, List.cons_append]
  unfold takeSign
  split
  · next heq =>
    obtain ⟨rfl, -⟩ := List.cons.inj heq
    exact absurd hd (by decide)
  · next heq =>
    obtain ⟨rfl, -⟩ := List.cons.inj heq
    exact absurd hd (by decide)
  · rfl

/-- Digits alone are no number with a fraction or an exponent. -/
private theorem readFloat_digits (n : Nat) : readFloat (Numeral.digits n ++ '\n' :: rest) = none := by
  obtain ⟨d, ds, hn, hd⟩ := Numeral.exists_digits n
  have hfraction : readFraction ('\n' :: rest) = some ([], '\n' :: rest) := rfl
  have hexponent : readExponent ('\n' :: rest) = some (none, '\n' :: rest) := rfl
  unfold readFloat
  rw [takeSign_digits]
  dsimp only
  split
  · next heq =>
    rw [hn, List.cons_append] at heq
    obtain ⟨rfl, -⟩ := List.cons.inj heq
    exact absurd hd (by decide)
  · next heq =>
    rw [hn, List.cons_append] at heq
    obtain ⟨rfl, -⟩ := List.cons.inj heq
    exact absurd hd (by decide)
  · rw [readWhole_digits]
    simp only [Option.bind_eq_bind, Option.bind_some, hfraction, hexponent, and_self, ↓reduceIte, Option.bind_none]

private theorem hexValue?_of_isDigit {c : Char} (h : Numeral.isDigit c = true) : hexValue? c = Numeral.digit? c := by
  have hdigit := Numeral.digit?_of_isDigit h
  unfold Numeral.digit? at hdigit ⊢
  unfold hexValue?
  split
  · rfl
  · next hrange => rw [if_neg hrange] at hdigit; cases hdigit

private theorem foldl_hexValue (hds : ∀ c ∈ ds, Numeral.isDigit c = true) (start : Nat) :
    ds.foldl (fun n c => n * 10 + (hexValue? c).getD 0) start = Numeral.value start ds := by
  unfold Numeral.value
  induction ds generalizing start with
  | nil => rfl
  | cons c ds ih =>
    rw [List.foldl_cons, List.foldl_cons, hexValue?_of_isDigit (hds c List.mem_cons_self)]
    exact ih (fun d hd => hds d (List.mem_cons_of_mem c hd)) _

private theorem digitsValue_digits (n : Nat) : digitsValue 10 (Numeral.digits n) = n := by
  rw [digitsValue, foldl_hexValue fun c => Numeral.isDigit_of_mem_digits, Numeral.value_digits]

private theorem readInteger_digits {n : Nat} (h : Numeral.Range.integer64.holds n = true) :
    readInteger (Numeral.digits n ++ '\n' :: rest) = some (.integer n, '\n' :: rest) := by
  -- behind a zero the line ends, so no mark of another base stands there
  have hbase : ∀ {c : Char} {behind : List Char}, Numeral.digits n ++ '\n' :: rest = '0' :: c :: behind → c = '\n' := by
    intro c behind heq
    obtain ⟨d, ds, hn, -⟩ := Numeral.exists_digits n
    rw [hn, List.cons_append] at heq
    obtain ⟨rfl, hds⟩ := List.cons.inj heq
    rw [Numeral.digits_eq_zero_cons hn] at hds
    exact (List.cons.inj hds).1.symm
  unfold readInteger
  split
  · next heq => exact absurd (hbase heq) (by decide)
  · next heq => exact absurd (hbase heq) (by decide)
  · next heq => exact absurd (hbase heq) (by decide)
  · rw [takeSign_digits]
    dsimp only
    simp only [readWhole_digits, digitsValue_digits, Option.bind_eq_bind, Option.bind_some, Bool.false_eq_true,
      ↓reduceIte, h]

/-- A whole number that is not negative is read from its digits. -/
theorem readNumber_digits {n : Nat} (h : Numeral.Range.integer64.holds n = true) :
    readNumber (Numeral.digits n ++ '\n' :: rest) = some (.integer n, '\n' :: rest) := by
  rw [readNumber, readDatetime_digits fun c => Numeral.isDigit_of_mem_digits, readFloat_digits, readInteger_digits h]
  rfl

end WorkspaceSearch.Toml
