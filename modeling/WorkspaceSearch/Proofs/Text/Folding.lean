import WorkspaceSearch.Proofs.Text.Matching

/-!
# Two lower cases

The database lowers ASCII letters only, and names that are asked for are lowered altogether.  Both come to the same on
the texts without a capital letter outside ASCII, and on no others (`Text.lower_eq_asciiLower_iff`).
-/

namespace WorkspaceSearch

namespace Chars

/-- A capital letter outside ASCII. -/
def IsForeignCapital (c : Char) : Prop := isAscii c = false ∧ lower [c] ≠ [c]

instance (c : Char) : Decidable (IsForeignCapital c) := inferInstanceAs (Decidable (_ ∧ _))

private theorem asciiLower_of_not_ascii {c : Char} (h : isAscii c = false) : asciiLower c = c := by
  have hupper : ¬isAsciiUpper c = true := by
    intro hupper
    have hlast := (isAsciiUpper_iff.1 hupper).2
    have hfirst : ¬c.toNat < 128 := of_decide_eq_false h
    omega
  rw [asciiLower, if_neg hupper]

private theorem lower_singleton (c : Char) : lower [c] = lowerAt [] c [] := List.append_nil _

private theorem lowerAt_of_not_foreign {c : Char} (h : ¬IsForeignCapital c) (before after : List Char) :
    lowerAt before c after = [asciiLower c] := by
  have hsigma : c ≠ 'Σ' := by
    rintro rfl
    exact h (by decide)
  have hdotted : c ≠ dottedCapitalI := by
    rintro rfl
    exact h (by decide)
  rw [lowerAt, if_neg hsigma, if_neg hdotted]
  by_cases hascii : isAscii c = true
  · rw [simpleLower, if_pos hascii]
  · rw [Bool.not_eq_true] at hascii
    have hkept : lower [c] = [c] := Decidable.of_not_not fun hlower => h ⟨hascii, hlower⟩
    rw [lower_singleton, lowerAt, if_neg hsigma, if_neg hdotted] at hkept
    rw [hkept, asciiLower_of_not_ascii hascii]

/-- A foreign capital is lowered to something else, wherever it stands. -/
private theorem exists_lowerAt_of_foreign {c : Char} (h : IsForeignCapital c) (before after : List Char) :
    ∃ d ds, lowerAt before c after = d :: ds ∧ d ≠ asciiLower c := by
  rw [asciiLower_of_not_ascii h.1]
  by_cases hsigma : c = 'Σ'
  · refine ⟨_, [], by rw [lowerAt, if_pos hsigma], ?_⟩
    rw [hsigma]
    split <;> decide
  by_cases hdotted : c = dottedCapitalI
  · refine ⟨'i', ['\u0307'], by rw [lowerAt, if_neg hsigma, if_pos hdotted], ?_⟩
    rw [hdotted]
    decide
  · refine ⟨simpleLower c, [], by rw [lowerAt, if_neg hsigma, if_neg hdotted], fun hkept => h.2 ?_⟩
    rw [lower_singleton, lowerAt, if_neg hsigma, if_neg hdotted, hkept]

private theorem lowerFrom_eq_iff {before cs : List Char} :
    lowerFrom before cs = cs.map asciiLower ↔ ∀ c ∈ cs, ¬IsForeignCapital c := by
  induction cs generalizing before with
  | nil => exact iff_of_true rfl fun _ h => absurd h List.not_mem_nil
  | cons c after ih =>
    rw [lowerFrom, List.map_cons, List.forall_mem_cons]
    by_cases hforeign : IsForeignCapital c
    · obtain ⟨d, ds, hlower, hne⟩ := exists_lowerAt_of_foreign hforeign before after
      refine iff_of_false (fun heq => ?_) fun h => h.1 hforeign
      rw [hlower, List.cons_append] at heq
      exact hne (List.cons.inj heq).1
    · rw [lowerAt_of_not_foreign hforeign, List.singleton_append, List.cons_inj_right, ih]
      exact (and_iff_right hforeign).symm

private theorem lower_eq_map_asciiLower_iff {cs : List Char} :
    lower cs = cs.map asciiLower ↔ ∀ c ∈ cs, ¬IsForeignCapital c :=
  lowerFrom_eq_iff

end Chars

namespace Text

/-- A text without a capital letter outside ASCII. -/
def NoForeignCapital (s : String) : Prop := ∀ c ∈ s.toList, ¬Chars.IsForeignCapital c

instance (s : String) : Decidable (NoForeignCapital s) := List.decidableBAll _ _

/-- A text in lower case is what the database makes of another one. -/
def FoldsTo (s stored : String) : Prop := lower s = asciiLower stored

instance (s stored : String) : Decidable (FoldsTo s stored) := inferInstanceAs (Decidable (_ = _))

theorem foldsTo_self_iff {s : String} : FoldsTo s s ↔ NoForeignCapital s := by
  rw [FoldsTo, lower, asciiLower, String.ofList_inj, Chars.lower_eq_map_asciiLower_iff, NoForeignCapital]

/-- Without a foreign capital the case of ASCII letters is all that is let go. -/
theorem NoForeignCapital.foldsTo_iff {s stored : String} (h : NoForeignCapital s) :
    FoldsTo s stored ↔ asciiLower s = asciiLower stored := by
  have hself : lower s = asciiLower s := foldsTo_self_iff.2 h
  rw [FoldsTo, hself]

end Text

end WorkspaceSearch
