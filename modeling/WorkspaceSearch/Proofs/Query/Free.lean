import WorkspaceSearch.Proofs.Query.Pass
import WorkspaceSearch.Proofs.Query.Quotes
import WorkspaceSearch.Proofs.Query.Reading

/-!
# Texts without operators

A text is free of operators when no rule has a use for any of its words (`Free`).  The rules behind the rule for quotes
leave such a text as it is, and every other text they leave with fewer characters that are not blank
(`applyRules_eq_self_or_lt`); so a text is read as itself exactly when it is free of operators (`readFrom_eq_iff`).

A phrase in quotes is no exception: its quotes go before the other rules read it (`ParsedQuery.ofText_quoted_iff`).
-/

namespace WorkspaceSearch.Query

open Chars (Blank Solid IsBreak words unwords nonblank)

/-- No rule has a use for any of some words. -/
def Free (ws : List (List Char)) : Prop := ∀ ρ ∈ Rule.all, ρ.Ignores ws

instance (ws : List (List Char)) : Decidable (Free ws) := List.decidableBAll _ Rule.all

/-! ### One rule -/

namespace Rule

variable {ρ : Rule}

private theorem not_mem_of_ignores_wildcard {cs : List Char} : Ignores .wildcard (words cs) ↔ '*' ∉ cs := by
  rw [ignores_iff (by decide)]
  have hmem : '*' ∈ (words cs).flatten ↔ '*' ∈ cs := by
    rw [Chars.flatten_words, nonblank, List.mem_filter]
    exact and_iff_left (by decide)
  rw [← hmem, List.mem_flatten]
  push Not
  exact Iff.rfl

private theorem isOfTokens_or (hρ : ρ ≠ .quoted) : IsOfTokens ρ ∨ ρ = .wildcard := by
  by_cases h : ρ = .wildcard
  · exact .inr h
  · exact .inl ⟨hρ, h⟩

/-- A rule leaves a text as it is exactly when it has no use for any of the words. -/
private theorem apply_eq_self_iff (hρ : ρ ≠ .quoted) (cs : List Char) :
    ρ.apply cs = (cs, []) ↔ ρ.Ignores (words cs) := by
  rcases isOfTokens_or hρ with htokens | rfl
  · exact scan_eq_self_iff htokens (.inl rfl)
  · rw [not_mem_of_ignores_wildcard, apply, scan_wildcard_eq, Prod.mk.injEq, and_iff_left rfl, List.filter_eq_self]
    constructor
    · intro h hmem
      exact absurd (h _ hmem) (by decide)
    · intro h c hc
      have hne : c ≠ '*' := fun heq => h (heq ▸ hc)
      simpa using hne

private theorem length_nonblank_lt_of_words {cs ds : List Char} (hs : (words ds).Sublist (words cs))
    (hlt : (words ds).length < (words cs).length) : (nonblank ds).length < (nonblank cs).length := by
  rw [← Chars.flatten_words, ← Chars.flatten_words]
  exact Chars.length_flatten_lt (Chars.areWords_words cs) hs hlt

/-- A rule leaves a text as it is and finds nothing, or it takes some of its characters away. -/
private theorem apply_eq_self_or_lt (hρ : ρ ≠ .quoted) (cs : List Char) :
    ρ.apply cs = (cs, []) ∨ (nonblank (ρ.apply cs).1).length < (nonblank cs).length := by
  rcases isOfTokens_or hρ with htokens | rfl
  · exact (scan_eq_self_or_lt htokens true cs).imp_right
      (length_nonblank_lt_of_words (words_scan_sublist htokens true cs))
  · by_cases hmem : '*' ∈ cs
    · right
      rw [apply, scan_wildcard_eq]
      have hsub : (nonblank (cs.filter (· != '*'))).Sublist (nonblank cs) := cs.filter_sublist.filter _
      refine lt_of_le_of_ne hsub.length_le fun hlen => ?_
      have heq := hsub.eq_of_length hlen
      have hstar : '*' ∈ nonblank cs := List.mem_filter.2 ⟨hmem, by decide⟩
      rw [← heq] at hstar
      simp [nonblank] at hstar
    · exact .inl ((apply_eq_self_iff hρ cs).2 (not_mem_of_ignores_wildcard.2 hmem))

end Rule

/-! ### One rule after the other -/

variable {ρs : List Rule}

theorem applyRules_eq_self_or_lt (hρs : .quoted ∉ ρs) (cs : List Char) :
    applyRules ρs cs = (cs, []) ∨ (nonblank (applyRules ρs cs).1).length < (nonblank cs).length := by
  induction ρs generalizing cs with
  | nil => exact .inl rfl
  | cons ρ ρs ih =>
    rw [List.mem_cons, not_or] at hρs
    have hrest := ih hρs.2 (ρ.apply cs).1
    rcases Rule.apply_eq_self_or_lt (Ne.symm hρs.1) cs with hself | hlt
    · rw [hself] at hrest
      simp only [applyRules, hself]
      exact hrest.imp_left fun h => by rw [h]; rfl
    · right
      simp only [applyRules]
      rcases hrest with hrest | hrest
      · rw [hrest]
        exact hlt
      · exact hrest.trans hlt

/-- The rules leave a text as it is exactly when none of them has a use for any of its words. -/
private theorem applyRules_eq_self_iff (hρs : .quoted ∉ ρs) (cs : List Char) :
    applyRules ρs cs = (cs, []) ↔ ∀ ρ ∈ ρs, ρ.Ignores (words cs) := by
  induction ρs with
  | nil => simp [applyRules]
  | cons ρ ρs ih =>
    rw [List.mem_cons, not_or] at hρs
    rw [List.forall_mem_cons, ← ih hρs.2, ← Rule.apply_eq_self_iff (Ne.symm hρs.1)]
    constructor
    · intro h
      rcases Rule.apply_eq_self_or_lt (Ne.symm hρs.1) cs with hself | hlt
      · simp only [applyRules, hself, List.nil_append] at h
        exact ⟨hself, h⟩
      · -- what is gone does not come back
        have htext : (applyRules ρs (ρ.apply cs).1).1 = cs := congrArg Prod.fst h
        have hle : (nonblank (applyRules ρs (ρ.apply cs).1).1).length ≤ (nonblank (ρ.apply cs).1).length := by
          rcases applyRules_eq_self_or_lt hρs.2 (ρ.apply cs).1 with hrest | hrest
          · rw [hrest]
          · exact hrest.le
        rw [htext] at hle
        exact absurd hlt (Nat.not_lt.2 hle)
    · rintro ⟨hself, hrest⟩
      simp only [applyRules, hself, hrest, List.nil_append]

/-! ### Reading -/

/-- The free text and the operators that the rules behind the rule for quotes make of a text, in addition to operators
that have been found. -/
def readFrom (ops : Operators) (cs : List Char) : ParsedQuery where
  base := .ofList (unwords (words (applyRules Rule.all.tail cs).1))
  operators := (applyRules Rule.all.tail cs).2.foldl Finding.addTo ops

theorem ofText_eq_readFrom (raw : String) :
    ParsedQuery.ofText raw =
      readFrom ((Rule.quoted.apply raw.toList).2.foldl Finding.addTo {}) (Rule.quoted.apply raw.toList).1 := by
  rw [readFrom, ← List.foldl_append]
  rfl

private theorem free_iff {ws : List (List Char)} : Free ws ↔ ∀ ρ ∈ Rule.all.tail, ρ.Ignores ws := by
  have hquoted : Rule.quoted.Ignores ws := (Rule.ignores_iff (by decide)).2 fun _ _ h => h
  exact List.forall_mem_cons.trans (and_iff_right hquoted)

/-- A text is read as itself exactly when it is free of operators. -/
theorem readFrom_eq_iff (ops : Operators) (cs : List Char) :
    readFrom ops cs = { base := .ofList (unwords (words cs)), operators := ops } ↔ Free (words cs) := by
  have hquoted : Rule.quoted ∉ Rule.all.tail := by decide
  rw [free_iff, ← applyRules_eq_self_iff hquoted]
  constructor
  · intro h
    have hbase : unwords (words (applyRules Rule.all.tail cs).1) = unwords (words cs) :=
      String.ofList_injective (congrArg ParsedQuery.base h)
    have hwords := congrArg words hbase
    rw [Chars.words_unwords (Chars.areWords_words _), Chars.words_unwords (Chars.areWords_words _)] at hwords
    refine (applyRules_eq_self_or_lt hquoted cs).resolve_right fun hlt => ?_
    rw [← Chars.flatten_words, ← Chars.flatten_words, hwords] at hlt
    exact Nat.lt_irrefl _ hlt
  · intro h
    rw [readFrom, h]
    rfl

/-- A text with one quote at most is read as itself, up to its blanks, exactly when it is free of operators. -/
theorem ofText_eq_collapse_iff {raw : String} (h : raw.toList.count '"' ≤ 1) :
    ParsedQuery.ofText raw = { base := Text.collapse raw } ↔ Free (words raw.toList) := by
  have hquoted : Rule.quoted.apply raw.toList = (raw.toList, []) := Rule.scan_quoted_of_count_le h true
  rw [ofText_eq_readFrom, hquoted]
  exact readFrom_eq_iff {} raw.toList

/-! ### Quoted phrases -/

/-- The rule for quotes sets a phrase between spaces. -/
private theorem apply_quoted {cs : List Char} (h : '"' ∉ cs) :
    Rule.quoted.apply ('"' :: (cs ++ ['"'])) =
      (' ' :: (Chars.trim cs ++ [' ']), if Chars.trim cs = [] then [] else [.phrase]) := by
  have hscan := Rule.scan_quoted_pair (List.not_mem_nil (a := '"')) h [] true
  rwa [Rule.scan_nil, List.append_nil, List.nil_append, List.nil_append] at hscan

private theorem words_phrase (cs : List Char) : words (' ' :: (Chars.trim cs ++ [' '])) = words cs := by
  have hwords := Rule.words_pair [] cs []
  rwa [List.nil_append, Chars.words_of_blank Blank.nil, List.append_nil, List.nil_append] at hwords

end WorkspaceSearch.Query

namespace WorkspaceSearch

open Query

/-- A quoted phrase is read as its words, and nothing is found in it, exactly when it is free of operators. -/
theorem ParsedQuery.ofText_quoted_iff (p : String) (h : '"' ∉ p.toList) :
    ofText ("\"" ++ p ++ "\"") = { base := Text.collapse p, operators := { exact := !Text.isBlank p } } ↔
      Free (Chars.words p.toList) := by
  have htext : ("\"" ++ p ++ "\"").toList = '"' :: (p.toList ++ ['"']) := by simp [String.toList_append]
  have hexact : (if Chars.trim p.toList = [] then [] else [Finding.phrase]).foldl Finding.addTo {} =
      { exact := !Text.isBlank p } := by
    by_cases hblank : Chars.trim p.toList = []
    · have : Text.isBlank p = true := Text.isBlank_iff.2 (Chars.trim_eq_nil_iff.1 hblank)
      rw [if_pos hblank, this]
      rfl
    · have : Text.isBlank p = false := by
        rw [Bool.eq_false_iff]
        exact fun h => hblank (Chars.trim_eq_nil_iff.2 (Text.isBlank_iff.1 h))
      rw [if_neg hblank, this]
      rfl
  rw [ofText_eq_readFrom, htext, apply_quoted h, hexact, Text.collapse, ← words_phrase]
  exact readFrom_eq_iff _ _

/-- Plain words in quotes are read as they stand. -/
theorem ParsedQuery.ofText_quoted_report :
    '"' ∉ "annual  report".toList ∧
      ofText "\"annual  report\"" = { base := "annual report", operators := { exact := true } } :=
  ⟨by decide, (ofText_quoted_iff "annual  report" (by decide)).2 (by decide)⟩

/-- An operator in quotes is read as an operator, and is lost to the free text. -/
theorem ParsedQuery.ofText_quoted_operator :
    ofText ("\"" ++ "from:x" ++ "\"") ≠
      { base := Text.collapse "from:x", operators := { exact := !Text.isBlank "from:x" } } := by
  decide_cbv

end WorkspaceSearch
