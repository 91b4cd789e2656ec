import Mathlib.Data.List.Basic
import WorkspaceSearch.Proofs.Query.Scan
import WorkspaceSearch.Proofs.Text.Collapsed

/-!
# Quotes and asterisks in any text

What the first rule and the last one make of any text.  The quotes of a text come in pairs, from the left to the right,
and one may be left over (`quotes_induction`).  The rule for quotes takes the pairs away and sets what stands between
them apart, so that no word is made longer (`infix_of_mem_words_scan_quoted`).  The rule for asterisks takes them all
away (`scan_wildcard_eq`).
-/

namespace WorkspaceSearch.Query.Rule

open Chars (Blank Solid IsBreak isBlank words trim nonblank)

variable {cs : List Char}

/-! ### Pairs of quotes -/

private theorem exists_pair (h : 1 < cs.count '"') :
    ∃ pre body rest, cs = pre ++ '"' :: (body ++ '"' :: rest) ∧ '"' ∉ pre ∧ '"' ∉ body := by
  have hmem : '"' ∈ cs := List.count_pos_iff.1 (by omega)
  obtain ⟨pre, behind, rfl, hpre⟩ := List.eq_append_cons_of_mem hmem
  rw [List.count_append, List.count_cons_self, List.count_eq_zero.2 hpre] at h
  have hmem : '"' ∈ behind := List.count_pos_iff.1 (by omega)
  obtain ⟨body, rest, rfl, hbody⟩ := List.eq_append_cons_of_mem hmem
  exact ⟨pre, body, rest, rfl, hpre, hbody⟩

/-- Induction on the pairs of quotes in a text. -/
@[elab_as_elim]
theorem quotes_induction {P : List Char → Prop} (unpaired : ∀ cs, cs.count '"' ≤ 1 → P cs)
    (pair : ∀ pre body rest, '"' ∉ pre → '"' ∉ body → P rest → P (pre ++ '"' :: (body ++ '"' :: rest)))
    (cs : List Char) : P cs := by
  by_cases h : cs.count '"' ≤ 1
  · exact unpaired cs h
  · obtain ⟨pre, body, rest, rfl, hpre, hbody⟩ := exists_pair (Nat.lt_of_not_le h)
    exact pair pre body rest hpre hbody (quotes_induction unpaired pair rest)
termination_by cs.length
decreasing_by
  simp only [*, List.length_append, List.length_cons]
  omega

/-- A quote without a partner stays. -/
theorem scan_quoted_of_count_le (h : cs.count '"' ≤ 1) (b : Bool) : scan .quoted b cs = (cs, []) := by
  have hunquoted : ∀ {ds : List Char}, '"' ∉ ds → ∀ b, scan .quoted b ds = (ds, []) := by
    intro ds hds b
    have hscan := scan_unquoted hds b []
    rwa [List.append_nil, scan_nil, List.append_nil] at hscan
  by_cases hmem : '"' ∈ cs
  · obtain ⟨pre, rest, rfl, hpre⟩ := List.eq_append_cons_of_mem hmem
    have hrest : '"' ∉ rest := by
      rw [List.count_append, List.count_cons_self] at h
      exact List.count_eq_zero.1 (by omega)
    have hdrop : rest.dropWhile (· != '"') = [] := by
      rw [List.dropWhile_eq_nil_iff]
      intro c hc
      have hne : c ≠ '"' := fun heq => hrest (heq ▸ hc)
      simpa using hne
    have hstay : Rule.quoted.hit false ('"' :: rest) = none := by simp only [hit, hdrop]
    rw [scan_unquoted hpre, scan_cons_of_none hstay, hunquoted hrest]
  · exact hunquoted hmem b

/-- The first pair of quotes goes, and the scan goes on behind it. -/
theorem scan_quoted_pair {pre body : List Char} (hpre : '"' ∉ pre) (hbody : '"' ∉ body) (rest : List Char) (b : Bool) :
    scan .quoted b (pre ++ '"' :: (body ++ '"' :: rest)) =
      (pre ++ ' ' :: (trim body ++ ' ' :: (scan .quoted false rest).1),
        (if trim body = [] then [] else [.phrase]) ++ (scan .quoted false rest).2) := by
  rw [scan_unquoted hpre, scan_quoted hbody]

theorem words_pair (pre body out : List Char) :
    words (pre ++ ' ' :: (trim body ++ ' ' :: out)) = words pre ++ (words body ++ words out) := by
  have hspace : ∀ cs, IsBreak (' ' :: cs) := fun _ => Chars.isBreak_cons.2 Chars.isBlank_space
  have hword : ∀ cs, words (' ' :: cs) = words cs := Chars.words_cons_of_isBlank Chars.isBlank_space
  rw [Chars.words_append_of_isBreak _ (hspace _), hword, Chars.words_append_of_isBreak _ (hspace _), hword,
    Chars.words_trim]

/-! ### What the rule for quotes leaves -/

theorem count_scan_quoted_le (b : Bool) (cs : List Char) : (scan .quoted b cs).1.count '"' ≤ 1 := by
  induction cs using quotes_induction generalizing b with
  | unpaired cs h => rwa [scan_quoted_of_count_le h]
  | pair pre body rest hpre hbody ih =>
    have htrim : '"' ∉ trim body := fun hmem => hbody ((Chars.trim_infix body).subset hmem)
    have hcount : (pre ++ ' ' :: (trim body ++ ' ' :: (scan .quoted false rest).1)).count '"' =
        (scan .quoted false rest).1.count '"' := by
      simp [List.count_eq_zero.2 hpre, List.count_eq_zero.2 htrim]
    rw [scan_quoted_pair hpre hbody, hcount]
    exact ih false

/-- The words that are left are pieces of the text. -/
theorem infix_of_mem_words_scan_quoted {b : Bool} {w : List Char} (h : w ∈ words (scan .quoted b cs).1) :
    w <:+: cs := by
  induction cs using quotes_induction generalizing b with
  | unpaired cs hcs =>
    rw [scan_quoted_of_count_le hcs] at h
    exact Chars.infix_of_mem_words h
  | pair pre body rest hpre hbody ih =>
    rw [scan_quoted_pair hpre hbody, words_pair, List.mem_append, List.mem_append] at h
    rcases h with h | h | h
    · exact (Chars.infix_of_mem_words h).trans (List.prefix_append _ _).isInfix
    · exact (Chars.infix_of_mem_words h).trans ⟨pre ++ ['"'], '"' :: rest, by simp⟩
    · exact (ih h).trans ⟨pre ++ '"' :: (body ++ ['"']), [], by simp⟩

/-- Of what is not blank, the quotes of the pairs go and the rest stays. -/
theorem nonblank_scan_quoted_sublist (b : Bool) (cs : List Char) :
    (nonblank (scan .quoted b cs).1).Sublist (nonblank cs) := by
  induction cs using quotes_induction generalizing b with
  | unpaired cs h => rw [scan_quoted_of_count_le h]
  | pair pre body rest hpre hbody ih =>
    have hout : nonblank (pre ++ ' ' :: (trim body ++ ' ' :: (scan .quoted false rest).1)) =
        nonblank pre ++ (nonblank body ++ nonblank (scan .quoted false rest).1) := by
      rw [← Chars.flatten_words, words_pair, List.flatten_append, List.flatten_append, Chars.flatten_words,
        Chars.flatten_words, Chars.flatten_words]
    have hin : (nonblank (pre ++ (body ++ rest))).Sublist (nonblank (pre ++ '"' :: (body ++ '"' :: rest))) :=
      List.Sublist.filter _ ((((List.sublist_cons_self _ _).append_left _).cons _).append_left _)
    rw [Chars.nonblank_append, Chars.nonblank_append] at hin
    rw [scan_quoted_pair hpre hbody, hout]
    exact (((ih false).append_left _).append_left _).trans hin

/-- Nothing but phrases is found. -/
theorem eq_phrase_of_mem_scan_quoted {b : Bool} {f : Finding} (h : f ∈ (scan .quoted b cs).2) : f = .phrase := by
  induction cs using quotes_induction generalizing b with
  | unpaired cs hcs =>
    rw [scan_quoted_of_count_le hcs] at h
    cases h
  | pair pre body rest hpre hbody ih =>
    rw [scan_quoted_pair hpre hbody, List.mem_append] at h
    rcases h with h | h
    · by_cases hblank : trim body = []
      · simp [hblank] at h
      · simpa [hblank] using h
    · exact ih h

/-! ### Asterisks -/

private theorem filter_dropWhile (cs : List Char) :
    (cs.dropWhile (· == '*')).filter (· != '*') = cs.filter (· != '*') := by
  induction cs with
  | nil => rfl
  | cons c cs ih =>
    by_cases hc : c = '*'
    · simp [hc, ih]
    · simp [hc]

/-- All asterisks go, and nothing else. -/
theorem scan_wildcard_eq (b : Bool) (cs : List Char) : scan .wildcard b cs = (cs.filter (· != '*'), []) := by
  match cs with
  | [] => exact scan_nil _ b
  | c :: cs =>
    by_cases hc : c = '*'
    · subst hc
      have hhit : Rule.wildcard.hit b ('*' :: cs) = some ⟨some [], none, cs.dropWhile (· == '*')⟩ := rfl
      have hbehind : scanBehind .wildcard (cs.dropWhile (· == '*')) =
          scan .wildcard false (cs.dropWhile (· == '*')) := rfl
      rw [scan_cons_of_hit hhit, hbehind, scan_wildcard_eq false (cs.dropWhile (· == '*')), filter_dropWhile]
      rfl
    · have hstay : Rule.wildcard.hit b (c :: cs) = none := by
        simp only [hit]
        split
        · next heq => exact absurd (List.cons.inj heq).1 hc
        · rfl
      rw [scan_cons_of_none hstay, scan_wildcard_eq false cs, List.filter_cons_of_pos (by simpa using hc)]
termination_by cs.length
decreasing_by
  · have hle := (List.dropWhile_sublist (l := cs) (· == '*')).length_le
    simp only [List.length_cons]
    omega
  · simp

end WorkspaceSearch.Query.Rule
