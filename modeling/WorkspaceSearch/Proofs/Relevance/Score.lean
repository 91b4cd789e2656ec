import Mathlib.Tactic.Linarith
import Mathlib.Tactic.Ring
import WorkspaceSearch.Proofs.Text.Matching
import WorkspaceSearch.Proofs.Text.Occurrence

/-!
# What a score is made of

A score is the sum of what the whole query earns and what its words earn (`score_eq`).  All words of a query are in a
text that contains the query, so texts fall into three tiers (`score_by_tier`): those that are the query, those that
contain it, by the place of its first occurrence, and those that do not, by the number of words they contain.
-/

namespace WorkspaceSearch

private theorem Decimal.toRat_ofTenths (n : Nat) : (Decimal.ofTenths n).toRat = n / 10 := by
  have hpow : (10 : Rat) ^ (-1 : Int) = 1 / 10 := by
    rw [Rat.zpow_neg]
    norm_num
  simp only [Decimal.toRat, Decimal.ofTenths, Decimal.magnitude, Bool.false_eq_true, if_false, hpow]
  ring

namespace Relevance

open Chars (lower trim FirstAt)

/-! ### The parts of a score -/

/-- A query as it is looked for: without the blanks at its ends and in lower case. -/
def sought (query : String) : List Char := lower (trim query.toList)

/-- The words of a query that a score counts, repeated words again. -/
def soughtWords (query : String) : List (List Char) := longWords (sought query)

/-- The points for words: ten for every word of the query that the content contains. -/
def wordPoints (content query : String) : Rat :=
  10 * (soughtWords query).countP fun w => w <:+: lower content.toList

/-- The points for the place of the first occurrence: a tenth less for every character before it. -/
def placePoints (place : Nat) : Rat := max 0 (20 - place / 10)

/-- The points for the whole query: for being it, for containing it, and for the place where it first stands. -/
def phrasePoints (content query : String) : Rat :=
  if content.toList = [] ∨ trim query.toList = [] then 0
  else
    match Chars.find? (sought query) (lower content.toList) with
    | some place => (if lower content.toList = sought query then 100 else 0) + 50 + placePoints place
    | none => 0

private theorem positionTenths_eq (place : Nat) : (positionTenths place : Rat) / 10 = placePoints place := by
  unfold positionTenths placePoints
  rcases Nat.le_total place 200 with h | h
  · have hle : (place : Rat) ≤ 200 := by exact_mod_cast h
    rw [Nat.cast_sub h, max_eq_right (by linarith)]
    push_cast
    ring
  · have hle : (200 : Rat) ≤ place := by exact_mod_cast h
    rw [Nat.sub_eq_zero_of_le h, max_eq_left (by linarith)]
    norm_num

variable {content query : String}

private theorem wordPoints_of_blank (h : content.toList = [] ∨ trim query.toList = []) :
    wordPoints content query = 0 := by
  have hnone : (soughtWords query).countP (fun w => w <:+: lower content.toList) = 0 := by
    rw [List.countP_eq_zero]
    intro w hw
    have hword := List.mem_of_mem_filter hw
    rcases h with h | h
    · -- no word occurs in the empty text
      rw [h, decide_eq_true_iff]
      intro hoccurs
      exact Chars.ne_nil_of_mem_words hword (List.infix_nil.1 hoccurs)
    · rw [sought, h] at hword
      cases hword
  rw [wordPoints, hnone]
  norm_num

/-- A score is the points for the whole query and those for its words. -/
theorem score_eq (content query : String) :
    (score content query).toRat = phrasePoints content query + wordPoints content query := by
  rw [score, Decimal.toRat_ofTenths]
  simp only [scoreTenths]
  by_cases h : content.toList = [] ∨ trim query.toList = []
  · rw [if_pos h, phrasePoints, if_pos h, wordPoints_of_blank h]
    norm_num
  · -- words are counted by a search, and points by the relation that it decides
    have hwords : ((longWords (lower (trim query.toList))).filter
        fun w => Chars.contains (lower content.toList) w).length =
          (soughtWords query).countP fun w => w <:+: lower content.toList := by
      rw [← List.countP_eq_length_filter]
      refine List.countP_congr fun w _ => ?_
      rw [Chars.contains_iff_infix, decide_eq_true_iff]
    rw [if_neg h, phrasePoints, if_neg h, wordPoints, scoreLowered]
    simp only [hwords]
    rw [← sought]
    cases hfind : Chars.find? (sought query) (lower content.toList) with
    | none =>
      have hne : lower content.toList ≠ sought query := by
        intro heq
        exact Chars.find?_eq_none_iff.1 hfind (heq ▸ List.infix_rfl)
      rw [if_neg hne]
      push_cast
      ring
    | some place =>
      simp only [← positionTenths_eq]
      split <;> push_cast <;> ring

/-! ### Bounds -/

private theorem placePoints_zero : placePoints 0 = 20 := by norm_num [placePoints]

private theorem placePoints_nonneg (place : Nat) : 0 ≤ placePoints place := le_max_left _ _

private theorem placePoints_antitone {i j : Nat} (h : i ≤ j) : placePoints j ≤ placePoints i := by
  have hle : (i : Rat) ≤ j := by exact_mod_cast h
  exact max_le_max le_rfl (by linarith)

private theorem placePoints_le (place : Nat) : placePoints place ≤ 20 :=
  (placePoints_antitone (Nat.zero_le place)).trans_eq placePoints_zero

private theorem wordPoints_nonneg (content query : String) : 0 ≤ wordPoints content query := by
  unfold wordPoints
  positivity

private theorem wordPoints_le (content query : String) :
    wordPoints content query ≤ 10 * (soughtWords query).length := by
  have hle : (((soughtWords query).countP fun w => w <:+: lower content.toList : Nat) : Rat) ≤
      (soughtWords query).length := by
    exact_mod_cast List.countP_le_length
  rw [wordPoints]
  linarith

/-- Every word of a query is in a text that contains the query. -/
private theorem wordPoints_of_infix (h : sought query <:+: lower content.toList) :
    wordPoints content query = 10 * (soughtWords query).length := by
  have hall : (soughtWords query).countP (fun w => w <:+: lower content.toList) = (soughtWords query).length := by
    rw [List.countP_eq_length]
    intro w hw
    exact decide_eq_true ((Chars.infix_of_mem_words (List.mem_of_mem_filter hw)).trans h)
  rw [wordPoints, hall]

/-! ### Tiers -/

/-- A content is the query, case aside. -/
def IsQuery (content query : String) : Prop := lower content.toList = sought query

/-- A content does not contain the query, case aside. -/
def Lacks (content query : String) : Prop := ¬sought query <:+: lower content.toList

/-- A content is not the query but contains it, case aside, first behind a number of characters of its lower case. -/
structure HoldsAt (content query : String) (place : Nat) : Prop where
  not_isQuery : ¬IsQuery content query
  first : FirstAt (sought query) (lower content.toList) place

private theorem tier_cases (content query : String) :
    IsQuery content query ∨ (∃ place, HoldsAt content query place) ∨ Lacks content query := by
  by_cases hsame : IsQuery content query
  · exact .inl hsame
  · by_cases hoccurs : sought query <:+: lower content.toList
    · obtain ⟨place, hfirst⟩ := Chars.exists_firstAt_iff.2 hoccurs
      exact .inr (.inl ⟨place, hsame, hfirst⟩)
    · exact .inr (.inr hoccurs)

instance : Decidable (IsQuery content query) := inferInstanceAs (Decidable (_ = _))

/-- What a query earns where it first stands. -/
theorem phrasePoints_of_firstAt (hquery : trim query.toList ≠ []) {place : Nat}
    (h : FirstAt (sought query) (lower content.toList) place) :
    phrasePoints content query = (if IsQuery content query then 100 else 0) + 50 + placePoints place := by
  have hcontent : content.toList ≠ [] := by
    intro hnil
    have hstands := h.stands
    rw [hnil] at hstands
    have hnone : sought query = [] := by simpa [lower, Chars.lowerFrom] using hstands
    exact Chars.lower_ne_nil hquery hnone
  rw [phrasePoints, if_neg (not_or.2 ⟨hcontent, hquery⟩), Chars.find?_eq_some_iff.2 h]
  rfl

private theorem score_of_isQuery (hquery : trim query.toList ≠ []) (h : IsQuery content query) :
    (score content query).toRat = 170 + 10 * (soughtWords query).length := by
  have hfirst : FirstAt (sought query) (lower content.toList) 0 :=
    Chars.firstAt_zero_iff.2 (h ▸ List.prefix_rfl)
  rw [score_eq, phrasePoints_of_firstAt hquery hfirst, if_pos h, placePoints_zero,
    wordPoints_of_infix (h ▸ List.infix_rfl)]
  norm_num

private theorem score_of_holdsAt (hquery : trim query.toList ≠ []) {place : Nat} (h : HoldsAt content query place) :
    (score content query).toRat = 50 + placePoints place + 10 * (soughtWords query).length := by
  have hoccurs := Chars.exists_firstAt_iff.1 ⟨place, h.first⟩
  rw [score_eq, phrasePoints_of_firstAt hquery h.first, if_neg h.not_isQuery, wordPoints_of_infix hoccurs, zero_add]

private theorem score_of_lacks (h : Lacks content query) : (score content query).toRat = wordPoints content query := by
  have hnone : phrasePoints content query = 0 := by
    rw [phrasePoints, Chars.find?_eq_none_iff.2 h]
    exact ite_self 0
  rw [score_eq, hnone, zero_add]

private theorem trim_ne_nil (h : Text.isBlank query = false) : trim query.toList ≠ [] := by
  rw [ne_eq, Chars.trim_eq_nil_iff, Chars.Blank, ← Text.isBlank_iff, h]
  exact Bool.false_ne_true

private theorem score_le_of_lacks (h : Lacks content query) :
    (score content query).toRat ≤ 10 * (soughtWords query).length := by
  rw [score_of_lacks h]
  exact wordPoints_le content query

/-- A content that is not the query stays below the contents that are. -/
private theorem score_le_of_not_isQuery (hquery : trim query.toList ≠ []) (h : ¬IsQuery content query) :
    (score content query).toRat ≤ 70 + 10 * (soughtWords query).length := by
  rcases tier_cases content query with hsame | ⟨place, hplace⟩ | hlacks
  · exact absurd hsame h
  · have hle := placePoints_le place
    rw [score_of_holdsAt hquery hplace]
    linarith
  · have hle := score_le_of_lacks hlacks
    linarith

/-- No points without a query or a content; in any case no fewer than none, and no more than for the query itself. -/
private theorem score_bounds (content query : String) :
    (content = "" ∨ Text.isBlank query = true → (score content query).toRat = 0) ∧
      0 ≤ (score content query).toRat ∧ (score content query).toRat ≤ 170 + 10 * (soughtWords query).length := by
  have hwords := wordPoints_nonneg content query
  by_cases hempty : content.toList = [] ∨ trim query.toList = []
  · have hzero : (score content query).toRat = 0 := by
      rw [score_eq, wordPoints_of_blank hempty, phrasePoints, if_pos hempty, zero_add]
    refine ⟨fun _ => hzero, hzero.ge, ?_⟩
    rw [hzero]
    positivity
  · obtain ⟨hcontent, hquery⟩ := not_or.1 hempty
    refine ⟨?_, ?_⟩
    · rintro (rfl | hblank)
      · exact absurd rfl hcontent
      · exact absurd (Chars.trim_eq_nil_iff.2 (Text.isBlank_iff.1 hblank)) hquery
    · by_cases hsame : IsQuery content query
      · rw [score_of_isQuery hquery hsame]
        exact ⟨by positivity, le_rfl⟩
      · have hle := score_le_of_not_isQuery hquery hsame
        have hphrase : 0 ≤ phrasePoints content query := by
          rw [phrasePoints, if_neg hempty]
          split
          · have hplace := placePoints_nonneg ‹Nat›
            split <;> linarith
          · exact le_rfl
        rw [score_eq] at hle ⊢
        exact ⟨by linarith, by linarith⟩

/-- Scores rank contents by tiers, for a query with `W` words that count, and points as exact numbers.

* A content that is the query earns 170 + 10 W, more than any that is not.
* A content that contains the query, first behind `i` characters, earns 50 + max 0 (20 - i / 10) + 10 W: more than any
  that lacks the query, and no less than one in which the query first stands further behind.
* A content that lacks the query earns ten for each word that it contains, so no more than 10 W.
* A blank query or an empty content earns nothing, and nothing earns less than that or more than 170 + 10 W. -/
theorem score_by_tier (query : String) :
    (Text.isBlank query = false →
      (∀ a : String, IsQuery a query →
        (score a query).toRat = 170 + 10 * (soughtWords query).length ∧
          ∀ b : String, ¬IsQuery b query → (score b query).toRat < (score a query).toRat) ∧
      (∀ (a : String) (i : Nat), HoldsAt a query i →
        (score a query).toRat = 50 + max 0 (20 - (i : Rat) / 10) + 10 * (soughtWords query).length ∧
          (∀ b : String, Lacks b query → (score b query).toRat < (score a query).toRat) ∧
          ∀ (b : String) (j : Nat), HoldsAt b query j → i ≤ j → (score b query).toRat ≤ (score a query).toRat) ∧
      ∀ a : String, Lacks a query →
        (score a query).toRat = 10 * ((soughtWords query).countP fun w => w <:+: lower a.toList : Nat) ∧
          (score a query).toRat ≤ 10 * (soughtWords query).length) ∧
    ∀ a : String, (a = "" ∨ Text.isBlank query = true → (score a query).toRat = 0) ∧
      0 ≤ (score a query).toRat ∧ (score a query).toRat ≤ 170 + 10 * (soughtWords query).length := by
  refine ⟨fun hblank => ?_, fun a => score_bounds a query⟩
  have hquery := trim_ne_nil hblank
  refine ⟨fun a ha => ⟨score_of_isQuery hquery ha, fun b hb => ?_⟩, fun a i ha => ?_, fun a ha => ?_⟩
  · have hle := score_le_of_not_isQuery hquery hb
    rw [score_of_isQuery hquery ha]
    linarith
  · have hplace := placePoints_nonneg i
    rw [score_of_holdsAt hquery ha]
    refine ⟨rfl, fun b hb => ?_, fun b j hb hle => ?_⟩
    · have hle := score_le_of_lacks hb
      linarith
    · have hle := placePoints_antitone hle
      rw [score_of_holdsAt hquery hb]
      linarith
  · exact ⟨score_of_lacks ha, score_le_of_lacks ha⟩

/-- The query, a content with the query in it, and one with its words only. -/
theorem score_by_tier_needle :
    Text.isBlank "needle in" = false ∧ IsQuery "Needle IN" "needle in" ∧ HoldsAt "a needle in hay" "needle in" 2 ∧
      Lacks "in the needle" "needle in" ∧ (score "Needle IN" "needle in").toRat = 190 ∧
      (score "a needle in hay" "needle in").toRat = 50 + max 0 (20 - 2 / 10) + 20 ∧
      (score "in the needle" "needle in").toRat = 20 ∧
      (score "a needle in hay" "needle in").toRat < (score "Needle IN" "needle in").toRat ∧
      (score "in the needle" "needle in").toRat < (score "a needle in hay" "needle in").toRat := by
  have hblank : Text.isBlank "needle in" = false := by decide
  have hsame : IsQuery "Needle IN" "needle in" := by decide +kernel
  have hholds : HoldsAt "a needle in hay" "needle in" 2 :=
    ⟨by decide +kernel, Chars.find?_eq_some_iff.1 (by decide +kernel)⟩
  have hlacks : Lacks "in the needle" "needle in" := Chars.find?_eq_none_iff.1 (by decide +kernel)
  have hcount : (soughtWords "needle in").length = 2 := by decide +kernel
  have hfound : (soughtWords "needle in").countP (fun w => w <:+: lower "in the needle".toList) = 2 := by
    decide +kernel
  obtain ⟨⟨hquery, hplaces, hnone⟩, -⟩ := (score_by_tier "needle in").imp_left fun h => h hblank
  have hscore := (hquery _ hsame).1
  have hscore' := (hplaces _ 2 hholds).1
  have hscore'' := (hnone _ hlacks).1
  rw [hcount] at hscore hscore'
  rw [hfound] at hscore''
  refine ⟨hblank, hsame, hholds, hlacks, ?_, ?_, ?_, (hquery _ hsame).2 _ hholds.not_isQuery,
    (hplaces _ 2 hholds).2.1 _ hlacks⟩
  · rw [hscore]
    norm_num
  · rw [hscore']
    norm_num
  · rw [hscore'']
    norm_num

end Relevance

end WorkspaceSearch
