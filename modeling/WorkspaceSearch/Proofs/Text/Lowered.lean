import WorkspaceSearch.Proofs.Text.Matching

/-!
# Lower case between blanks

Blanks are their own lower case, and no other character has a blank in its lower case.  So a text is lowered between the
blanks around it (`Chars.lower_between`), and what it mentions does not depend on them
(`Condition.mentionsAny_iff_mentions`).
-/

namespace WorkspaceSearch

namespace Chars

/-! ### Blanks -/

/-- The numbers of the characters with the property White_Space. -/
private def blankNumbers : List Nat :=
  [0x9, 0xA, 0xB, 0xC, 0xD, 0x20, 0x85, 0xA0, 0x1680, 0x2000, 0x2001, 0x2002, 0x2003, 0x2004, 0x2005, 0x2006, 0x2007,
   0x2008, 0x2009, 0x200A, 0x2028, 0x2029, 0x202F, 0x205F, 0x3000]

private theorem isBlank_iff_mem {c : Char} : isBlank c = true ↔ c.toNat ∈ blankNumbers := by
  simp only [isBlank, blankNumbers, Bool.or_eq_true, Bool.and_eq_true, decide_eq_true_eq, List.mem_cons,
    List.not_mem_nil, or_false]
  omega

/-- A blank is no letter of any case, and the end of a word for the final sigma. -/
structure Caseless (c : Char) : Prop where
  not_sigma : c ≠ 'Σ'
  not_dotted : c ≠ dottedCapitalI
  simpleLower_eq : simpleLower c = c
  not_ignorable : inRuns caseIgnorableRuns c = false
  not_cased : inRuns casedRuns c = false

private theorem caseless_of_isBlank {c : Char} (h : isBlank c = true) : Caseless c := by
  have hall : ∀ n ∈ blankNumbers, Char.ofNat n ≠ 'Σ' ∧ Char.ofNat n ≠ dottedCapitalI ∧
      simpleLower (Char.ofNat n) = Char.ofNat n ∧ inRuns caseIgnorableRuns (Char.ofNat n) = false ∧
      inRuns casedRuns (Char.ofNat n) = false := by decide +kernel
  have hc := hall c.toNat (isBlank_iff_mem.1 h)
  rw [Char.ofNat_toNat] at hc
  exact ⟨hc.1, hc.2.1, hc.2.2.1, hc.2.2.2.1, hc.2.2.2.2⟩

/-- Blanks behind a text do not make it start with a cased letter. -/
private theorem startsCased_append {cs blanks : List Char} (h : Blank blanks) :
    startsCased (cs ++ blanks) = startsCased cs := by
  have hblanks : startsCased blanks = false := by
    cases blanks with
    | nil => rfl
    | cons c blanks =>
      have hc := caseless_of_isBlank (blank_cons.1 h).1
      rw [startsCased, List.dropWhile_cons, hc.not_ignorable]
      exact hc.not_cased
  induction cs with
  | nil => exact hblanks
  | cons c cs ih =>
    cases hignorable : inRuns caseIgnorableRuns c with
    | true =>
      simp only [startsCased, List.cons_append, List.dropWhile_cons, hignorable, if_true] at ih ⊢
      exact ih
    | false => simp [startsCased, hignorable]

private theorem lowerAt_of_isBlank {c : Char} (h : isBlank c = true) (before after : List Char) :
    lowerAt before c after = [c] := by
  have hc := caseless_of_isBlank h
  rw [lowerAt, if_neg hc.not_sigma, if_neg hc.not_dotted, hc.simpleLower_eq]

private theorem lowerFrom_of_blank {blanks : List Char} (h : Blank blanks) (before rest : List Char) :
    lowerFrom before (blanks ++ rest) = blanks ++ lowerFrom (blanks.reverse ++ before) rest := by
  induction blanks generalizing before with
  | nil => rfl
  | cons c blanks ih =>
    obtain ⟨hc, hblanks⟩ := blank_cons.1 h
    rw [List.cons_append, lowerFrom, lowerAt_of_isBlank hc, ih hblanks, List.reverse_cons, List.append_assoc]
    rfl

private theorem lowerFrom_between {lead trail : List Char} (hlead : Blank lead) (htrail : Blank trail)
    (before cs : List Char) : lowerFrom (before ++ lead) (cs ++ trail) = lowerFrom before cs ++ trail := by
  induction cs generalizing before with
  | nil =>
    have hblank := lowerFrom_of_blank htrail (before ++ lead) []
    rwa [List.append_nil, lowerFrom, List.append_nil] at hblank
  | cons c cs ih =>
    have hhere : lowerAt (before ++ lead) c (cs ++ trail) = lowerAt before c cs := by
      simp only [lowerAt, startsCased_append hlead, startsCased_append htrail]
    rw [List.cons_append, lowerFrom, hhere, ← List.cons_append, ih, lowerFrom, List.append_assoc]

/-- A text between blanks is lowered between them. -/
theorem lower_between {lead trail : List Char} (hlead : Blank lead) (htrail : Blank trail) (cs : List Char) :
    lower (lead ++ (cs ++ trail)) = lead ++ (lower cs ++ trail) := by
  have hreverse : Blank lead.reverse := fun c hc => hlead c (List.mem_reverse.1 hc)
  have hmiddle := lowerFrom_between hreverse htrail [] cs
  rw [List.nil_append] at hmiddle
  rw [lower, lowerFrom_of_blank hlead, List.append_nil, hmiddle, lower]

/-! ### Other characters -/

private theorem toNat_ofNat (n : Nat) : (Char.ofNat n).toNat = n ∨ (Char.ofNat n).toNat = 0 := by
  by_cases hvalid : n.isValidChar
  · exact .inl (by rw [Char.ofNat, dif_pos hvalid]; rfl)
  · exact .inr (by rw [Char.ofNat, dif_neg hvalid]; rfl)

private theorem not_isBlank_simpleLower {c : Char} (h : isBlank c = false) : isBlank (simpleLower c) = false := by
  have hruns : ∀ run ∈ lowerRuns, ∀ n ∈ blankNumbers, ¬(run.1 + run.2.2.2 ≤ n ∧ n ≤ run.2.1 + run.2.2.2) := by
    decide +kernel
  by_contra hblank
  rw [Bool.not_eq_false, isBlank_iff_mem] at hblank
  unfold simpleLower at hblank
  split at hblank
  · rw [toNat_asciiLower] at hblank
    split at hblank
    · next hupper =>
      have hrange := isAsciiUpper_iff.1 hupper
      simp only [blankNumbers, List.mem_cons, List.not_mem_nil, or_false] at hblank
      omega
    · rw [← isBlank_iff_mem, h] at hblank
      cases hblank
  · split at hblank
    · next first last step distance hfind =>
      have hrange := List.find?_some hfind
      simp only [Bool.and_eq_true, decide_eq_true_eq] at hrange
      -- a number that is no character's becomes NUL, which is no blank either
      rcases toNat_ofNat (c.toNat + distance).toNat with hn | hn
      · rw [hn] at hblank
        have hpositive : ∀ n ∈ blankNumbers, 0 < n := by decide
        have hn := hpositive _ hblank
        refine hruns _ (List.mem_of_find?_eq_some hfind) _ hblank ?_
        show (first : Int) + distance ≤ _ ∧ _ ≤ (last : Int) + distance
        omega
      · rw [hn] at hblank
        exact absurd hblank (by decide)
    · rw [← isBlank_iff_mem, h] at hblank
      cases hblank

private theorem not_isBlank_of_mem_lowerAt {before after : List Char} {c d : Char} (h : isBlank c = false)
    (hd : d ∈ lowerAt before c after) : isBlank d = false := by
  unfold lowerAt at hd
  split at hd
  · obtain rfl := List.mem_singleton.1 hd
    split <;> decide
  · split at hd
    · rcases List.mem_cons.1 hd with rfl | hd
      · decide
      · rw [List.mem_singleton.1 hd]
        decide
    · rw [List.mem_singleton.1 hd]
      exact not_isBlank_simpleLower h

private theorem head?_lower {cs : List Char} (h : ∀ c ∈ cs.head?, isBlank c = false) :
    ∀ d ∈ (lower cs).head?, isBlank d = false := by
  intro d hd
  cases cs with
  | nil => cases hd
  | cons c cs =>
    obtain ⟨e, es, he⟩ := exists_lowerAt [] c cs
    rw [lower, lowerFrom, he, List.cons_append, List.head?_cons] at hd
    have hmem : d ∈ lowerAt [] c cs := by
      rw [he, Option.some.inj hd]
      exact List.mem_cons_self
    exact not_isBlank_of_mem_lowerAt (h c rfl) hmem

private theorem getLast?_lowerFrom {before cs : List Char} (h : ∀ c ∈ cs.getLast?, isBlank c = false) :
    ∀ d ∈ (lowerFrom before cs).getLast?, isBlank d = false := by
  intro d hd
  induction cs generalizing before with
  | nil => cases hd
  | cons c cs ih =>
    rw [lowerFrom, List.getLast?_append] at hd
    cases cs with
    | nil => exact not_isBlank_of_mem_lowerAt (h c rfl) (List.mem_of_getLast? hd)
    | cons next cs =>
      obtain ⟨e, es, he⟩ := exists_lowerAt (c :: before) next cs
      have hsome : (lowerFrom (c :: before) (next :: cs)).getLast?.isSome = true := by
        rw [lowerFrom, he, List.cons_append, List.getLast?_isSome]
        exact List.cons_ne_nil _ _
      obtain ⟨last, hlast⟩ := Option.isSome_iff_exists.1 hsome
      rw [hlast] at hd
      refine ih ?_ (hlast.trans hd)
      rwa [List.getLast?_cons_cons] at h

private theorem getLast?_lower {cs : List Char} (h : ∀ c ∈ cs.getLast?, isBlank c = false) :
    ∀ d ∈ (lower cs).getLast?, isBlank d = false :=
  getLast?_lowerFrom h

/-! ### Occurrences between blanks -/

private theorem infix_append_of_blank {lead needle : List Char} (hlead : Blank lead)
    (hfirst : ∀ c ∈ needle.head?, isBlank c = false) (hne : needle ≠ []) (cs : List Char) :
    needle <:+: lead ++ cs ↔ needle <:+: cs := by
  refine ⟨fun h => ?_, fun h => h.trans (List.suffix_append lead cs).isInfix⟩
  induction lead with
  | nil => exact h
  | cons c lead ih =>
    obtain ⟨hc, hlead⟩ := blank_cons.1 hlead
    obtain ⟨d, ds, rfl⟩ := List.exists_cons_of_ne_nil hne
    rcases List.infix_cons_iff.1 h with hprefix | hbehind
    · obtain ⟨rfl, -⟩ := List.cons_prefix_cons.1 hprefix
      rw [hfirst d rfl] at hc
      cases hc
    · exact ih hlead hbehind

/-- A text with no blank at its ends occurs between the blanks around another one. -/
private theorem infix_between_iff {lead trail needle : List Char} (hlead : Blank lead) (htrail : Blank trail)
    (hfirst : ∀ c ∈ needle.head?, isBlank c = false) (hlast : ∀ c ∈ needle.getLast?, isBlank c = false)
    (hne : needle ≠ []) (cs : List Char) : needle <:+: lead ++ (cs ++ trail) ↔ needle <:+: cs := by
  have hreverse : Blank trail.reverse := fun c hc => htrail c (List.mem_reverse.1 hc)
  rw [infix_append_of_blank hlead hfirst hne, ← List.reverse_infix, List.reverse_append,
    infix_append_of_blank hreverse (by rwa [List.head?_reverse]) (by rwa [ne_eq, List.reverse_eq_nil_iff]),
    List.reverse_infix]

end Chars

/-! ### Mentions -/

namespace Text

/-- A text mentions a term: it contains it, both trimmed and in lower case. -/
def Mentions (content term : String) : Prop :=
  Chars.lower (Chars.trim term.toList) <:+: Chars.lower (Chars.trim content.toList)

instance (content term : String) : Decidable (Mentions content term) :=
  inferInstanceAs (Decidable (_ <:+: _))

private theorem lower_trim_ne_nil_iff {term : String} :
    Chars.lower (Chars.trim term.toList) ≠ [] ↔ isBlank term = false := by
  rw [← Bool.not_eq_true, isBlank_iff, not_iff_not]
  constructor
  · intro h
    refine Chars.trim_eq_nil_iff.1 ?_
    by_contra hne
    exact Chars.lower_ne_nil hne h
  · intro h
    rw [Chars.trim_eq_nil_iff.2 h]
    rfl

/-- The blanks around a content do not matter to a term that is not blank. -/
theorem mentions_iff_contains {content term : String} (hterm : isBlank term = false) :
    Mentions content term ↔
      Chars.contains (Chars.lower content.toList) (Chars.lower (Chars.trim term.toList)) = true := by
  obtain ⟨lead, trail, hcontent, hlead, htrail⟩ := Chars.trim_split content.toList
  have hlower := Chars.lower_between hlead htrail (Chars.trim content.toList)
  rw [← hcontent] at hlower
  rw [Chars.contains_iff_infix, hlower, Mentions,
    Chars.infix_between_iff hlead htrail (Chars.head?_lower (Chars.head?_trim _))
      (Chars.getLast?_lower (Chars.getLast?_trim _)) (lower_trim_ne_nil_iff.2 hterm)]

end Text

/-- Blank terms are never mentioned. -/
theorem Condition.mentionsAny_iff_mentions {terms : List String} {content : String} :
    mentionsAny terms content = true ↔
      ∃ term ∈ terms, Text.isBlank term = false ∧ Text.Mentions content term := by
  simp only [mentionsAny, normalTerms, List.any_eq_true, List.mem_filter, List.mem_map, decide_eq_true_eq]
  constructor
  · rintro ⟨_, ⟨⟨term, hterm, rfl⟩, hne⟩, hcontains⟩
    have hblank := Text.lower_trim_ne_nil_iff.1 hne
    exact ⟨term, hterm, hblank, (Text.mentions_iff_contains hblank).2 hcontains⟩
  · rintro ⟨term, hterm, hblank, hmentions⟩
    exact ⟨_, ⟨⟨term, hterm, rfl⟩, Text.lower_trim_ne_nil_iff.2 hblank⟩, (Text.mentions_iff_contains hblank).1 hmentions⟩

end WorkspaceSearch
