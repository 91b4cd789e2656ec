import WorkspaceSearch.Proofs.Text.Matching

/-!
# What wildcards stand for

A written pattern stands for a set of texts (`StandsFor`): `%` for any run of characters, `_` for any one, a character
behind a backslash for itself, and every other character for itself as well, the case of ASCII letters aside and as the
database reads them.  The matcher, which tries the runs one after the other, finds exactly these texts
(`matchTokens_iff`).

A pattern that is written for a text has every wildcard of the text behind a backslash.  So it stands for the texts that
contain the text, or start with it, and for no others (`finds_exactly`), up to the two characters that the database
reads as another (`finds_misread`).
-/

namespace WorkspaceSearch.Like

/-- The texts that a written pattern stands for. -/
inductive StandsFor : List Char → List Char → Prop where
  | done : StandsFor [] []
  | anyRun {pattern text : List Char} (run : List Char) :
    StandsFor pattern text → StandsFor ('%' :: pattern) (run ++ text)
  | anyOne {pattern text : List Char} (c : Char) :
    StandsFor pattern text → StandsFor ('_' :: pattern) (c :: text)
  | escaped {pattern text : List Char} {c d : Char} :
    alike c d = true → StandsFor pattern text → StandsFor ('\\' :: c :: pattern) (d :: text)
  | plain {pattern text : List Char} {c d : Char} :
    isSpecial c = false → alike c d = true → StandsFor pattern text → StandsFor (c :: pattern) (d :: text)

/-! ### Inversion, one lemma for each way a pattern begins -/

private theorem standsFor_nil {text : List Char} : StandsFor [] text ↔ text = [] := by
  constructor
  · intro h
    cases h
    rfl
  · rintro rfl
    exact .done

private theorem standsFor_anyRun {pattern text : List Char} :
    StandsFor ('%' :: pattern) text ↔ ∃ rest, rest <:+ text ∧ StandsFor pattern rest := by
  constructor
  · intro h
    cases h with
    | anyRun run h => exact ⟨_, List.suffix_append run _, h⟩
    | plain hspecial _ _ => exact absurd hspecial (by decide)
  · rintro ⟨rest, ⟨run, rfl⟩, h⟩
    exact .anyRun run h

private theorem standsFor_anyOne {pattern text : List Char} :
    StandsFor ('_' :: pattern) text ↔ ∃ c rest, text = c :: rest ∧ StandsFor pattern rest := by
  constructor
  · intro h
    cases h with
    | anyOne c h => exact ⟨c, _, rfl, h⟩
    | plain hspecial _ _ => exact absurd hspecial (by decide)
  · rintro ⟨c, rest, rfl, h⟩
    exact .anyOne c h

private theorem standsFor_escaped {pattern text : List Char} {c : Char} :
    StandsFor ('\\' :: c :: pattern) text ↔
      ∃ d rest, text = d :: rest ∧ alike c d = true ∧ StandsFor pattern rest := by
  constructor
  · intro h
    cases h with
    | escaped hletter h => exact ⟨_, _, rfl, hletter, h⟩
    | plain hspecial _ _ => exact absurd hspecial (by decide)
  · rintro ⟨d, rest, rfl, hletter, h⟩
    exact .escaped hletter h

/-- A backslash at the end has nothing to escape. -/
private theorem not_standsFor_backslash {text : List Char} : ¬StandsFor ['\\'] text := by
  intro h
  cases h with
  | plain hspecial _ _ => exact absurd hspecial (by decide)

private theorem standsFor_plain {pattern text : List Char} {c : Char} (hc : isSpecial c = false) :
    StandsFor (c :: pattern) text ↔
      ∃ d rest, text = d :: rest ∧ alike c d = true ∧ StandsFor pattern rest := by
  constructor
  · intro h
    cases h with
    | anyRun _ _ => exact absurd hc (by decide)
    | anyOne _ _ => exact absurd hc (by decide)
    | escaped _ _ => exact absurd hc (by decide)
    | plain _ hletter h => exact ⟨_, _, rfl, hletter, h⟩
  · rintro ⟨d, rest, rfl, hletter, h⟩
    exact .plain hc hletter h

/-! ### The matcher -/

private theorem matchTokens_anyRun_cons {ts : List Token} {text : List Char} :
    matchTokens (.anyRun :: ts) text = true ↔ ∃ rest, rest <:+ text ∧ matchTokens ts rest = true := by
  rw [matchTokens, anySuffix_iff]

private theorem matchTokens_anyOne_cons {ts : List Token} {text : List Char} :
    matchTokens (.anyOne :: ts) text = true ↔ ∃ c rest, text = c :: rest ∧ matchTokens ts rest = true := by
  cases text <;> simp [matchTokens]

private theorem matchTokens_letter_cons {ts : List Token} {c : Char} {text : List Char} :
    matchTokens (.letter c :: ts) text = true ↔
      ∃ d rest, text = d :: rest ∧ alike c d = true ∧ matchTokens ts rest = true := by
  cases text <;> simp [matchTokens]

private theorem isSpecial_eq_false {c : Char} (hbackslash : c ≠ '\\') (hrun : c ≠ '%') (hone : c ≠ '_') :
    isSpecial c = false := by
  simp [isSpecial, hbackslash, hrun, hone]

private theorem exists_tokens_cons {o : Option (List Token)} {t : Token} {p : List Token → Prop} :
    (∃ ts, o.map (t :: ·) = some ts ∧ p ts) ↔ ∃ ts, o = some ts ∧ p (t :: ts) := by
  simp [Option.map_eq_some_iff]

private theorem tokens?_plain {c : Char} (hc : isSpecial c = false) (pattern : List Char) :
    tokens? (c :: pattern) = (tokens? pattern).map (.letter c :: ·) := by
  have hread := tokens?_escape_append [c] pattern
  simpa [escape, hc] using hread

/-- The matcher finds the texts that a pattern stands for; a pattern that cannot be read stands for none. -/
theorem matchTokens_iff {pattern text : List Char} :
    (∃ ts, tokens? pattern = some ts ∧ matchTokens ts text = true) ↔ StandsFor pattern text := by
  induction pattern using tokens?.induct generalizing text with
  | case1 => simp [tokens?, matchTokens, standsFor_nil]
  | case2 => simp [tokens?, not_standsFor_backslash]
  | case3 c pattern ih =>
    simp only [tokens?, exists_tokens_cons, matchTokens_letter_cons, standsFor_escaped, ← ih]
    grind
  | case4 pattern ih =>
    simp only [tokens?, exists_tokens_cons, matchTokens_anyRun_cons, standsFor_anyRun, ← ih]
    grind
  | case5 pattern ih =>
    simp only [tokens?, exists_tokens_cons, matchTokens_anyOne_cons, standsFor_anyOne, ← ih]
    grind
  | case6 c pattern hlast hbackslash hrun hone ih =>
    have hc : isSpecial c = false := by
      cases pattern with
      | nil => exact isSpecial_eq_false (fun h => hlast h rfl) hrun hone
      | cons d pattern => exact isSpecial_eq_false (fun h => hbackslash d pattern h rfl) hrun hone
    simp only [tokens?_plain hc, exists_tokens_cons, matchTokens_letter_cons, standsFor_plain hc, ← ih]
    grind

private theorem isMatch_iff {pattern text : String} (hpattern : '\x00' ∉ pattern.toList)
    (htext : '\x00' ∉ text.toList) : isMatch pattern text = true ↔ StandsFor pattern.toList text.toList := by
  rw [isMatch, Chars.beforeNul_of_not_mem hpattern, Chars.beforeNul_of_not_mem htext, ← matchTokens_iff]
  cases tokens? pattern.toList <;> simp

/-! ### What is found -/

private theorem test?_of_not_isTooLong {pattern : String} (h : isTooLong pattern = false) (text : String) :
    test? pattern text = some (isMatch pattern text) := by
  rw [test?, h]
  rfl

/-- What patterns find in a text, both without NUL and the pattern no longer than patterns may be.

* Any pattern finds the texts that it stands for.
* The pattern written to look for a text finds the texts that contain it, ASCII letters in either case, whatever
  wildcards and backslashes it holds.
* The pattern written to look for a beginning finds the texts that start with it.
* Here both texts are taken as the database reads them, and it reads a text as it is unless the text holds U+FFFE or
  U+FFFF. -/
theorem finds_exactly {needle text : String} (hneedle : '\x00' ∉ needle.toList) (htext : '\x00' ∉ text.toList) :
    (∀ pattern : String, '\x00' ∉ pattern.toList → isTooLong pattern = false →
      ∃ found, test? pattern text = some found ∧ (found = true ↔ StandsFor pattern.toList text.toList)) ∧
    (isTooLong (containing needle) = false →
      test? (containing needle) text = some (decide (Text.Occurs (seen needle) (seen text)))) ∧
    (isTooLong (startingWith needle) = false →
      test? (startingWith needle) text = some (decide (Text.Begins (seen needle) (seen text)))) ∧
    ∀ s : String, (∀ c ∈ s.toList, c ≠ '\uFFFE' ∧ c ≠ '\uFFFF') → seen s = s := by
  refine ⟨fun pattern hpattern hlength => ?_, fun hlength => ?_, fun hlength => ?_, fun s => seen_eq_self⟩
  · exact ⟨_, test?_of_not_isTooLong hlength text, isMatch_iff hpattern htext⟩
  · have hfound : isMatch (containing needle) text = decide (Text.Occurs (seen needle) (seen text)) := by
      rw [Bool.eq_iff_iff, isMatch_containing hneedle htext, decide_eq_true_iff]
    rw [test?_of_not_isTooLong hlength, hfound]
  · have hfound : isMatch (startingWith needle) text = decide (Text.Begins (seen needle) (seen text)) := by
      rw [Bool.eq_iff_iff, isMatch_startingWith hneedle, decide_eq_true_iff]
    rw [test?_of_not_isTooLong hlength, hfound]

/-- A backslash in front of a wildcard, both of the text that is looked for. -/
theorem finds_exactly_backslash :
    '\x00' ∉ "\\%_\\".toList ∧ '\x00' ∉ "a\\%_\\B".toList ∧ '\x00' ∉ "A\\\\_%".toList ∧
      isTooLong "A\\\\_%" = false ∧ isTooLong (containing "\\%_\\") = false ∧
      isTooLong (startingWith "\\%_\\") = false ∧
      (∀ c ∈ "a\\%_\\B".toList, c ≠ '\uFFFE' ∧ c ≠ '\uFFFF') ∧
      (∃ found, test? "A\\\\_%" "a\\%_\\B" = some found ∧
        (found = true ↔ StandsFor "A\\\\_%".toList "a\\%_\\B".toList)) ∧
      test? (containing "\\%_\\") "a\\%_\\B" = some true ∧
      test? (startingWith "\\%_\\") "a\\%_\\B" = some false ∧
      seen "a\\%_\\B" = "a\\%_\\B" := by
  have hneedle : '\x00' ∉ "\\%_\\".toList := by decide
  have htext : '\x00' ∉ "a\\%_\\B".toList := by decide
  have hpattern : '\x00' ∉ "A\\\\_%".toList := by decide
  have hlength : isTooLong "A\\\\_%" = false := by decide
  have hcontaining : isTooLong (containing "\\%_\\") = false := by decide
  have hstarting : isTooLong (startingWith "\\%_\\") = false := by decide
  have hchars : ∀ c ∈ "a\\%_\\B".toList, c ≠ '\uFFFE' ∧ c ≠ '\uFFFF' := by simp
  obtain ⟨hany, hcontain, hstart, hseen⟩ := finds_exactly hneedle htext
  refine ⟨hneedle, htext, hpattern, hlength, hcontaining, hstarting, hchars, hany _ hpattern hlength, ?_, ?_,
    hseen _ hchars⟩
  · rw [hcontain hcontaining]
    decide
  · rw [hstart hstarting]
    decide

/-- U+FFFE is found in a text that holds nothing but U+FFFF, and at its beginning. -/
theorem finds_misread :
    '\x00' ∉ "\uFFFE".toList ∧ '\x00' ∉ "\uFFFF".toList ∧
      test? (containing "\uFFFE") "\uFFFF" = some true ∧ ¬Text.Occurs "\uFFFE" "\uFFFF" ∧
      test? (startingWith "\uFFFE") "\uFFFF" = some true ∧ ¬Text.Begins "\uFFFE" "\uFFFF" := by
  decide

end WorkspaceSearch.Like
