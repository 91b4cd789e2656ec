import WorkspaceSearch.Database.Lookup
import WorkspaceSearch.Condition
import WorkspaceSearch.Proofs.Text.Collapsed

/-!
# Matching ASCII texts

A text occurs in another, case aside, when it is a piece of it once both are in lower case (`Occurs`).  The database
looks for texts by patterns with wildcards, and finds those in which a text occurs as the database reads both
(`Like.isMatch_containing`).  What it answers is checked by searching lower case; on ASCII texts without NUL both come
to the same (`Like.isMatch_containing_of_plain`, `Condition.mentionsAny_iff`).
-/

namespace WorkspaceSearch

namespace Chars

theorem isAsciiUpper_iff {c : Char} : isAsciiUpper c = true ↔ 65 ≤ c.toNat ∧ c.toNat ≤ 90 := by
  rw [isAsciiUpper, Bool.and_eq_true, decide_eq_true_eq, decide_eq_true_eq]
  exact Iff.rfl

theorem toNat_asciiLower (c : Char) : (asciiLower c).toNat = if isAsciiUpper c then c.toNat + 32 else c.toNat := by
  unfold asciiLower
  split
  · next hupper =>
    have hvalid : (c.toNat + 32).isValidChar := .inl (by have := (isAsciiUpper_iff.1 hupper).2; omega)
    rw [Char.ofNat, dif_pos hvalid]
    rfl
  · rfl

/-- Lowering changes nothing into a character that is no letter. -/
private theorem asciiLower_eq_iff {c d : Char} (hd : d.toNat < 65 ∨ 122 < d.toNat) : asciiLower c = d ↔ c = d := by
  rw [← Char.toNat_inj, ← Char.toNat_inj, toNat_asciiLower]
  split
  · next hupper =>
    have hbounds := isAsciiUpper_iff.1 hupper
    omega
  · exact Iff.rfl

private theorem asciiLower_eq_nul {c : Char} : asciiLower c = '\x00' ↔ c = '\x00' :=
  asciiLower_eq_iff (.inl (by decide))

/-- Characters of ASCII other than NUL. -/
def Plain (cs : List Char) : Prop := ∀ c ∈ cs, isAscii c = true ∧ c ≠ '\x00'

instance (cs : List Char) : Decidable (Plain cs) := List.decidableBAll _ cs

/-- One text is a piece of another, the case of ASCII letters aside. -/
def Occurs (needle text : List Char) : Prop := needle.map asciiLower <:+: text.map asciiLower

instance (needle text : List Char) : Decidable (Occurs needle text) := decidable_of_iff _ contains_iff_infix

theorem Plain.of_infix {cs ds : List Char} (h : Plain ds) (hs : cs <:+: ds) : Plain cs :=
  fun c hc => h c (hs.subset hc)

private theorem Plain.not_mem_nul {cs : List Char} (h : Plain cs) : '\x00' ∉ cs := fun hmem => (h _ hmem).2 rfl

theorem Plain.lower_eq {cs : List Char} (h : Plain cs) : lower cs = cs.map asciiLower :=
  lower_of_ascii fun c hc => (h c hc).1

end Chars

namespace Text

/-- A text of ASCII without NUL. -/
def Plain (s : String) : Prop := Chars.Plain s.toList

instance (s : String) : Decidable (Plain s) := inferInstanceAs (Decidable (Chars.Plain _))

/-- One text is a piece of another, the case of ASCII letters aside. -/
def Occurs (needle text : String) : Prop := Chars.Occurs needle.toList text.toList

instance (needle text : String) : Decidable (Occurs needle text) := inferInstanceAs (Decidable (Chars.Occurs _ _))

/-- A text starts with another, the case of ASCII letters aside. -/
def Begins (start text : String) : Prop := start.toList.map Chars.asciiLower <+: text.toList.map Chars.asciiLower

instance (start text : String) : Decidable (Begins start text) := inferInstanceAs (Decidable (_ <+: _))

end Text

open Chars (asciiLower sameLetter)

namespace Like

/-! ### Texts as they are read -/

/-- A text as the database reads it. -/
def seen (s : String) : String := .ofList (s.toList.map read)

private theorem toList_seen (s : String) : (seen s).toList = s.toList.map read := String.toList_ofList

theorem seen_eq_self {s : String} (h : ∀ c ∈ s.toList, c ≠ '\uFFFE' ∧ c ≠ '\uFFFF') : seen s = s := by
  have hread : s.toList.map read = s.toList.map id := List.map_congr_left fun c hc => if_neg (not_or.2 (h c hc))
  rw [seen, hread, List.map_id, String.ofList_toList]

private theorem read_of_isAscii {c : Char} (h : Chars.isAscii c = true) : read c = c := by
  refine if_neg ?_
  rintro (rfl | rfl) <;> exact absurd h (by decide)

private theorem seen_of_plain {s : String} (h : Text.Plain s) : seen s = s := by
  have hread : s.toList.map read = s.toList.map id := List.map_congr_left fun c hc => read_of_isAscii (h c hc).1
  rw [seen, hread, List.map_id, String.ofList_toList]

/-- The case of letters does not bear on how characters are read. -/
private theorem asciiLower_read (c : Char) : asciiLower (read c) = read (asciiLower c) := by
  have hfirst : asciiLower c = '\uFFFE' ↔ c = '\uFFFE' := Chars.asciiLower_eq_iff (.inr (by decide))
  have hsecond : asciiLower c = '\uFFFF' ↔ c = '\uFFFF' := Chars.asciiLower_eq_iff (.inr (by decide))
  simp only [read, hfirst, hsecond]
  split
  · decide
  · rfl

/-- Only a character that is read as it is can match a character of ASCII. -/
private theorem read_eq_self_of_alike {c d : Char} (hc : Chars.isAscii c = true)
    (h : asciiLower (read d) = asciiLower c) : read d = d := by
  refine if_neg fun hd => ?_
  have hread : read d = '\uFFFD' := if_pos hd
  rw [hread, eq_comm, Chars.asciiLower_eq_iff (.inr (by decide))] at h
  rw [h] at hc
  exact absurd hc (by decide)

/-! ### Patterns -/

theorem anySuffix_iff {p : List Char → Bool} {cs : List Char} :
    anySuffix p cs = true ↔ ∃ rest, rest <:+ cs ∧ p rest = true := by
  induction cs with
  | nil => simp [anySuffix]
  | cons c cs ih =>
    rw [anySuffix, Bool.or_eq_true, ih]
    constructor
    · rintro (h | ⟨rest, hrest, h⟩)
      · exact ⟨_, List.suffix_rfl, h⟩
      · exact ⟨rest, hrest.trans (List.suffix_cons c cs), h⟩
    · rintro ⟨rest, hrest, h⟩
      rcases List.suffix_cons_iff.1 hrest with rfl | hrest
      · exact .inl h
      · exact .inr ⟨rest, hrest, h⟩

/-- Any run at the end of a pattern matches whatever is left. -/
private theorem matchTokens_anyRun (text : List Char) : matchTokens [.anyRun] text = true :=
  anySuffix_iff.2 ⟨[], List.nil_suffix, rfl⟩

/-- Letters match at the front as they are read, case aside. -/
private theorem matchTokens_letters {needle text : List Char} :
    matchTokens (needle.map .letter ++ [.anyRun]) text = true ↔
      (needle.map read).map asciiLower <+: (text.map read).map asciiLower := by
  induction needle generalizing text with
  | nil => exact iff_of_true (matchTokens_anyRun text) List.nil_prefix
  | cons c needle ih =>
    cases text with
    | nil => simp [matchTokens]
    | cons d text =>
      simp only [List.map_cons, List.cons_append, matchTokens, Bool.and_eq_true, ih, List.cons_prefix_cons, alike,
        sameLetter, beq_iff_eq]

private theorem mem_escape {c : Char} {cs : List Char} (hc : c ≠ '\\') : c ∈ escape cs ↔ c ∈ cs := by
  induction cs with
  | nil => rfl
  | cons d cs ih =>
    rw [escape]
    split <;> simp [ih, hc]

/-- A pattern looks for a text in front of the first NUL. -/
private theorem isMatch_containing_iff {needle text : String} (hneedle : '\x00' ∉ needle.toList) :
    isMatch (containing needle) text = true ↔
      Chars.Occurs (needle.toList.map read) ((Chars.beforeNul text.toList).map read) := by
  have hnul : '\x00' ∉ '%' :: escape needle.toList ++ ['%'] := by
    have hescape : '\x00' ∉ escape needle.toList := (mem_escape (by decide)).not.2 hneedle
    simpa using hescape
  have htokens : tokens? ('%' :: escape needle.toList ++ ['%']) =
      some (.anyRun :: (needle.toList.map .letter ++ [.anyRun])) := by
    rw [List.cons_append, tokens?, tokens?_escape_append]
    rfl
  simp only [isMatch, containing, String.toList_ofList, Chars.beforeNul_of_not_mem hnul, htokens, matchTokens,
    anySuffix_iff, matchTokens_letters]
  generalize Chars.beforeNul text.toList = cs
  constructor
  · rintro ⟨rest, hrest, hfront⟩
    exact hfront.isInfix.trans ((hrest.map read).map asciiLower).isInfix
  · rintro ⟨before, after, h⟩
    refine ⟨cs.drop before.length, List.drop_suffix _ _, ?_⟩
    rw [List.map_drop, List.map_drop, ← h, List.append_assoc, List.drop_left]
    exact List.prefix_append _ _

/-- A pattern finds the texts in which a text occurs, both as they are read. -/
theorem isMatch_containing {needle text : String} (hneedle : '\x00' ∉ needle.toList) (htext : '\x00' ∉ text.toList) :
    isMatch (containing needle) text = true ↔ Text.Occurs (seen needle) (seen text) := by
  rw [isMatch_containing_iff hneedle, Chars.beforeNul_of_not_mem htext, Text.Occurs, toList_seen, toList_seen]

theorem isMatch_containing_of_plain {needle text : String} (hneedle : Text.Plain needle) (htext : Text.Plain text) :
    isMatch (containing needle) text = true ↔ Text.Occurs needle text := by
  rw [isMatch_containing hneedle.not_mem_nul htext.not_mem_nul, seen_of_plain hneedle, seen_of_plain htext]

/-- The ASCII text that a pattern finds in a text occurs in it. -/
private theorem occurs_of_isMatch {needle text : String} (hneedle : Text.Plain needle)
    (h : isMatch (containing needle) text = true) : Text.Occurs needle text := by
  have hfront : Chars.beforeNul text.toList <+: text.toList := List.takeWhile_prefix _
  have hoccurs := (isMatch_containing_iff hneedle.not_mem_nul).1 h
  rw [← toList_seen, seen_of_plain hneedle] at hoccurs
  obtain ⟨before, after, hsplit⟩ := hoccurs.trans ((hfront.map read).map asciiLower).isInfix
  rw [List.map_map] at hsplit
  obtain ⟨start, rest, htext, hstart, -⟩ := List.map_eq_append_iff.1 hsplit.symm
  obtain ⟨front, piece, rfl, -, hpiece⟩ := List.map_eq_append_iff.1 hstart
  -- the piece that is found is one of ASCII, so nothing in it is read as something else
  have hread : piece.map (asciiLower ∘ read) = piece.map asciiLower := by
    refine List.map_congr_left fun d hd => congrArg asciiLower ?_
    obtain ⟨c, hc, heq⟩ := List.mem_map.1 (hpiece ▸ List.mem_map_of_mem hd)
    exact read_eq_self_of_alike (hneedle c hc).1 heq.symm
  refine ⟨front.map asciiLower, rest.map asciiLower, ?_⟩
  rw [← hpiece, hread, htext, List.map_append, List.map_append]

/-- What occurs in a text without NUL is found in it. -/
theorem isMatch_of_occurs {needle text : String} (htext : '\x00' ∉ text.toList) (h : Text.Occurs needle text) :
    isMatch (containing needle) text = true := by
  have hneedle : '\x00' ∉ needle.toList := by
    intro hmem
    obtain ⟨c, hc, hnul⟩ := List.mem_map.1 (h.subset (List.mem_map_of_mem hmem))
    exact htext (Chars.asciiLower_eq_nul.1 hnul ▸ hc)
  have hread : asciiLower ∘ read = read ∘ asciiLower := funext asciiLower_read
  rw [isMatch_containing hneedle htext, Text.Occurs, Chars.Occurs, toList_seen, toList_seen, List.map_map, List.map_map,
    hread, ← List.map_map, ← List.map_map]
  exact h.map read

private theorem read_eq_nul {c : Char} : read c = '\x00' ↔ c = '\x00' := by
  unfold read
  split
  · next h => rcases h with rfl | rfl <;> decide
  · exact Iff.rfl

/-- A beginning without NUL ends in front of the first NUL. -/
private theorem prefix_beforeNul_iff {start text : List Char} (hstart : '\x00' ∉ start) :
    (start.map read).map asciiLower <+: ((Chars.beforeNul text).map read).map asciiLower ↔
      (start.map read).map asciiLower <+: (text.map read).map asciiLower := by
  have hfront : Chars.beforeNul text <+: text := List.takeWhile_prefix _
  refine ⟨fun h => h.trans ((hfront.map read).map asciiLower), fun h => ?_⟩
  induction start generalizing text with
  | nil => exact List.nil_prefix
  | cons c start ih =>
    cases text with
    | nil => exact h
    | cons d text =>
      simp only [List.map_cons, List.cons_prefix_cons] at h
      obtain ⟨hc, hrest⟩ := not_or.1 (List.mem_cons.not.1 hstart)
      have hd : (d != '\x00') = true := by
        rw [bne_iff_ne]
        rintro rfl
        exact hc (read_eq_nul.1 (Chars.asciiLower_eq_nul.1 h.1)).symm
      have hkept : Chars.beforeNul (d :: text) = d :: Chars.beforeNul text := List.takeWhile_cons_of_pos hd
      simp only [hkept, List.map_cons, List.cons_prefix_cons]
      exact ⟨h.1, ih hrest (List.takeWhile_prefix _) h.2⟩

/-- A pattern finds the texts with a beginning, both as they are read. -/
theorem isMatch_startingWith {start text : String} (hstart : '\x00' ∉ start.toList) :
    isMatch (startingWith start) text = true ↔ Text.Begins (seen start) (seen text) := by
  have hnul : '\x00' ∉ escape start.toList ++ ['%'] := by
    have hescape : '\x00' ∉ escape start.toList := (mem_escape (by decide)).not.2 hstart
    simpa using hescape
  have htokens : tokens? (escape start.toList ++ ['%']) = some (start.toList.map .letter ++ [.anyRun]) := by
    rw [tokens?_escape_append]
    rfl
  simp only [isMatch, startingWith, String.toList_ofList, Chars.beforeNul_of_not_mem hnul, htokens, matchTokens_letters,
    prefix_beforeNul_iff hstart, Text.Begins, toList_seen]

end Like

private theorem containing_http : Like.containing "http" = "%http%" := by decide

/-- A content has a link when it mentions the start of an address. -/
theorem Database.hasLink_iff {content : String} (h : Text.Plain content) :
    hasLink content = true ↔ Text.Occurs "http" content := by
  rw [hasLink, ← containing_http, Like.isMatch_containing_of_plain (by decide) h]

theorem Database.occurs_of_hasLink {content : String} (h : hasLink content = true) : Text.Occurs "http" content := by
  rw [hasLink, ← containing_http] at h
  exact Like.occurs_of_isMatch (by decide) h

/-! ### Conditions on texts -/

/-- A word: a text that is not empty and holds no blanks. -/
def Text.IsWord (s : String) : Prop := s.toList ≠ [] ∧ Chars.Solid s.toList

private theorem trim_of_isWord {s : String} (h : Text.IsWord s) : Chars.trim s.toList = s.toList :=
  (Chars.collapsed_of_solid h.2 h.1).trim_eq

private theorem isBlank_of_isWord {s : String} (h : Text.IsWord s) : Text.isBlank s = false := by
  rw [Bool.eq_false_iff]
  intro hblank
  have htrim := Chars.trim_eq_nil_iff.2 (Text.isBlank_iff.1 hblank)
  rw [trim_of_isWord h] at htrim
  exact h.1 htrim

theorem Chars.exists_lowerAt (before : List Char) (c : Char) (after : List Char) :
    ∃ d ds, lowerAt before c after = d :: ds := by
  unfold lowerAt
  split
  · exact ⟨_, _, rfl⟩
  · split <;> exact ⟨_, _, rfl⟩

theorem Chars.lower_ne_nil {cs : List Char} (h : cs ≠ []) : lower cs ≠ [] := by
  obtain ⟨c, cs, rfl⟩ := List.exists_cons_of_ne_nil h
  obtain ⟨d, ds, hd⟩ := exists_lowerAt [] c cs
  rw [lower, lowerFrom, hd]
  exact List.cons_ne_nil _ _

/-- The lower case of a word is one of the terms that are looked for. -/
private theorem Condition.lower_mem_normalTerms {terms : List String} {term : String} (hmem : term ∈ terms)
    (hword : Text.IsWord term) : Chars.lower term.toList ∈ normalTerms terms := by
  refine List.mem_filter.2 ⟨List.mem_map.2 ⟨term, hmem, by rw [trim_of_isWord hword]⟩, ?_⟩
  exact decide_eq_true (Chars.lower_ne_nil hword.1)

/-- A content that mentions none of some terms contains no word among them, both in lower case. -/
theorem Condition.not_infix_of_mentionsAny {terms : List String} {content term : String}
    (h : mentionsAny terms content = false) (hmem : term ∈ terms) (hword : Text.IsWord term) :
    ¬Chars.lower term.toList <:+: Chars.lower content.toList := by
  intro hpiece
  have hnone := List.any_eq_false.1 h _ (lower_mem_normalTerms hmem hword)
  exact hnone (Chars.contains_iff_infix.2 hpiece)

/-- A plain content mentions a word exactly when the word occurs in it. -/
theorem Condition.mentionsAny_iff {terms : List String} {content : String}
    (hterms : ∀ term ∈ terms, Text.IsWord term ∧ Text.Plain term) (hcontent : Text.Plain content) :
    mentionsAny terms content = true ↔ ∃ term ∈ terms, Text.Occurs term content := by
  have hnormal : normalTerms terms = terms.map fun term => term.toList.map asciiLower := by
    have hlower : terms.map (fun t => Chars.lower (Chars.trim t.toList)) =
        terms.map fun term => term.toList.map asciiLower := by
      refine List.map_congr_left fun term hterm => ?_
      obtain ⟨hword, hplain⟩ := hterms term hterm
      rw [trim_of_isWord hword]
      exact Chars.Plain.lower_eq hplain
    rw [normalTerms, hlower, List.filter_eq_self]
    intro cs hcs
    obtain ⟨term, hterm, rfl⟩ := List.mem_map.1 hcs
    simpa using (hterms term hterm).1.1
  simp only [mentionsAny, hnormal, List.any_map, List.any_eq_true, Function.comp_apply, Chars.contains_iff_infix,
    hcontent.lower_eq]
  rfl

namespace TextMatch

variable {t : TextMatch} {columns : List String} {primary : String}

private theorem excluded_eq (hterms : ∀ term ∈ t.exclude, Text.IsWord term) : t.excluded = t.exclude := by
  have hkept : t.exclude.filter (fun term => !Text.isBlank term) = t.exclude := by
    rw [List.filter_eq_self]
    intro term hterm
    rw [isBlank_of_isWord (hterms term hterm)]
    rfl
  have htrim : ∀ term ∈ t.exclude, Text.trim term = id term := by
    intro term hterm
    rw [Text.trim, trim_of_isWord (hterms term hterm), String.ofList_toList]
    rfl
  rw [excluded, hkept, List.map_congr_left htrim, List.map_id]

/-- A plain text is spared exactly when none of the excluded words occurs in it. -/
theorem sparesText_iff (hterms : ∀ term ∈ t.exclude, Text.IsWord term ∧ Text.Plain term)
    (hprimary : Text.Plain primary) :
    t.sparesText primary = true ↔ ∀ term ∈ t.exclude, ¬Text.Occurs term primary := by
  rw [sparesText, excluded_eq fun term hterm => (hterms term hterm).1, List.all_eq_true]
  refine forall₂_congr fun term hterm => ?_
  have hmatch := Like.isMatch_containing_of_plain (hterms term hterm).2 hprimary
  rw [Bool.not_eq_true', ← hmatch, Bool.not_eq_true]

/-- A text is found in plain columns exactly when it occurs in one of them. -/
theorem findsIn_iff (hneedles : ∀ needle ∈ t.needles, Text.Plain needle)
    (hcolumns : ∀ column ∈ columns, Text.Plain column) :
    t.findsIn columns = true ↔
      t.needles = [] ∨ ∃ needle ∈ t.needles, ∃ column ∈ columns, Text.Occurs needle column := by
  simp only [findsIn, Bool.or_eq_true, List.isEmpty_iff, List.any_eq_true]
  refine or_congr_right (exists_congr fun needle => and_congr_right fun hneedle => ?_)
  refine exists_congr fun column => and_congr_right fun hcolumn => ?_
  exact Like.isMatch_containing_of_plain (hneedles needle hneedle) (hcolumns column hcolumn)

end TextMatch

end WorkspaceSearch
