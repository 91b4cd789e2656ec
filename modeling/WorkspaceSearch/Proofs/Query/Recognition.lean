import WorkspaceSearch.Proofs.Query.Sentence

/-!
# What the rules recognise of an item

A rule for tokens recognises its own items and takes the whole item (`hitToken_own`).  It recognises no plain word
(`hitToken_plain`) and no item of another rule (`hitToken_other`), because the tokens of different rules start with
different letters.
-/

namespace WorkspaceSearch.Query

open Chars (Blank Solid IsBreak isBlank solid_cons)
open Rule (hitToken)

/-! ### The first letter of a token -/

/-- The letter that a token starts with which a rule recognises. -/
def Rule.initial : Rule → Option Char
  | .sender => some 'f'
  | .channel => some 'i'
  | .has => some 'h'
  | .before => some 'b'
  | .after => some 'a'
  | .negated => some 'n'
  | .dashed => some '-'
  | _ => none

private theorem initial_injective {ρ σ : Rule} {k : Char} (h : ρ.initial = some k) (h' : σ.initial = some k) :
    ρ = σ := by
  have heq := h.trans h'.symm
  have hnone : ρ.initial ≠ none := by simp [h]
  revert heq hnone
  cases ρ <;> cases σ <;> decide

private theorem initial_ne_s {ρ : Rule} {k : Char} (h : ρ.initial = some k) : k ≠ 's' := by
  rintro rfl
  cases ρ <;> simp [Rule.initial] at h

/-- A character is a form of one letter only. -/
private theorem isKeywordLetter_unique {k l c : Char} (hk : Rule.isKeywordLetter k c = true)
    (hl : Rule.isKeywordLetter l c = true) (hks : k ≠ 's') (hls : l ≠ 's') : k = l := by
  simp only [Rule.isKeywordLetter, Bool.or_eq_true, beq_iff_eq, Bool.and_eq_true, hks, hls, false_and, or_false]
    at hk hl
  exact hk.symm.trans hl

private theorem afterKeyword_cons_of_not {k c : Char} {ks cs : List Char} (h : Rule.isKeywordLetter k c = false) :
    Rule.afterKeyword (k :: ks) (c :: cs) = none := by
  simp [Rule.afterKeyword, h]

/-- A rule recognises only tokens that start with its letter. -/
private theorem hitToken_cons_of_not {ρ : Rule} {k c : Char} {cs : List Char} (hk : ρ.initial = some k)
    (h : Rule.isKeywordLetter k c = false) : hitToken ρ (c :: cs) = none := by
  cases ρ with
  | quoted | wildcard => rfl
  | connector => cases hk
  | sender | channel | has | before | after =>
    obtain rfl := Option.some.inj hk
    exact Rule.hitToken_of_afterKeyword (by decide) (afterKeyword_cons_of_not h)
  | negated =>
    obtain rfl := Option.some.inj hk
    refine Rule.hitToken_negated_of_forall fun d rest hkey => ?_
    rw [afterKeyword_cons_of_not h] at hkey
    cases hkey
  | dashed =>
    obtain rfl := Option.some.inj hk
    refine Rule.hitToken_dashed_of_forall fun rest hdash => ?_
    obtain ⟨rfl, -⟩ := List.cons.inj hdash
    revert h
    decide

/-- The rules other than its own do not recognise a token that starts with the letter of a rule. -/
private theorem hitToken_cons_of_initial {ρ σ : Rule} {k c : Char} (hρ : ρ.initial ≠ none) (hσ : σ.initial = some k)
    (hne : σ ≠ ρ) (hc : Rule.isKeywordLetter k c = true) (cs : List Char) : hitToken ρ (c :: cs) = none := by
  obtain ⟨l, hl⟩ := Option.ne_none_iff_exists'.1 hρ
  refine hitToken_cons_of_not hl ?_
  rw [Bool.eq_false_iff]
  intro hlc
  have hlk : l = k := isKeywordLetter_unique hlc hc (initial_ne_s hl) (initial_ne_s hσ)
  subst hlk
  exact hne (initial_injective hσ hl)

/-! ### Items and the rules -/

/-- The rule that an item is for; none for a plain word. -/
def Item.rule : Item → Option Rule
  | .word _ => none
  | .sender .. => some .sender
  | .channel .. => some .channel
  | .has .. => some .has
  | .before .. => some .before
  | .after .. => some .after
  | .negated .. => some .negated
  | .dashed _ => some .dashed
  | .connector _ => some .connector
  | .quoted .. => some .quoted

/-- What a rule finds in an item. -/
def found : Rule → Item → Option Finding
  | .quoted, i => if i.isQuoted then some .phrase else none
  | .sender, i => i.sender?.map .sender
  | .channel, i => i.channel?.map .channel
  | .has, i => i.tag?.map .has
  | .before, i => i.before?.map fun date => .before (Instant.ofQuery? date)
  | .after, i => i.after?.map fun date => .after (Instant.ofQuery? date)
  | .negated, i => i.negated?.map .exclude
  | .dashed, i => i.dashed?.map .exclude
  | .connector, i => if i.isOr then some .matchAny else none
  | .wildcard, _ => none

theorem found_eq_none {ρ : Rule} {i : Item} (h : i.rule ≠ some ρ) : found ρ i = none := by
  cases i <;> cases ρ <;> first | rfl | exact absurd rfl h

/-- No rule for tokens recognises a plain word. -/
theorem hitToken_plain (ρ : Rule) (w : PlainWord) {rest : List Char} (hr : IsBreak rest) :
    hitToken ρ (w.chars ++ rest) = none := by
  by_cases hρ : ρ ∈ Rule.prefixed
  · have hkey := afterKeyword_eq_none_iff.2 (w.noKeyword ρ hρ)
    have hn : ρ ≠ .negated := fun h => absurd (h ▸ hρ) (by decide)
    have hc : ρ ≠ .connector := fun h => absurd (h ▸ hρ) (by decide)
    rw [Rule.hitToken_append hn hc w.solid w.ne_nil hr, Rule.hitToken_of_afterKeyword hρ hkey]
    rfl
  · cases ρ with
    | quoted | wildcard => rfl
    | negated =>
      exact Rule.hitToken_negated_append w.solid hr fun h => w.notNot (afterKeyword_eq_some_nil_iff.1 h)
    | connector => exact Rule.hitToken_connector_append w.solid hr w.notAnd w.notOr
    | dashed =>
      obtain ⟨c, v, hw⟩ := List.exists_cons_of_ne_nil w.ne_nil
      refine Rule.hitToken_dashed_of_forall fun behind hdash => w.noDash ?_
      rw [hw, List.cons_append] at hdash
      rw [hw, (List.cons.inj hdash).1]
      rfl
    | sender | channel | has | before | after => exact absurd (by decide) hρ

/-- A keyword and a value behind it. -/
private theorem valued_eq {ρ : Rule} (keyword : Keyword ρ) (value : Value) {rest : List Char} (hr : IsBreak rest)
    (finding : String → Finding) :
    hitToken.valued (keyword.chars ++ value.chars ++ rest) ρ.keyword finding =
      some (.found (finding (.ofList value.chars)) rest) := by
  simp only [hitToken.valued, List.append_assoc, Rule.afterKeyword_append_of_forall₂ keyword.spells,
    Option.bind_eq_bind, Option.bind_some, Rule.wordAtFront_append value.solid value.ne_nil hr]

private theorem solid_replicate {c : Char} (hc : isBlank c = false) (n : Nat) : Solid (List.replicate n c) := by
  intro d hd
  rw [List.eq_of_mem_replicate hd]
  exact hc

private theorem dropWhile_sigils {sigil : Char} (n : Nat) (name : Name sigil) :
    (List.replicate n sigil ++ name.chars).dropWhile (· == sigil) = name.chars := by
  obtain ⟨c, v, hname⟩ := List.exists_cons_of_ne_nil name.ne_nil
  have hc : c ≠ sigil := by
    rintro rfl
    exact name.noSigil (by rw [hname]; rfl)
  rw [List.dropWhile_append_of_pos (by simp), hname]
  simp [hc]

/-- A keyword and a name behind it, with sigils between them. -/
private theorem named_eq {ρ : Rule} {sigil : Char} (hsigil : isBlank sigil = false) (keyword : Keyword ρ) (n : Nat)
    (name : Name sigil) {rest : List Char} (hr : IsBreak rest) (finding : String → Finding) :
    hitToken.named (keyword.chars ++ List.replicate n sigil ++ name.chars ++ rest) ρ.keyword sigil finding =
      some (.found (finding (.ofList name.chars)) rest) := by
  have hsolid : Solid (List.replicate n sigil ++ name.chars) :=
    Chars.solid_append.2 ⟨solid_replicate hsigil n, name.solid⟩
  have hword := Rule.wordAtFront_append hsolid (by simp [name.ne_nil]) hr
  rw [List.append_assoc] at hword
  simp only [hitToken.named, List.append_assoc, Rule.afterKeyword_append_of_forall₂ keyword.spells,
    Option.bind_eq_bind, Option.bind_some, hword, dropWhile_sigils]
  split
  · next h => exact absurd h name.ne_nil
  · rfl

/-- A rule recognises its own items, and nothing more. -/
theorem hitToken_own {i : Item} {ρ : Rule} (h : i.rule = some ρ) (hq : ρ ≠ .quoted) (hc : ρ ≠ .connector)
    {rest : List Char} (hr : IsBreak rest) : hitToken ρ (i.text ++ rest) = some ⟨some [' '], found ρ i, rest⟩ := by
  cases i with
  | word w => cases h
  | quoted | connector => exact absurd (Option.some.inj h).symm (by assumption)
  | sender keyword n name =>
    obtain rfl := Option.some.inj h
    exact named_eq (by decide) keyword n name hr .sender
  | channel keyword n name =>
    obtain rfl := Option.some.inj h
    exact named_eq (by decide) keyword n name hr .channel
  | has keyword tag =>
    obtain rfl := Option.some.inj h
    rw [Rule.hitToken_has]
    exact valued_eq keyword tag hr _
  | before keyword date =>
    obtain rfl := Option.some.inj h
    rw [Rule.hitToken_before]
    exact valued_eq keyword date hr _
  | after keyword date =>
    obtain rfl := Option.some.inj h
    rw [Rule.hitToken_after]
    exact valued_eq keyword date hr _
  | negated keyword gap term =>
    obtain rfl := Option.some.inj h
    obtain ⟨c, g, hgap⟩ := List.exists_cons_of_ne_nil gap.ne_nil
    have hblank := gap.blank
    rw [hgap, Chars.blank_cons] at hblank
    have hkey := Rule.afterKeyword_append_of_forall₂ keyword.spells (gap.chars ++ (term.chars ++ rest))
    simp only [Rule.keyword, hgap, List.cons_append] at hkey
    simp only [Item.text, List.append_assoc, hgap, List.cons_append]
    rw [Rule.hitToken_not hkey hblank.1, Chars.trimStart_append_of_blank hblank.2,
      Chars.trimStart_append_of_solid term.solid term.ne_nil, Rule.wordAtFront_append term.solid term.ne_nil hr]
    rfl
  | dashed term =>
    obtain rfl := Option.some.inj h
    rw [Item.text, List.cons_append, Rule.hitToken_dash, Rule.wordAtFront_append term.solid term.ne_nil hr]
    rfl

/-! ### The characters of an item -/

private theorem exists_letter {ks cs : List Char}
    (h : List.Forall₂ (fun k c => Rule.isKeywordLetter k c = true) ks cs) :
    ∀ c ∈ cs, ∃ k ∈ ks, Rule.isKeywordLetter k c = true := by
  induction h with
  | nil => simp
  | cons hc _ ih =>
    intro d hd
    rcases List.mem_cons.1 hd with rfl | hd
    · exact ⟨_, List.mem_cons_self, hc⟩
    · obtain ⟨k, hk, hkd⟩ := ih d hd
      exact ⟨k, List.mem_cons_of_mem _ hk, hkd⟩

private theorem Spells.solid {ρ : Rule} {cs : List Char} (h : Spells ρ cs) : Solid cs := by
  have hsolid : Solid ρ.keyword := by cases ρ <;> decide
  intro c hc
  obtain ⟨k, hk, hkc⟩ := exists_letter h c hc
  rw [Bool.eq_false_iff]
  intro hblank
  rw [Rule.isKeywordLetter_of_isBlank (hsolid k hk) hblank] at hkc
  cases hkc

private theorem Spells.noQuote {ρ : Rule} {cs : List Char} (h : Spells ρ cs) : '"' ∉ cs := by
  intro hc
  obtain ⟨k, hk, hkc⟩ := exists_letter h _ hc
  have hquote : (ρ.keyword.all fun k => !Rule.isKeywordLetter k '"') = true := by cases ρ <;> decide
  have hnot := List.all_eq_true.1 hquote k hk
  rw [hkc] at hnot
  cases hnot

theorem Keyword.solid {ρ : Rule} (keyword : Keyword ρ) : Solid keyword.chars := keyword.spells.solid

theorem Keyword.ne_nil {ρ : Rule} (keyword : Keyword ρ) (hne : ρ.keyword ≠ []) : keyword.chars ≠ [] := by
  intro hnil
  have h := keyword.spells
  rw [Spells, hnil, List.forall₂_nil_right_iff] at h
  exact hne h

/-- A keyword starts with the letter of its rule. -/
private theorem Spells.exists_initial {ρ : Rule} {cs : List Char} (h : Spells ρ cs) (hne : ρ.keyword ≠ []) :
    ∃ k c ds, ρ.initial = some k ∧ cs = c :: ds ∧ Rule.isKeywordLetter k c = true := by
  have hinitial : ρ.initial = ρ.keyword.head? := by
    cases ρ <;> first | rfl | exact absurd rfl hne
  obtain ⟨k, ks, hks⟩ := List.exists_cons_of_ne_nil hne
  rw [Spells, hks] at h
  obtain ⟨c, ds, hc, -, rfl⟩ := List.forall₂_cons_left_iff.1 h
  exact ⟨k, c, ds, by rw [hinitial, hks]; rfl, rfl, hc⟩

/-- An item starts with the letter of its rule. -/
private theorem Item.exists_initial {ρ : Rule} {i : Item} (h : i.rule = some ρ) (hq : ρ ≠ .quoted)
    (hc : ρ ≠ .connector) :
    ∃ k c cs, ρ.initial = some k ∧ i.text = c :: cs ∧ Rule.isKeywordLetter k c = true := by
  have hkeyword : ∀ {σ : Rule} (keyword : Keyword σ) (rest : List Char), σ.keyword ≠ [] →
      ∃ k c cs, σ.initial = some k ∧ keyword.chars ++ rest = c :: cs ∧ Rule.isKeywordLetter k c = true := by
    intro σ keyword rest hne
    obtain ⟨k, c, ds, hk, hds, hkc⟩ := keyword.spells.exists_initial hne
    exact ⟨k, c, ds ++ rest, hk, by rw [hds]; rfl, hkc⟩
  cases i with
  | word => cases h
  | quoted | connector => exact absurd (Option.some.inj h).symm (by assumption)
  | dashed term =>
    obtain rfl := Option.some.inj h
    exact ⟨'-', '-', term.chars, rfl, rfl, by decide⟩
  | sender keyword n name | channel keyword n name =>
    obtain rfl := Option.some.inj h
    simp only [Item.text, List.append_assoc]
    exact hkeyword keyword _ (by decide)
  | has keyword value | before keyword value | after keyword value =>
    obtain rfl := Option.some.inj h
    exact hkeyword keyword _ (by decide)
  | negated keyword gap term =>
    obtain rfl := Option.some.inj h
    simp only [Item.text, List.append_assoc]
    exact hkeyword keyword _ (by decide)

/-- An item that is neither a phrase nor a negation is a single token. -/
theorem Item.solid_text {i : Item} (hq : i.rule ≠ some .quoted) (hn : i.rule ≠ some .negated) : Solid i.text := by
  cases i with
  | word w => exact w.solid
  | quoted => exact absurd rfl hq
  | negated => exact absurd rfl hn
  | dashed term => exact solid_cons.2 ⟨by decide, term.solid⟩
  | connector any => cases any <;> decide
  | sender keyword n name | channel keyword n name =>
    exact Chars.solid_append.2 ⟨Chars.solid_append.2 ⟨keyword.spells.solid, solid_replicate (by decide) n⟩, name.solid⟩
  | has keyword value | before keyword value | after keyword value =>
    exact Chars.solid_append.2 ⟨keyword.spells.solid, value.solid⟩

theorem Item.text_ne_nil (i : Item) : i.text ≠ [] := by
  cases i with
  | word w => exact w.ne_nil
  | connector any => cases any <;> decide
  | sender keyword n name | channel keyword n name => simp [Item.text, name.ne_nil]
  | has keyword value | before keyword value | after keyword value => simp [Item.text, value.ne_nil]
  | negated keyword gap term => simp [Item.text, gap.ne_nil]
  | dashed | quoted => simp [Item.text]

/-- Quotes stand around phrases only. -/
theorem Item.noQuote_text {i : Item} (hq : i.rule ≠ some .quoted) : '"' ∉ i.text := by
  cases i with
  | word w => exact w.noQuote
  | quoted => exact absurd rfl hq
  | dashed term => simp [Item.text, term.noQuote]
  | connector any => cases any <;> decide
  | sender keyword n name | channel keyword n name =>
    simp [Item.text, keyword.spells.noQuote, name.noQuote, List.mem_replicate]
  | has keyword value | before keyword value | after keyword value =>
    simp [Item.text, keyword.spells.noQuote, value.noQuote]
  | negated keyword gap term =>
    simp [Item.text, keyword.spells.noQuote, gap.blank.not_mem (c := '"') (by decide), term.noQuote]

/-! ### The items of other rules -/

private theorem hitToken_connector_text (any : Bool) {ρ : Rule} (hc : ρ ≠ .connector) {rest : List Char}
    (hr : IsBreak rest) : hitToken ρ ((Item.connector any).text ++ rest) = none := by
  have hsolid : Solid (Item.connector any).text := Item.solid_text (by simp [Item.rule]) (by simp [Item.rule])
  by_cases hn : ρ = .negated
  · subst hn
    exact Rule.hitToken_negated_append hsolid hr (by cases any <;> decide)
  · rw [Rule.hitToken_append hn hc hsolid (Item.text_ne_nil _) hr, Option.map_eq_none_iff]
    cases any <;> revert hc <;> cases ρ <;> decide

/-- A rule recognises no item of another rule. -/
theorem hitToken_other {ρ σ : Rule} {i : Item} (h : i.rule = some σ) (hne : σ ≠ ρ) (hq : σ ≠ .quoted)
    (hρ : ρ.initial ≠ none) {rest : List Char} (hr : IsBreak rest) : hitToken ρ (i.text ++ rest) = none := by
  by_cases hc : σ = .connector
  · subst hc
    cases i <;> cases h
    exact hitToken_connector_text _ hne.symm hr
  · obtain ⟨k, c, cs, hk, hcs, hkc⟩ := Item.exists_initial h hq hc
    rw [hcs]
    exact hitToken_cons_of_initial hρ hk hne hkc _

end WorkspaceSearch.Query
