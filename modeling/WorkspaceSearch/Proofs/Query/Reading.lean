import WorkspaceSearch.Proofs.Query.Recognition

/-!
# Reading a sentence

The ten rules read a sentence as its grammar says.  Each rule for tokens with a value leaves a space in place of its
own items and of the last blank in front of them, and the other items as they are (`scan_shown`).  What is then left
are plain words, blanks and connectors (`Plain`); the rule for connectors eats a blank on both sides, and as no two
connectors are neighbours every connector still has its blank in front of it (`scan_connectors`).
-/

namespace WorkspaceSearch

namespace Query

open Chars (Blank Solid IsBreak isBlank)
open Rule (hitToken IsOfTokens scan scanBehind)

/-! ### Plain text -/

/-- A text of plain words and blanks, with its words. -/
inductive Plain : List (List Char) → List Char → Prop
  | blank {g : List Char} (hg : Blank g) : Plain [] g
  | word {g : List Char} (hg : Blank g) (w : PlainWord) {ws : List (List Char)} {cs : List Char} (hcs : Plain ws cs)
    (hbreak : IsBreak cs) : Plain (w.chars :: ws) (g ++ (w.chars ++ cs))

namespace Plain

variable {ws : List (List Char)} {cs : List Char}

/-- No rule for tokens finds anything in plain text. -/
private theorem scan_append {ρ : Rule} (hρ : IsOfTokens ρ) (h : Plain ws cs) {b : Bool} (hb : b = false ∨ cs ≠ [])
    {rest : List Char} (hr : IsBreak rest) :
    scan ρ b (cs ++ rest) = (cs ++ (scan ρ false rest).1, (scan ρ false rest).2) := by
  induction h generalizing b with
  | @blank g hg =>
    by_cases hnil : g = []
    · subst hnil
      obtain rfl := hb.resolve_right (by simp)
      rfl
    · exact Rule.scan_blank hρ hg hnil (Rule.hitToken_of_isBreak ρ hr) b
  | word hg w hcs hbreak ih =>
    have hnone := hitToken_plain ρ w (hbreak.append hr)
    rw [List.append_assoc, List.append_assoc, Rule.scan_word hρ hg w.solid w.ne_nil hnone, ih (.inl rfl)]
    simp only [List.append_assoc]

/-- The words of plain text. -/
private theorem words_append (h : Plain ws cs) {rest : List Char} (hr : IsBreak rest) :
    Chars.words (cs ++ rest) = ws ++ Chars.words rest := by
  induction h with
  | blank hg => exact Chars.words_append_of_blank hg rest
  | word hg w hcs hbreak ih =>
    rw [List.append_assoc, List.append_assoc, Chars.words_append_of_blank hg,
      Chars.words_append_of_solid w.solid w.ne_nil (hbreak.append hr), ih]
    rfl

private theorem noAsterisk (h : Plain ws cs) : '*' ∉ cs := by
  have hasterisk : Chars.isBlank '*' = false := by decide
  induction h with
  | blank hg => exact hg.not_mem hasterisk
  | word hg w hcs hbreak ih => simp [hg.not_mem hasterisk, w.noAsterisk, ih]

/-- Plain text that starts with a blank is still plain without it. -/
private theorem tail (h : Plain ws cs) (hb : IsBreak cs) : Plain ws cs.tail := by
  cases h with
  | blank hg => exact .blank fun c hc => hg c (List.mem_of_mem_tail hc)
  | word hg w hcs hbreak =>
    rename_i g _ _
    cases g with
    | nil =>
      obtain ⟨c, v, hw⟩ := List.exists_cons_of_ne_nil w.ne_nil
      have hsolid := w.solid
      rw [hw, Chars.solid_cons] at hsolid
      rw [hw] at hb
      rw [Chars.isBreak_cons.1 hb] at hsolid
      cases hsolid.1
    | cons c g => exact .word (Chars.blank_cons.1 hg).2 w hcs hbreak

/-- Blanks behind plain text add nothing. -/
private theorem append_blank (h : Plain ws cs) {g : List Char} (hg : Blank g) : Plain ws (cs ++ g) := by
  induction h with
  | blank hg' => exact .blank (Chars.blank_append.2 ⟨hg', hg⟩)
  | word hg' w hcs hbreak ih =>
    rw [List.append_assoc, List.append_assoc]
    exact .word hg' w ih (hbreak.append hg.isBreak)

end Plain

/-! ### What the rules leave -/

private theorem isBreak_more (more : List (Gap × PlainWord)) :
    IsBreak (more.flatMap fun p => p.1.chars ++ p.2.chars) := by
  cases more with
  | nil => exact IsBreak.nil
  | cons p more =>
    rw [List.flatMap_cons, List.append_assoc]
    exact p.1.blank.isBreak_append_of_ne_nil p.1.ne_nil _

private theorem plain_more (more : List (Gap × PlainWord)) :
    Plain (more.map fun p => p.2.chars) (more.flatMap fun p => p.1.chars ++ p.2.chars) := by
  induction more with
  | nil => exact .blank Blank.nil
  | cons p more ih =>
    rw [List.flatMap_cons, List.append_assoc]
    exact .word p.1.blank p.2 ih (isBreak_more more)

private theorem plain_phrase {g : List Char} (hg : Blank g) (first : PlainWord) (more : List (Gap × PlainWord)) :
    Plain (first.chars :: more.map fun p => p.2.chars) (g ++ Item.phrase first more) :=
  .word hg first (plain_more more) (isBreak_more more)

/-- What is left of an item and the blanks in front of it when its rule has been applied. -/
private def Item.leftover (g : List Char) : Item → List Char
  | .word w => g ++ w.chars
  | .quoted _ first more _ => g ++ [' '] ++ phrase first more ++ [' ']
  | _ => g.dropLast ++ [' ']

private theorem Item.plain_leftover {g : List Char} (hg : Blank g) (i : Item) : Plain i.words (i.leftover g) := by
  have hspace : Plain [] (g.dropLast ++ [' ']) := .blank (Chars.blank_append.2 ⟨hg.dropLast, Blank.space⟩)
  cases i with
  | word w =>
    have := Plain.word hg w (.blank Blank.nil) IsBreak.nil
    rwa [List.append_nil] at this
  | quoted lead first more trail =>
    exact (plain_phrase (Chars.blank_append.2 ⟨hg, Blank.space⟩) first more).append_blank Blank.space
  | _ => exact hspace

private theorem Item.leftover_ne_nil (g : List Char) (i : Item) : i.leftover g ≠ [] := by
  cases i <;> simp [leftover, Value.ne_nil]

private theorem Item.isBreak_leftover {g : List Char} (hg : Blank g) (hne : g ≠ []) (i : Item) (rest : List Char) :
    IsBreak (i.leftover g ++ rest) := by
  have hspace : IsBreak (g.dropLast ++ [' '] ++ rest) :=
    (Chars.blank_append.2 ⟨hg.dropLast, Blank.space⟩).isBreak_append_of_ne_nil (by simp) rest
  cases i with
  | word | quoted =>
    simp only [leftover, List.append_assoc]
    exact hg.isBreak_append_of_ne_nil hne _
  | _ => exact hspace

/-- An item and the blanks in front of it, when some of the rules have been applied. -/
private def shown (done : List Rule) (p : Blanks × Item) : List Char :=
  if ∀ ρ ∈ p.2.rule, ρ ∈ done then p.2.leftover p.1.chars else p.1.chars ++ p.2.text

section

variable {ρ : Rule} {done : List Rule} {p : Blanks × Item}

private theorem shown_of_mem (h : p.2.rule = some ρ) (hd : ρ ∈ done) : shown done p = p.2.leftover p.1.chars := by
  rw [shown, h]
  exact if_pos (by simpa using hd)

private theorem shown_of_not_mem (h : p.2.rule = some ρ) (hd : ρ ∉ done) :
    shown done p = p.1.chars ++ p.2.text := by
  rw [shown, h]
  exact if_neg (by simpa using hd)

private theorem shown_cons_of_ne (h : p.2.rule ≠ some ρ) : shown (ρ :: done) p = shown done p := by
  cases hσ : p.2.rule with
  | none => simp [shown, hσ]
  | some σ =>
    have hne : σ ≠ ρ := fun heq => h (by rw [hσ, heq])
    simp [shown, hσ, hne]

private theorem isBreak_shown (hne : p.1.chars ≠ []) (rest : List Char) : IsBreak (shown done p ++ rest) := by
  rw [shown]
  split
  · exact p.2.isBreak_leftover p.1.blank hne rest
  · rw [List.append_assoc]
    exact p.1.blank.isBreak_append_of_ne_nil hne _

/-! ### One item -/

private theorem isOfTokens_of_initial (hρ : ρ.initial ≠ none) : IsOfTokens ρ := by
  revert hρ
  cases ρ <;> decide

private theorem scan_text (hρ : ρ.initial ≠ none) {σ : Rule} {i : Item} (hσ : i.rule = some σ) (hne : σ ≠ ρ)
    (hq : σ ≠ .quoted) {g : List Char} (hg : Blank g) (b : Bool) {rest : List Char} (hr : IsBreak rest) :
    scan ρ b (g ++ (i.text ++ rest)) = (g ++ (i.text ++ (scan ρ false rest).1), (scan ρ false rest).2) := by
  have hnone := hitToken_other hσ hne hq hρ hr
  have htoken := isOfTokens_of_initial hρ
  -- NOT and its term are two words, every other item is one
  by_cases hn : σ = .negated
  · subst hn
    cases i <;> cases hσ
    rename_i keyword gap term
    simp only [Item.text, List.append_assoc] at hnone ⊢
    rw [Rule.scan_word htoken hg keyword.solid (keyword.ne_nil (by decide)) hnone,
      Rule.scan_word htoken gap.blank term.solid term.ne_nil (hitToken_plain ρ term hr)]
  · have hsolid : Solid i.text := Item.solid_text (by simp [hσ, hq]) (by simp [hσ, hn])
    exact Rule.scan_word htoken hg hsolid i.text_ne_nil hnone b

/-- An item of another rule stays as it is. -/
private theorem scan_kept (hρ : ρ.initial ≠ none) (hq : .quoted ∈ done) (h : p.2.rule ≠ some ρ) (b : Bool)
    {rest : List Char} (hr : IsBreak rest) :
    scan ρ b (shown done p ++ rest) = (shown done p ++ (scan ρ false rest).1, (scan ρ false rest).2) := by
  by_cases hd : ∀ σ ∈ p.2.rule, σ ∈ done
  · rw [shown, if_pos hd]
    exact (p.2.plain_leftover p.1.blank).scan_append (isOfTokens_of_initial hρ) (.inr (p.2.leftover_ne_nil _)) hr
  · push Not at hd
    obtain ⟨σ, hσ, hd⟩ := hd
    have hne : σ ≠ ρ := fun heq => h (heq ▸ hσ)
    have hquoted : σ ≠ .quoted := fun heq => hd (heq ▸ hq)
    rw [shown_of_not_mem hσ hd, List.append_assoc, scan_text hρ hσ hne hquoted p.1.blank b hr, List.append_assoc]

/-- A space takes the place of an item of the rule and of the last blank in front of it. -/
private theorem scan_own (hρ : ρ.initial ≠ none) (hd : ρ ∉ done) (h : p.2.rule = some ρ) {b : Bool}
    (hb : b = true ∨ p.1.chars ≠ []) {rest : List Char} (hr : IsBreak rest) :
    scan ρ b (shown done p ++ rest) =
      (shown (ρ :: done) p ++ (scanBehind ρ rest).1, (found ρ p.2).toList ++ (scanBehind ρ rest).2) := by
  have hq : ρ ≠ .quoted := by
    rintro rfl
    exact hρ rfl
  have hc : ρ ≠ .connector := by
    rintro rfl
    exact hρ rfl
  have hleft : p.2.leftover p.1.chars = p.1.chars.dropLast ++ [' '] := by
    cases hi : p.2 with
    | word | quoted | connector => simp_all [Item.rule]
    | _ => rfl
  rw [shown_of_not_mem h hd, shown_of_mem h List.mem_cons_self, hleft, List.append_assoc,
    Rule.scan_found (isOfTokens_of_initial hρ) p.1.blank (hitToken_own h hq hc hr) hb]
  simp only [List.append_assoc, List.singleton_append]

end

/-! ### All items -/

/-- The text of a sequence of items, when some of the rules have been applied. -/
private def shownAll (done : List Rule) (ps : List (Blanks × Item)) (trail : Blanks) : List Char :=
  ps.flatMap (shown done) ++ trail.chars

private theorem shownAll_cons (done : List Rule) (p : Blanks × Item) (ps : List (Blanks × Item)) (trail : Blanks) :
    shownAll done (p :: ps) trail = shown done p ++ shownAll done ps trail := by
  simp [shownAll]

private theorem Spaced.tail {p : Blanks × Item} {ps : List (Blanks × Item)} (h : Spaced (p :: ps)) : Spaced ps :=
  fun q hq => h q (List.mem_of_mem_tail hq)

private theorem Spaced.head {p : Blanks × Item} {ps : List (Blanks × Item)} (h : Spaced (p :: ps)) :
    ∀ q ∈ ps.head?, q.1.chars ≠ [] :=
  fun q hq => h q (List.mem_of_mem_head? hq)

private theorem isBreak_shownAll {done : List Rule} {ps : List (Blanks × Item)} (trail : Blanks)
    (h : ∀ q ∈ ps.head?, q.1.chars ≠ []) : IsBreak (shownAll done ps trail) := by
  cases ps with
  | nil => exact trail.blank.isBreak
  | cons p ps =>
    rw [shownAll_cons]
    exact isBreak_shown (h p rfl) _

private theorem shownAll_cons_of_forall_ne {ρ : Rule} {done : List Rule} {ps : List (Blanks × Item)} (trail : Blanks)
    (h : ∀ p ∈ ps, p.2.rule ≠ some ρ) : shownAll (ρ :: done) ps trail = shownAll done ps trail := by
  rw [shownAll, shownAll, List.flatMap_congr fun p hp => shown_cons_of_ne (h p hp)]

/-- What a rule finds in a sequence of items. -/
def foundAll (ρ : Rule) (ps : List (Blanks × Item)) : List Finding := (ps.map Prod.snd).filterMap (found ρ)

private theorem foundAll_cons (ρ : Rule) (p : Blanks × Item) (ps : List (Blanks × Item)) :
    foundAll ρ (p :: ps) = (found ρ p.2).toList ++ foundAll ρ ps := by
  cases h : found ρ p.2 <;> simp [foundAll, h]

private theorem found_ne_none {ρ : Rule} {i : Item} (ho : ρ.once = true) (h : i.rule = some ρ) : found ρ i ≠ none := by
  cases i <;> cases h <;> revert ho <;> simp [Rule.once, found, Item.before?, Item.after?]

private theorem forall_ne_of_foundAll_eq_nil {ρ : Rule} (ho : ρ.once = true) {ps : List (Blanks × Item)}
    (h : foundAll ρ ps = []) : ∀ p ∈ ps, p.2.rule ≠ some ρ := by
  intro p hp hr
  exact found_ne_none ho hr (List.filterMap_eq_nil_iff.1 h p.2 (List.mem_map_of_mem hp))

/-- A rule for tokens with a value reads its own items and leaves the others as they are. -/
private theorem scan_shown {ρ : Rule} (hρ : ρ.initial ≠ none) {done : List Rule} (hd : ρ ∉ done)
    (hq : .quoted ∈ done) {ps : List (Blanks × Item)} (hps : Spaced ps) (trail : Blanks)
    (honce : ρ.once = true → (foundAll ρ ps).length ≤ 1) {b : Bool}
    (hb : b = true ∨ ∀ p ∈ ps.head?, p.1.chars ≠ []) :
    scan ρ b (shownAll done ps trail) = (shownAll (ρ :: done) ps trail, foundAll ρ ps) := by
  induction ps generalizing b with
  | nil => exact Rule.scan_of_blank (isOfTokens_of_initial hρ) trail.blank b
  | cons p ps ih =>
    have hrest : IsBreak (shownAll done ps trail) := isBreak_shownAll trail hps.head
    rw [shownAll_cons, shownAll_cons, foundAll_cons]
    rw [foundAll_cons, List.length_append] at honce
    by_cases h : p.2.rule = some ρ
    · have hgap : b = true ∨ p.1.chars ≠ [] := hb.imp_right fun hne => hne p rfl
      have hbehind : scanBehind ρ (shownAll done ps trail) = (shownAll (ρ :: done) ps trail, foundAll ρ ps) := by
        cases ho : ρ.once with
        | false =>
          simp only [scanBehind, ho, Bool.false_eq_true, if_false]
          exact ih hps.tail (by simp [ho]) (.inr hps.head)
        | true =>
          -- the rule is applied once only, so no later item may be its own
          obtain ⟨f, hf⟩ := Option.ne_none_iff_exists'.1 (found_ne_none ho h)
          have hlen := honce ho
          rw [hf, Option.toList_some, List.length_singleton] at hlen
          have hnil : foundAll ρ ps = [] := List.eq_nil_of_length_eq_zero (by omega)
          rw [hnil, shownAll_cons_of_forall_ne trail (forall_ne_of_foundAll_eq_nil ho hnil), scanBehind, if_pos ho]
      rw [scan_own hρ hd h hgap hrest, hbehind]
    · have hlen : ρ.once = true → (foundAll ρ ps).length ≤ 1 := by
        intro ho
        have := honce ho
        omega
      rw [scan_kept hρ hq h b hrest, ih hps.tail hlen (.inr hps.head), shown_cons_of_ne h, found_eq_none h,
        Option.toList_none, List.nil_append]

/-! ### Quoted phrases -/

private theorem exists_last_word (first : PlainWord) (more : List (Gap × PlainWord)) :
    ∃ front, ∃ w : PlainWord, Item.phrase first more = front ++ w.chars := by
  rcases more.eq_nil_or_concat with rfl | ⟨more, p, rfl⟩
  · exact ⟨[], first, by simp [Item.phrase]⟩
  · exact ⟨Item.phrase first more ++ p.1.chars, p.2, by simp [Item.phrase]⟩

private theorem trim_phrase {lead trail : List Char} (hl : Blank lead) (ht : Blank trail) (first : PlainWord)
    (more : List (Gap × PlainWord)) :
    Chars.trim (lead ++ Item.phrase first more ++ trail) = Item.phrase first more := by
  have hne : Item.phrase first more ≠ [] := by simp [Item.phrase, first.ne_nil]
  refine Chars.trim_between hl ht hne ?_ ?_
  · intro c hc
    rw [Item.phrase, List.head?_append_of_ne_nil _ first.ne_nil] at hc
    exact first.solid c (List.mem_of_mem_head? hc)
  · intro c hc
    obtain ⟨front, w, hw⟩ := exists_last_word first more
    rw [hw, List.getLast?_append_of_ne_nil _ w.ne_nil] at hc
    exact w.solid c (List.mem_of_mem_getLast? hc)

private theorem noQuote_of_blank {cs : List Char} (h : Blank cs) : '"' ∉ cs := h.not_mem (by decide)

private theorem noQuote_phrase (first : PlainWord) (more : List (Gap × PlainWord)) :
    '"' ∉ Item.phrase first more := by
  simp only [Item.phrase, List.mem_append, List.mem_flatMap, not_or, not_exists, not_and]
  exact ⟨first.noQuote, fun p _ => ⟨noQuote_of_blank p.1.blank, p.2.noQuote⟩⟩

private theorem shown_nil (p : Blanks × Item) : shown [] p = p.1.chars ++ p.2.text := by
  cases h : p.2 with
  | word w => rw [shown, h]; rfl
  | _ => exact (shown_of_not_mem (by rw [h]; rfl) List.not_mem_nil).trans (by rw [h])

/-- The rule for quotes takes the quotes off the phrases. -/
private theorem scan_quotes (ps : List (Blanks × Item)) (trail : Blanks) (b : Bool) :
    scan .quoted b (shownAll [] ps trail) = (shownAll [.quoted] ps trail, foundAll .quoted ps) := by
  induction ps generalizing b with
  | nil =>
    have := Rule.scan_unquoted (noQuote_of_blank trail.blank) b []
    rwa [List.append_nil, Rule.scan_nil, List.append_nil] at this
  | cons p ps ih =>
    rw [shownAll_cons, shownAll_cons, foundAll_cons]
    by_cases h : p.2.rule = some .quoted
    · rw [shown_nil, shown_of_mem h List.mem_cons_self]
      obtain ⟨g, i⟩ := p
      cases i <;> cases h
      rename_i lead first more trail'
      have hbody : '"' ∉ lead.chars ++ Item.phrase first more ++ trail'.chars := by
        simp [noQuote_of_blank lead.blank, noQuote_of_blank trail'.blank, noQuote_phrase]
      have htrim := trim_phrase lead.blank trail'.blank first more
      have hne : Chars.trim (lead.chars ++ Item.phrase first more ++ trail'.chars) ≠ [] := by
        rw [htrim]
        simp [Item.phrase, first.ne_nil]
      -- the blanks in front hold no quote, so the scan comes to the one that opens the phrase
      have hscan := Rule.scan_quoted hbody (shownAll [] ps trail)
      rw [if_neg hne, htrim, ih] at hscan
      simp only [Item.text, List.append_assoc, List.cons_append, List.nil_append] at hscan ⊢
      rw [Rule.scan_unquoted (noQuote_of_blank g.blank), hscan]
      simp [Item.leftover, found, Item.isQuoted]
    · have hnone : '"' ∉ shown [] p := by
        rw [shown_nil]
        simp [noQuote_of_blank p.1.blank, Item.noQuote_text h]
      rw [Rule.scan_unquoted hnone, ih, shown_cons_of_ne h, found_eq_none h, Option.toList_none, List.nil_append]

/-! ### Connectors -/

/-- The rules that are applied before the rule for connectors. -/
private def settled : List Rule := [.dashed, .negated, .after, .before, .has, .channel, .sender, .quoted]

private theorem shown_settled {p : Blanks × Item} (h : p.2.rule ≠ some .connector) :
    shown settled p = p.2.leftover p.1.chars := by
  refine if_pos fun ρ hρ => ?_
  cases hi : p.2 <;> rw [hi] at hρ h <;> cases hρ <;> first | decide | exact absurd rfl h

private theorem hitToken_connector_own (any : Bool) {rest : List Char} (hr : IsBreak rest) :
    hitToken .connector ((Item.connector any).text ++ rest) =
      some ⟨some [' '], found .connector (.connector any), rest.tail⟩ := by
  cases any with
  | false =>
    refine (Rule.hitToken_and rest).trans ?_
    rw [Rule.afterEnd_of_isBreak hr]
    rfl
  | true =>
    refine (Rule.hitToken_or rest).trans ?_
    rw [Rule.afterEnd_of_isBreak hr]
    rfl

private theorem replacement_of_hitToken_connector {cs : List Char} {h : Hit} (hh : hitToken .connector cs = some h) :
    h.replacement = some [' '] := by
  rw [Rule.hitToken_connector] at hh
  split at hh
  · obtain ⟨_, -, rfl⟩ := Option.map_eq_some_iff.1 hh
    rfl
  · obtain ⟨_, -, rfl⟩ := Option.map_eq_some_iff.1 hh
    rfl
  · cases hh

/-- A text that starts with a blank still does when the connectors are gone. -/
private theorem isBreak_scan_connector {cs : List Char} (h : IsBreak cs) (b : Bool) :
    IsBreak (scan .connector b cs).1 := by
  cases cs with
  | nil =>
    rw [Rule.scan_nil]
    exact IsBreak.nil
  | cons c cs =>
    have hc := Chars.isBreak_cons.1 h
    have heq := Rule.hit_cons_of_isBlank (ρ := .connector) (by decide) hc b cs
    cases hh : hitToken .connector cs with
    | none =>
      rw [Rule.scan_cons_of_none (heq.trans hh)]
      exact Chars.isBreak_cons.2 hc
    | some hit =>
      rw [Rule.scan_cons_of_hit (heq.trans hh), replacement_of_hitToken_connector hh]
      exact Blank.space.isBreak_append_of_ne_nil (by simp) _

/-- A text and findings are what a sequence of items amounts to. -/
private structure ReadsTo (ps : List (Blanks × Item)) (out : List Char × List Finding) : Prop where
  words : Chars.words out.1 = (ps.map Prod.snd).flatMap Item.words
  found : out.2 = foundAll .connector ps
  noAsterisk : '*' ∉ out.1

private theorem ReadsTo.nil {g : List Char} (hg : Blank g) : ReadsTo [] (g, []) where
  words := Chars.words_of_blank hg
  found := rfl
  noAsterisk := (Plain.blank hg).noAsterisk

private theorem ReadsTo.cons_plain {p : Blanks × Item} {ps : List (Blanks × Item)} {out : List Char × List Finding}
    (h : ReadsTo ps out) (hc : p.2.rule ≠ some .connector) {cs : List Char} (hcs : Plain p.2.words cs)
    (hb : IsBreak out.1) : ReadsTo (p :: ps) (cs ++ out.1, out.2) where
  words := by rw [hcs.words_append hb, h.words, List.map_cons, List.flatMap_cons]
  found := by rw [foundAll_cons, found_eq_none hc, Option.toList_none, List.nil_append, h.found]
  noAsterisk := by simp [hcs.noAsterisk, h.noAsterisk]

private theorem ReadsTo.cons_connector {g : Blanks} {any : Bool} {ps : List (Blanks × Item)}
    {out : List Char × List Finding} (h : ReadsTo ps out) :
    ReadsTo ((g, .connector any) :: ps)
      (g.chars.dropLast ++ ' ' :: out.1, (Query.found .connector (.connector any)).toList ++ out.2) where
  words := by
    rw [List.append_cons, Chars.words_append_of_blank (Chars.blank_append.2 ⟨g.blank.dropLast, Blank.space⟩), h.words]
    rfl
  found := by rw [foundAll_cons, h.found]
  noAsterisk := by
    have := (Plain.blank g.blank.dropLast).noAsterisk
    simp [this, h.noAsterisk]

private theorem isConnector_iff {i : Item} : i.isConnector = true ↔ i.rule = some .connector := by
  cases i <;> simp [Item.isConnector, Item.rule]

/-- The rule for connectors reads the connectors.  Behind a connector the scan goes on without the first blank. -/
private theorem scan_connectors {ps : List (Blanks × Item)} (hps : Spaced ps) (hcalm : Calm ps) (trail : Blanks) :
    (∀ b, (b = true ∨ ∀ p ∈ ps.head?, p.1.chars ≠ []) → ReadsTo ps (scan .connector b (shownAll settled ps trail))) ∧
    ((∀ p ∈ ps.head?, p.1.chars ≠ [] ∧ p.2.rule ≠ some .connector) →
      ReadsTo ps (scan .connector false (shownAll settled ps trail).tail)) := by
  have htoken : IsOfTokens .connector := by decide
  induction ps with
  | nil =>
    have htail : Blank trail.chars.tail := fun c hc => trail.blank c (List.mem_of_mem_tail hc)
    constructor
    · intro b _
      exact (Rule.scan_of_blank htoken trail.blank b).symm ▸ ReadsTo.nil trail.blank
    · intro _
      exact (Rule.scan_of_blank htoken htail false).symm ▸ ReadsTo.nil htail
  | cons p ps ih =>
    obtain ⟨ihfront, ihbehind⟩ := ih hps.tail hcalm.of_cons
    have hrest : IsBreak (shownAll settled ps trail) := isBreak_shownAll trail hps.head
    have hout := isBreak_scan_connector hrest false
    have hfront := ihfront false (.inr hps.head)
    rw [shownAll_cons]
    constructor
    · intro b hb
      by_cases hc : p.2.rule = some .connector
      · have hgap : b = true ∨ p.1.chars ≠ [] := hb.imp_right fun hne => hne p rfl
        -- the next item is no connector, so it does not need the blank that this one takes
        have hnext : ∀ q ∈ ps.head?, q.1.chars ≠ [] ∧ q.2.rule ≠ some .connector := by
          intro q hq
          refine ⟨hps.head q hq, fun hr => ?_⟩
          obtain ⟨qs, rfl⟩ := List.head?_eq_some_iff.1 hq
          exact (List.isChain_cons_cons.1 hcalm).1 ⟨isConnector_iff.2 hc, isConnector_iff.2 hr⟩
        rw [shown_of_not_mem hc (by decide), List.append_assoc]
        obtain ⟨g, i⟩ := p
        cases i <;> cases hc
        rename_i any
        rw [Rule.scan_found htoken g.blank (hitToken_connector_own any hrest) hgap]
        exact (ihbehind hnext).cons_connector
      · rw [shown_settled hc]
        have hplain := p.2.plain_leftover p.1.blank
        rw [hplain.scan_append htoken (.inr (p.2.leftover_ne_nil _)) hrest]
        exact hfront.cons_plain hc hplain hout
    · intro hnext
      obtain ⟨hne, hc⟩ := hnext p rfl
      -- without its first blank the item is still plain
      rw [shown_settled hc, List.tail_append_of_ne_nil (p.2.leftover_ne_nil _)]
      have hbreak := p.2.isBreak_leftover p.1.blank hne []
      rw [List.append_nil] at hbreak
      have hplain := (p.2.plain_leftover p.1.blank).tail hbreak
      rw [hplain.scan_append htoken (.inl rfl) hrest]
      exact hfront.cons_plain hc hplain hout

/-! ### All rules -/

theorem applyRules_append (ρs σs : List Rule) (cs : List Char) :
    applyRules (ρs ++ σs) cs =
      ((applyRules σs (applyRules ρs cs).1).1, (applyRules ρs cs).2 ++ (applyRules σs (applyRules ρs cs).1).2) := by
  induction ρs generalizing cs with
  | nil => rfl
  | cons ρ ρs ih => simp only [List.cons_append, applyRules, ih, List.append_assoc]

private theorem applyRules_singleton (ρ : Rule) (cs : List Char) : applyRules [ρ] cs = scan ρ true cs := by
  simp [applyRules, Rule.apply]

/-- The rules for tokens with a value, one after the other. -/
private theorem applyRules_shown {ps : List (Blanks × Item)} (hps : Spaced ps) (trail : Blanks)
    (hbefore : (foundAll .before ps).length ≤ 1) (hafter : (foundAll .after ps).length ≤ 1) (ρs : List Rule)
    {done : List Rule} (hρs : ∀ ρ ∈ ρs, ρ.initial ≠ none) (hnodup : (ρs ++ done).Nodup) (hq : .quoted ∈ done) :
    applyRules ρs (shownAll done ps trail) =
      (shownAll (ρs.reverse ++ done) ps trail, ρs.flatMap fun ρ => foundAll ρ ps) := by
  induction ρs generalizing done with
  | nil => rfl
  | cons ρ ρs ih =>
    have hρ := hρs ρ List.mem_cons_self
    have hd : ρ ∉ done := fun hmem => (List.nodup_cons.1 hnodup).1 (List.mem_append_right _ hmem)
    have honce : ρ.once = true → (foundAll ρ ps).length ≤ 1 := by
      intro ho
      cases ρ <;> first | exact hbefore | exact hafter | cases ho
    have hscan := scan_shown hρ hd hq hps trail honce (.inl rfl)
    have hnodup' : (ρs ++ ρ :: done).Nodup := List.perm_middle.nodup_iff.2 hnodup
    have hnext := ih (fun σ hσ => hρs σ (List.mem_cons_of_mem _ hσ)) hnodup' (List.mem_cons_of_mem _ hq)
    simp only [applyRules, Rule.apply, hscan, hnext, List.reverse_cons, List.append_assoc, List.cons_append,
      List.nil_append, List.flatMap_cons]

/-- What the rules find in a sentence, rule by rule. -/
def Sentence.findings (s : Sentence) : List Finding := Rule.all.flatMap fun ρ => foundAll ρ s.spaced

/-- Findings that are made of a part of an item. -/
private theorem foundAll_eq_map {ρ : Rule} {α : Type} {part : Item → Option α} {finding : α → Finding}
    (h : found ρ = fun i => (part i).map finding) (ps : List (Blanks × Item)) :
    foundAll ρ ps = ((ps.map Prod.snd).filterMap part).map finding := by
  rw [foundAll, h, List.map_filterMap]

private theorem foundAll_wildcard (ps : List (Blanks × Item)) : foundAll .wildcard ps = [] := by
  simp [foundAll, found]

private theorem length_foundAll_le {ρ : Rule} {part : Item → Option String} {finding : String → Finding}
    (h : found ρ = fun i => (part i).map finding) {ps : List (Blanks × Item)}
    (hle : (ps.filterMap fun p => part p.2).length ≤ 1) : (foundAll ρ ps).length ≤ 1 := by
  rw [foundAll_eq_map h, List.length_map, List.filterMap_map]
  exact hle

/-- The rules leave the words of a sentence and find what its operators say. -/
theorem Sentence.applyRules_text (s : Sentence) :
    Chars.words (applyRules Rule.all s.text.toList).1 = s.items.flatMap Item.words ∧
      (applyRules Rule.all s.text.toList).2 = s.findings := by
  have htext : s.text.toList = shownAll [] s.spaced s.trail := by
    rw [Sentence.text, String.toList_ofList, shownAll, List.flatMap_congr fun p _ => (shown_nil p).symm]
  have hbefore : (foundAll .before s.spaced).length ≤ 1 := length_foundAll_le rfl s.oneBefore
  have hafter : (foundAll .after s.spaced).length ≤ 1 := length_foundAll_le rfl s.oneAfter
  -- the rules in three groups: quotes, tokens with a value, and what is left
  have hquotes : applyRules [.quoted] (shownAll [] s.spaced s.trail) = _ :=
    (applyRules_singleton _ _).trans (scan_quotes s.spaced s.trail true)
  have hvalues : applyRules [.sender, .channel, .has, .before, .after, .negated, .dashed]
      (shownAll [.quoted] s.spaced s.trail) = (shownAll settled s.spaced s.trail, _) :=
    applyRules_shown s.gaps s.trail hbefore hafter _ (by decide) (by decide) (by decide)
  obtain ⟨hwords, hfound, hasterisk⟩ := (scan_connectors s.gaps s.calm s.trail).1 true (.inl rfl)
  have hlast : applyRules [.connector, .wildcard] (shownAll settled s.spaced s.trail) =
      ((scan .connector true (shownAll settled s.spaced s.trail)).1, foundAll .connector s.spaced) := by
    rw [← List.singleton_append, applyRules_append, applyRules_singleton, applyRules_singleton,
      Rule.scan_wildcard hasterisk, hfound, List.append_nil]
  have hall := applyRules_append ([.quoted] ++ [.sender, .channel, .has, .before, .after, .negated, .dashed])
    [.connector, .wildcard] (shownAll [] s.spaced s.trail)
  rw [applyRules_append [.quoted], hquotes, hvalues, hlast] at hall
  simp only [List.cons_append, List.nil_append] at hall
  rw [htext, Rule.all, hall]
  refine ⟨hwords, ?_⟩
  simp [Sentence.findings, Rule.all, foundAll_wildcard]

/-! ### The operators -/

/-- Findings that are collected one by one are collected all together. -/
private theorem foldl_collected {α : Type} {finding : α → Finding} (collect : Operators → List α → Operators)
    (hnil : ∀ ops, collect ops [] = ops)
    (hcons : ∀ ops x l, collect (Finding.addTo ops (finding x)) l = collect ops (x :: l)) (l : List α)
    (ops : Operators) : (l.map finding).foldl Finding.addTo ops = collect ops l := by
  induction l generalizing ops with
  | nil => exact (hnil ops).symm
  | cons x l ih => rw [List.map_cons, List.foldl_cons, ih, hcons]

private theorem foldl_senders (l : List String) (ops : Operators) :
    (l.map Finding.sender).foldl Finding.addTo ops = { ops with senders := ops.senders ++ l } :=
  foldl_collected (fun ops l => { ops with senders := ops.senders ++ l }) (by simp) (by simp [Finding.addTo]) l ops

private theorem foldl_channels (l : List String) (ops : Operators) :
    (l.map Finding.channel).foldl Finding.addTo ops = { ops with channels := ops.channels ++ l } :=
  foldl_collected (fun ops l => { ops with channels := ops.channels ++ l }) (by simp) (by simp [Finding.addTo]) l ops

private theorem foldl_tags (l : List HasTag) (ops : Operators) :
    (l.map Finding.has).foldl Finding.addTo ops = { ops with has := ops.has ++ l } :=
  foldl_collected (fun ops l => { ops with has := ops.has ++ l }) (by simp) (by simp [Finding.addTo]) l ops

private theorem foldl_excluded (l : List String) (ops : Operators) :
    (l.map Finding.exclude).foldl Finding.addTo ops = { ops with exclude := ops.exclude ++ l } :=
  foldl_collected (fun ops l => { ops with exclude := ops.exclude ++ l }) (by simp) (by simp [Finding.addTo]) l ops

private theorem foldl_before {l : List String} (hl : l.length ≤ 1) {ops : Operators} (h : ops.before = none) :
    (l.map fun date => Finding.before (Instant.ofQuery? date)).foldl Finding.addTo ops =
      { ops with before := l.head?.bind Instant.ofQuery? } := by
  match l, hl with
  | [], _ => simp [← h]
  | [date], _ => rfl

private theorem foldl_after {l : List String} (hl : l.length ≤ 1) {ops : Operators} (h : ops.after = none) :
    (l.map fun date => Finding.after (Instant.ofQuery? date)).foldl Finding.addTo ops =
      { ops with after := l.head?.bind Instant.ofQuery? } := by
  match l, hl with
  | [], _ => simp [← h]
  | [date], _ => rfl

private theorem foldl_phrases (ps : List (Blanks × Item)) (ops : Operators) :
    (foundAll .quoted ps).foldl Finding.addTo ops =
      { ops with exact := ops.exact || (ps.map Prod.snd).any Item.isQuoted } := by
  induction ps generalizing ops with
  | nil => simp [foundAll]
  | cons p ps ih =>
    rw [foundAll_cons, List.foldl_append, ih]
    cases h : p.2.isQuoted <;> simp [found, h, Finding.addTo]

private theorem foldl_connectors (ps : List (Blanks × Item)) (ops : Operators) :
    (foundAll .connector ps).foldl Finding.addTo ops =
      { ops with matchAny := ops.matchAny || (ps.map Prod.snd).any Item.isOr } := by
  induction ps generalizing ops with
  | nil => simp [foundAll]
  | cons p ps ih =>
    rw [foundAll_cons, List.foldl_append, ih]
    cases h : p.2.isOr <;> simp [found, h, Finding.addTo]

/-- What the rules find in a sentence adds up to its operators. -/
theorem Sentence.foldl_findings (s : Sentence) : s.findings.foldl Finding.addTo {} = s.operators := by
  have hbefore : (s.items.filterMap Item.before?).length ≤ 1 := by
    rw [Sentence.items, List.filterMap_map]
    exact s.oneBefore
  have hafter : (s.items.filterMap Item.after?).length ≤ 1 := by
    rw [Sentence.items, List.filterMap_map]
    exact s.oneAfter
  have hfindings : s.findings = foundAll .quoted s.spaced ++ ((s.items.filterMap Item.sender?).map .sender ++
      ((s.items.filterMap Item.channel?).map .channel ++ ((s.items.filterMap Item.tag?).map .has ++
      (((s.items.filterMap Item.before?).map fun date => .before (Instant.ofQuery? date)) ++
      (((s.items.filterMap Item.after?).map fun date => .after (Instant.ofQuery? date)) ++
      ((s.items.filterMap Item.negated?).map .exclude ++ ((s.items.filterMap Item.dashed?).map .exclude ++
      foundAll .connector s.spaced))))))) := by
    simp only [Sentence.findings, Rule.all, List.flatMap_cons, List.flatMap_nil, foundAll_wildcard, List.append_nil,
      foundAll_eq_map (ρ := .sender) rfl, foundAll_eq_map (ρ := .channel) rfl, foundAll_eq_map (ρ := .has) rfl,
      foundAll_eq_map (ρ := .before) rfl, foundAll_eq_map (ρ := .after) rfl, foundAll_eq_map (ρ := .negated) rfl,
      foundAll_eq_map (ρ := .dashed) rfl]
    rfl
  rw [hfindings]
  simp only [List.foldl_append, foldl_phrases, foldl_senders, foldl_channels, foldl_tags, foldl_before hbefore,
    foldl_after hafter, foldl_excluded, foldl_connectors, List.head?_filterMap]
  simp [Sentence.operators, Sentence.items]

end Query

open Query

/-- Reading a sentence gives its plain and quoted words as the free text, and what its operators say. -/
theorem ParsedQuery.ofText_text (s : Sentence) :
    ParsedQuery.ofText s.text = { base := s.base, operators := s.operators } := by
  obtain ⟨hwords, hfindings⟩ := s.applyRules_text
  simp only [ParsedQuery.ofText, hwords, hfindings, s.foldl_findings, Sentence.base]

example : ParsedQuery.ofText "from:@ann foo OR \"bar  baz\" -qux" =
    { base := "foo bar baz"
      operators := { senders := ["ann"], exact := true, exclude := ["qux"], matchAny := true } } := by
  cbv

end WorkspaceSearch
