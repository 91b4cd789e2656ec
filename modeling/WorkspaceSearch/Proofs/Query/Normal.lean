import Mathlib
import WorkspaceSearch.Proofs.Query.Free

/-!
# Reading the free text again

The free text of any query is in a normal form (`NormalText`): words with single spaces between them, no asterisk and
one quote at most.  Of such a text the rules for tokens take whole words away, so that reading it gives the same text
again and no operators, or a shorter text (`ofText_eq_or_shorter`); reading the free text over and over comes to rest
(`ParsedQuery.ofText_normal`).

Reading it once more is not always enough.  A connector right behind another stays, and so does a second date; and the
asterisks go last, so that a token may come to light when they are gone (`ParsedQuery.ofText_freeText_iff`).
-/

namespace WorkspaceSearch.Query

open Chars (Blank Solid IsBreak words unwords nonblank Collapsed)

/-! ### Rules for tokens, one after the other -/

section Tokens

variable {ρs : List Rule}

private theorem words_applyRules_sublist (hρs : ∀ ρ ∈ ρs, ρ.IsOfTokens) (cs : List Char) :
    (words (applyRules ρs cs).1).Sublist (words cs) := by
  induction ρs generalizing cs with
  | nil => exact .refl _
  | cons ρ ρs ih =>
    have hrest := ih (fun σ hσ => hρs σ (List.mem_cons_of_mem _ hσ)) (ρ.apply cs).1
    exact hrest.trans (Rule.words_scan_sublist (hρs ρ List.mem_cons_self) true cs)

/-- Rules for tokens leave a text as it is, or take words away. -/
private theorem applyRules_eq_self_or_fewer (hρs : ∀ ρ ∈ ρs, ρ.IsOfTokens) (cs : List Char) :
    applyRules ρs cs = (cs, []) ∨ (words (applyRules ρs cs).1).length < (words cs).length := by
  induction ρs generalizing cs with
  | nil => exact .inl rfl
  | cons ρ ρs ih =>
    have hρs' : ∀ σ ∈ ρs, σ.IsOfTokens := fun σ hσ => hρs σ (List.mem_cons_of_mem _ hσ)
    rcases Rule.scan_eq_self_or_lt (hρs ρ List.mem_cons_self) true cs with hself | hlt
    · have happly : ρ.apply cs = (cs, []) := hself
      simp only [applyRules, happly, List.nil_append]
      exact ih hρs' cs
    · right
      exact Nat.lt_of_le_of_lt (words_applyRules_sublist hρs' (ρ.apply cs).1).length_le hlt

/-- A rule that has no use for what it leaves has no use for what the rules behind it leave. -/
private theorem ignores_words_applyRules (hρs : ∀ ρ ∈ ρs, ρ.IsOfTokens) {ρ : Rule} (hρ : ρ ∈ ρs) {cs : List Char}
    (h : ∀ ds, (words ds).Sublist (words cs) → ρ.Ignores (words (ρ.apply ds).1)) :
    ρ.Ignores (words (applyRules ρs cs).1) := by
  induction ρs generalizing cs with
  | nil => cases hρ
  | cons σ ρs ih =>
    have hρs' : ∀ τ ∈ ρs, τ.IsOfTokens := fun τ hτ => hρs τ (List.mem_cons_of_mem _ hτ)
    by_cases hhere : ρ = σ
    · subst hhere
      exact (h cs (.refl _)).sublist (words_applyRules_sublist hρs' _)
    · have hbehind : ρ ∈ ρs := (List.mem_cons.1 hρ).resolve_left hhere
      refine ih hρs' hbehind fun ds hds => h ds ?_
      exact hds.trans (Rule.words_scan_sublist (hρs σ List.mem_cons_self) true cs)

/-- What rules for tokens find comes from tokens among the words. -/
private theorem exists_token_of_mem_applyRules (hρs : ∀ ρ ∈ ρs, ρ.IsOfTokens) {cs : List Char} {f : Finding}
    (h : f ∈ (applyRules ρs cs).2) :
    ∃ ρ w rest rest', Token ρ w rest (some f) rest' ∧ (w :: words rest).Sublist (words cs) := by
  induction ρs generalizing cs with
  | nil => cases h
  | cons ρ ρs ih =>
    have hρ := hρs ρ List.mem_cons_self
    rcases List.mem_append.1 h with hhere | hbehind
    · obtain ⟨w, rest, rest', htoken, hsub⟩ := Rule.exists_token_of_mem_scan hρ hhere
      exact ⟨ρ, w, rest, rest', htoken, hsub⟩
    · obtain ⟨σ, w, rest, rest', htoken, hsub⟩ := ih (fun σ hσ => hρs σ (List.mem_cons_of_mem _ hσ)) hbehind
      exact ⟨σ, w, rest, rest', htoken, hsub.trans (Rule.words_scan_sublist hρ true cs)⟩

end Tokens

/-- The free text of a query. -/
def freeText (raw : String) : String := (ParsedQuery.ofText raw).base

/-- A query without its pairs of quotes. -/
def unquoted (raw : String) : List Char := (Rule.quoted.apply raw.toList).1

/-- The rules for tokens, in the order in which they are applied. -/
def Rule.ofTokens : List Rule :=
  [.sender, .channel, .has, .before, .after, .negated, .dashed, .connector]

private theorem isOfTokens_of_mem : ∀ ρ ∈ Rule.ofTokens, ρ.IsOfTokens := by decide

/-- The text that the rules for tokens leave, and what they find. -/
private def tokens (raw : String) : List Char × List Finding :=
  applyRules Rule.ofTokens (unquoted raw)

/-- The text in which the rule for connectors looks for them. -/
def withConnectors (raw : String) : List Char := (applyRules Rule.ofTokens.dropLast (unquoted raw)).1

/-- The asterisks go from what the rules for tokens leave. -/
private theorem ofText_eq (raw : String) :
    ParsedQuery.ofText raw =
      { base := .ofList (unwords (words ((tokens raw).1.filter (· != '*'))))
        operators := ((Rule.quoted.apply raw.toList).2 ++ (tokens raw).2).foldl Finding.addTo {} } := by
  have htail : applyRules Rule.all.tail (unquoted raw) =
      ((tokens raw).1.filter (· != '*'), (tokens raw).2) := by
    have hwildcard : applyRules [.wildcard] (tokens raw).1 = ((tokens raw).1.filter (· != '*'), []) := by
      simp only [applyRules, Rule.apply, Rule.scan_wildcard_eq, List.append_nil]
    have hsplit := applyRules_append Rule.ofTokens [.wildcard] (unquoted raw)
    rw [← tokens, hwildcard, List.append_nil] at hsplit
    exact hsplit
  rw [ofText_eq_readFrom, ← unquoted, readFrom, htail, List.foldl_append]

/-! ### The normal form -/

/-- A text with single spaces between its words, without asterisks and with one quote at most. -/
structure NormalText (cs : List Char) : Prop where
  collapsed : Collapsed cs
  noAsterisk : '*' ∉ cs
  oneQuote : cs.count '"' ≤ 1

private theorem nonblank_collapse (cs : List Char) : nonblank (unwords (words cs)) = nonblank cs := by
  rw [← Chars.flatten_words, Chars.words_unwords (Chars.areWords_words cs), Chars.flatten_words]

private theorem nonblank_tokens_sublist (raw : String) :
    (nonblank ((tokens raw).1.filter (· != '*'))).Sublist (nonblank (unquoted raw)) := by
  have hwords := List.Sublist.flatten (words_applyRules_sublist isOfTokens_of_mem (unquoted raw))
  rw [Chars.flatten_words, Chars.flatten_words] at hwords
  exact ((List.filter_sublist).filter _).trans hwords

/-- The characters of the free text that are not blank stand in the query, in this order. -/
theorem nonblank_freeText_sublist (raw : String) :
    (nonblank (freeText raw).toList).Sublist (nonblank raw.toList) := by
  rw [freeText, ofText_eq, String.toList_ofList, nonblank_collapse]
  exact (nonblank_tokens_sublist raw).trans (Rule.nonblank_scan_quoted_sublist true raw.toList)

/-- The free text of any query is in normal form. -/
theorem normalText_freeText (raw : String) : NormalText (freeText raw).toList := by
  rw [freeText, ofText_eq, String.toList_ofList]
  have hmem : ∀ {c cs}, Chars.isBlank c = false → (c ∈ unwords (words cs) ↔ c ∈ cs) := by
    intro c cs hc
    have hiff := congrArg (c ∈ ·) (nonblank_collapse cs)
    simpa [nonblank, hc] using hiff
  refine ⟨Chars.collapsed_unwords _, ?_, ?_⟩
  · rw [hmem (by decide)]
    simp
  · have hcount : ∀ cs : List Char, (nonblank cs).count '"' = cs.count '"' := fun cs =>
      List.count_filter (by decide)
    rw [← hcount, nonblank_collapse]
    refine ((nonblank_tokens_sublist raw).count_le '"').trans ?_
    rw [hcount]
    exact Rule.count_scan_quoted_le true raw.toList

/-! ### Values -/

/-- The sender, channel or excluded term in a finding. -/
private def Finding.name? : Finding → Option String
  | .sender name => some name
  | .channel name => some name
  | .exclude term => some term
  | _ => none

/-- The senders, the channels and the excluded terms. -/
def names (ops : Operators) : List String := ops.senders ++ ops.channels ++ ops.exclude

private theorem mem_names_addTo {ops : Operators} {f : Finding} {v : String} (h : v ∈ names (f.addTo ops)) :
    v ∈ names ops ∨ f.name? = some v := by
  cases f <;> simp only [Finding.addTo, names, Finding.name?, List.mem_append, List.mem_singleton] at h ⊢ <;> grind

private theorem mem_names_foldl {fs : List Finding} {ops : Operators} {v : String}
    (h : v ∈ names (fs.foldl Finding.addTo ops)) : v ∈ names ops ∨ ∃ f ∈ fs, f.name? = some v := by
  induction fs generalizing ops with
  | nil => exact .inl h
  | cons f fs ih =>
    rcases ih h with hhere | ⟨g, hg, hname⟩
    · exact (mem_names_addTo hhere).imp_right fun hname => ⟨f, List.mem_cons_self, hname⟩
    · exact .inr ⟨g, List.mem_cons_of_mem _ hg, hname⟩

private theorem dropWhile_infix (p : Char → Bool) (ds v : List Char) : v.dropWhile p <:+: ds ++ v :=
  ((List.dropWhile_suffix p).trans (List.suffix_append ds v)).isInfix

/-- A name in a token is a piece of a word, and not empty. -/
private theorem Token.name_infix {ρ : Rule} {w rest rest' : List Char} {f : Finding} {v : String}
    (h : Token ρ w rest (some f) rest') (hv : f.name? = some v) :
    v.toList ≠ [] ∧ ∃ u ∈ w :: words rest, v.toList <:+: u := by
  cases h with
  | @valued _ hρ ds value hds htells =>
    cases ρ with
    | sender | channel =>
      obtain rfl := Option.some.inj hv
      rw [String.toList_ofList]
      refine ⟨?_, _, List.mem_cons_self, dropWhile_infix _ ds value⟩
      intro hnil
      obtain ⟨c, hc, hne⟩ := htells
      have hall := List.dropWhile_eq_nil_iff.1 hnil c hc
      exact hne (congrArg some (beq_iff_eq.1 hall).symm)
    | has | before | after => cases hv
    | _ => exact absurd hρ (by decide)
  | @negated _ g value rest' hds hg hgap hvalue hne hr =>
    obtain rfl := Option.some.inj hv
    rw [String.toList_ofList]
    refine ⟨hne, value, ?_, List.infix_rfl⟩
    rw [Chars.words_append_word hg hvalue hne hr]
    exact List.mem_cons_of_mem _ List.mem_cons_self
  | dashed hne =>
    obtain rfl := Option.some.inj hv
    rw [String.toList_ofList]
    exact ⟨hne, _, List.mem_cons_self, (List.suffix_cons '-' _).isInfix⟩
  | or => cases hv

/-- The names that are found in a query are pieces of words that the rule for quotes leaves, and not empty. -/
private theorem exists_word_of_mem_names {raw v : String} (h : v ∈ names (ParsedQuery.ofText raw).operators) :
    v.toList ≠ [] ∧ ∃ u ∈ words (unquoted raw), v.toList <:+: u := by
  rw [ofText_eq] at h
  obtain ⟨f, hf, hname⟩ := (mem_names_foldl h).resolve_left (by simp [names])
  have htoken : f ∈ (tokens raw).2 := by
    refine (List.mem_append.1 hf).resolve_left fun hquoted => ?_
    rw [Rule.eq_phrase_of_mem_scan_quoted hquoted] at hname
    cases hname
  obtain ⟨ρ, w, rest, rest', htoken, hsub⟩ := exists_token_of_mem_applyRules isOfTokens_of_mem htoken
  obtain ⟨hne, u, hu, hpiece⟩ := htoken.name_infix hname
  exact ⟨hne, u, hsub.subset hu, hpiece⟩

/-- The names that are found in a query are pieces of it without blanks, and not empty. -/
theorem infix_of_mem_names {raw v : String} (h : v ∈ names (ParsedQuery.ofText raw).operators) :
    v.toList ≠ [] ∧ Solid v.toList ∧ v.toList <:+: raw.toList := by
  obtain ⟨hne, u, hword, hpiece⟩ := exists_word_of_mem_names h
  have hsolid := Chars.solid_of_mem_words hword
  exact ⟨hne, fun c hc => hsolid c (hpiece.subset hc), hpiece.trans (Rule.infix_of_mem_words_scan_quoted hword)⟩

/-- A name that is found in a query has one quote at most. -/
theorem count_quote_le_of_mem_names {raw v : String} (h : v ∈ names (ParsedQuery.ofText raw).operators) :
    v.toList.count '"' ≤ 1 := by
  obtain ⟨-, u, hword, hpiece⟩ := exists_word_of_mem_names h
  have hwithin := hpiece.trans (Chars.infix_of_mem_words hword)
  exact (hwithin.sublist.count_le '"').trans (Rule.count_scan_quoted_le true raw.toList)

/-- The names of a rule with a sigil. -/
def namesOf (ops : Operators) : Rule → List String
  | .sender => ops.senders
  | .channel => ops.channels
  | _ => []

theorem namesOf_subset (ops : Operators) (ρ : Rule) : namesOf ops ρ ⊆ names ops := by
  intro v hv
  simp only [names, List.mem_append]
  cases ρ with
  | sender => exact .inl (.inl hv)
  | channel => exact .inl (.inr hv)
  | _ => cases hv

/-- What a rule finds when it finds a name. -/
private def Finding.IsName (ρ : Rule) (v : String) (f : Finding) : Prop :=
  ρ = .sender ∧ f = .sender v ∨ ρ = .channel ∧ f = .channel v

private theorem mem_namesOf_foldl {ρ : Rule} {fs : List Finding} {ops : Operators} {v : String}
    (h : v ∈ namesOf (fs.foldl Finding.addTo ops) ρ) : v ∈ namesOf ops ρ ∨ ∃ f ∈ fs, f.IsName ρ v := by
  induction fs generalizing ops with
  | nil => exact .inl h
  | cons f fs ih =>
    rcases ih h with hhere | ⟨g, hg, hname⟩
    · have hstep : v ∈ namesOf ops ρ ∨ f.IsName ρ v := by
        cases ρ <;> cases f <;> simp_all [Finding.addTo, namesOf, Finding.IsName, eq_comm]
      exact hstep.imp_right fun hname => ⟨f, List.mem_cons_self, hname⟩
    · exact .inr ⟨g, List.mem_cons_of_mem _ hg, hname⟩

private theorem head?_dropWhile_ne (sigil : Char) (v : List Char) : (v.dropWhile (· == sigil)).head? ≠ some sigil := by
  intro h
  have hkept := List.head?_dropWhile_not (· == sigil) v
  rw [h] at hkept
  simp at hkept

/-- A name that is found has no sigil in front. -/
theorem head?_ne_of_mem_namesOf {raw v : String} {ρ : Rule} (h : v ∈ namesOf (ParsedQuery.ofText raw).operators ρ) :
    v.toList.head? ≠ ρ.sigil? := by
  rw [ofText_eq] at h
  obtain ⟨f, hf, hname⟩ := (mem_namesOf_foldl h).resolve_left (by cases ρ <;> simp [namesOf])
  have htoken : f ∈ (tokens raw).2 := by
    refine (List.mem_append.1 hf).resolve_left fun hquoted => ?_
    rw [Rule.eq_phrase_of_mem_scan_quoted hquoted] at hname
    simp [Finding.IsName] at hname
  obtain ⟨σ, w, rest, rest', htoken, -⟩ := exists_token_of_mem_applyRules isOfTokens_of_mem htoken
  cases htoken with
  | @valued _ hσ ds value hds htells =>
    cases σ with
    | sender | channel =>
      obtain ⟨rfl, heq⟩ | ⟨rfl, heq⟩ := hname <;> cases heq
      rw [String.toList_ofList]
      exact head?_dropWhile_ne _ value
    | has | before | after => simp [Finding.IsName, Rule.findingOf] at hname
    | _ => exact absurd hσ (by decide)
  | negated | dashed => simp [Finding.IsName, Rule.findingOf] at hname
  | or => simp [Finding.IsName] at hname

/-! ### Reading again -/

/-- A text in normal form is read as itself, or as a shorter text with operators. -/
theorem ofText_eq_or_shorter {b : String} (h : NormalText b.toList) :
    ParsedQuery.ofText b = { base := b } ∨ (freeText b).length < b.length := by
  -- with one quote at most and no asterisk, the first and the last rule do nothing
  have hquoted : Rule.quoted.apply b.toList = (b.toList, []) := Rule.scan_quoted_of_count_le h.oneQuote true
  have hstars : ∀ {cs}, (words cs).Sublist (words b.toList) → cs.filter (· != '*') = cs := by
    intro cs hs
    have hnot : '*' ∉ nonblank cs := by
      intro hmem
      rw [← Chars.flatten_words] at hmem
      have hin := (List.Sublist.flatten hs).subset hmem
      rw [Chars.flatten_words] at hin
      exact h.noAsterisk (List.mem_of_mem_filter hin)
    rw [List.filter_eq_self]
    intro c hc
    have hne : c ≠ '*' := by
      rintro rfl
      exact hnot (List.mem_filter.2 ⟨hc, by decide⟩)
    simpa using hne
  have hsub := words_applyRules_sublist isOfTokens_of_mem b.toList
  have hread := ofText_eq b
  rw [tokens, unquoted, hquoted, hstars hsub] at hread
  rw [freeText, hread]
  -- the other rules leave all words or take some away
  rcases applyRules_eq_self_or_fewer isOfTokens_of_mem b.toList with hself | hfewer
  · left
    rw [hself, ← h.collapsed.eq_unwords, String.ofList_toList]
    rfl
  · right
    have hshorter := Chars.length_unwords_lt (Chars.areWords_words b.toList) hsub hfewer
    rwa [← h.collapsed.eq_unwords, String.length_toList, ← String.length_ofList] at hshorter

/-- Reading the free text over and over comes to rest after no more rounds than it has characters. -/
private theorem exists_freeText_fixed {b : String} (h : NormalText b.toList) :
    ∃ n ≤ b.length, ParsedQuery.ofText (freeText^[n] b) = { base := freeText^[n] b } := by
  induction hlen : b.length using Nat.strong_induction_on generalizing b with
  | _ n ih =>
    rcases ofText_eq_or_shorter h with hself | hshorter
    · exact ⟨0, Nat.zero_le _, hself⟩
    · obtain ⟨m, hm, hfixed⟩ := ih _ (hlen ▸ hshorter) (normalText_freeText b) rfl
      exact ⟨m + 1, by omega, hfixed⟩

/-- A text in normal form is read as itself exactly when it is free of operators. -/
private theorem ofText_eq_iff_of_normal {b : String} (h : NormalText b.toList) :
    ParsedQuery.ofText b = { base := b } ↔ Free (words b.toList) := by
  have hcollapse : Text.collapse b = b := by rw [Text.collapse, ← h.collapsed.eq_unwords, String.ofList_toList]
  have hiff := ofText_eq_collapse_iff h.oneQuote
  rwa [hcollapse] at hiff

/-! ### What is left to be read -/

/-- At most one of some words starts with the keyword of a rule. -/
def Single (ρ : Rule) (ws : List (List Char)) : Prop := ws.Pairwise fun v w => ¬(StartsWith ρ v ∧ StartsWith ρ w)

instance (ρ : Rule) (ws : List (List Char)) : Decidable (Single ρ ws) := inferInstanceAs (Decidable (ws.Pairwise _))

/-- No two connectors stand next to each other. -/
def Apart (ws : List (List Char)) : Prop :=
  ws.IsChain fun v w => ¬(Rule.Claims .connector v ∧ Rule.Claims .connector w)

instance (ws : List (List Char)) : Decidable (Apart ws) := inferInstanceAs (Decidable (ws.IsChain _))

private theorem startsWith_of_claims {ρ : Rule} (hρ : ρ ∈ Rule.prefixed) {w : List Char} (h : ρ.Claims w) :
    StartsWith ρ w := by
  obtain ⟨ds, v, rfl, hds, -⟩ := (Rule.claims_of_prefixed hρ).1 h
  exact ⟨ds, v, rfl, hds⟩

private theorem ignores_of_single {ρ : Rule} (hρ : ρ ∈ Rule.prefixed) (honce : ρ.once = true) {cs ds : List Char}
    (hs : (words ds).Sublist (words cs)) (h : Single ρ (words cs)) : ρ.Ignores (words (ρ.apply ds).1) := by
  have htokens : ρ.IsOfTokens := by cases ρ <;> first | decide | exact absurd hρ (by decide)
  refine Rule.ignores_words_scan_of_pairwise htokens honce (.inl rfl) ?_
  exact (h.sublist hs).imp fun hnot hc => hnot ⟨startsWith_of_claims hρ hc.1, startsWith_of_claims hρ hc.2⟩

/-- The rules for tokens leave words that none of them has a use for, but for connectors and further dates. -/
private theorem ignores_words_tokens {raw : String} (hbefore : Single .before (words (unquoted raw)))
    (hafter : Single .after (words (unquoted raw))) {ρ : Rule} (hρ : ρ ∈ Rule.ofTokens)
    (hc : ρ ≠ .connector) : ρ.Ignores (words (tokens raw).1) := by
  refine ignores_words_applyRules isOfTokens_of_mem hρ fun ds hds => ?_
  by_cases honce : ρ.once = true
  · cases ρ with
    | before => exact ignores_of_single (by decide) rfl hds hbefore
    | after => exact ignores_of_single (by decide) rfl hds hafter
    | _ => cases honce
  · exact Rule.ignores_words_scan (isOfTokens_of_mem ρ hρ) (Bool.eq_false_iff.2 honce) hc (.inl rfl)

private theorem words_freeText {raw : String} (h : '*' ∉ raw.toList) :
    words (freeText raw).toList = words (tokens raw).1 := by
  have hnot : '*' ∉ nonblank (tokens raw).1 := by
    intro hmem
    have hwords := words_applyRules_sublist isOfTokens_of_mem (unquoted raw)
    have hin := (List.Sublist.flatten hwords).subset (Chars.flatten_words (tokens raw).1 ▸ hmem)
    rw [Chars.flatten_words] at hin
    exact h (List.mem_of_mem_filter ((Rule.nonblank_scan_quoted_sublist true raw.toList).subset hin))
  rw [freeText, ofText_eq, String.toList_ofList, Chars.words_unwords (Chars.areWords_words _), List.filter_eq_self.2]
  intro c hc
  have hne : c ≠ '*' := by
    rintro rfl
    exact hnot (List.mem_filter.2 ⟨hc, by decide⟩)
  simpa using hne

/-- Without asterisks, and with one date of each kind at most, only connectors are left to be read. -/
private theorem free_words_freeText_iff {raw : String} (h : '*' ∉ raw.toList)
    (hbefore : Single .before (words (unquoted raw)))
    (hafter : Single .after (words (unquoted raw))) :
    Free (words (freeText raw).toList) ↔
      Rule.connector.Ignores (words (freeText raw).toList) := by
  refine ⟨fun hfree => hfree .connector (by decide), fun hconnector ρ hρ => ?_⟩
  by_cases hc : ρ = .connector
  · exact hc ▸ hconnector
  · have hcases : ρ = .quoted ∨ ρ ∈ Rule.ofTokens ∨ ρ = .wildcard := by cases ρ <;> simp [Rule.ofTokens]
    rcases hcases with rfl | htoken | rfl
    · exact (Rule.ignores_iff (by decide)).2 fun _ _ hclaims => hclaims
    · rw [words_freeText h]
      exact ignores_words_tokens hbefore hafter htoken hc
    · refine (Rule.ignores_iff (by decide)).2 fun w hw hstar => (normalText_freeText raw).noAsterisk ?_
      exact (Chars.infix_of_mem_words hw).subset hstar

/-- Connectors that stand apart are all read. -/
private theorem ignores_connector_freeText {raw : String} (h : '*' ∉ raw.toList)
    (hapart : Apart (words (withConnectors raw))) :
    Rule.connector.Ignores (words (freeText raw).toList) := by
  have hsplit := applyRules_append Rule.ofTokens.dropLast [.connector] (unquoted raw)
  have htokens : (tokens raw).1 = (Rule.scan .connector true (withConnectors raw)).1 := by
    rw [tokens, show Rule.ofTokens = Rule.ofTokens.dropLast ++ [.connector] from rfl, hsplit]
    rfl
  rw [words_freeText h, htokens]
  exact Rule.ignores_words_scan_connector (.inl rfl) hapart

end WorkspaceSearch.Query

namespace WorkspaceSearch

open Query

/-- The free text of any query is in normal form, and what stands in it and in the operators comes from the query.
Reading it again gives it back without operators or makes it shorter, so that it comes to rest. -/
theorem ParsedQuery.ofText_normal (raw : String) :
    NormalText (freeText raw).toList ∧
    (Chars.nonblank (freeText raw).toList).Sublist (Chars.nonblank raw.toList) ∧
    (∀ v ∈ names (ofText raw).operators, v.toList ≠ [] ∧ Chars.Solid v.toList ∧ v.toList <:+: raw.toList) ∧
    (ofText (freeText raw) = { base := freeText raw } ∨ (freeText (freeText raw)).length < (freeText raw).length) ∧
    ∃ n ≤ (freeText raw).length,
      ofText (freeText^[n] (freeText raw)) = { base := freeText^[n] (freeText raw) } := by
  have hnormal := normalText_freeText raw
  exact ⟨hnormal, nonblank_freeText_sublist raw, fun v hv => infix_of_mem_names hv, ofText_eq_or_shorter hnormal,
    exists_freeText_fixed hnormal⟩

/-- The free text of a query is read as itself exactly when it is free of operators.  When the query has no asterisk,
and one date of each kind at most once its quotes are gone, that is so exactly when no connector is left; and none is
left when no two connectors stand next to each other where the rule for connectors comes to read them. -/
theorem ParsedQuery.ofText_freeText_iff (raw : String) :
    (ofText (freeText raw) = { base := freeText raw } ↔ Free (Chars.words (freeText raw).toList)) ∧
    ('*' ∉ raw.toList → Single .before (Chars.words (unquoted raw)) → Single .after (Chars.words (unquoted raw)) →
      (ofText (freeText raw) = { base := freeText raw } ↔
        ∀ w ∈ Chars.words (freeText raw).toList, w ≠ ['A', 'N', 'D'] ∧ w ≠ ['O', 'R']) ∧
      (Apart (Chars.words (withConnectors raw)) → ofText (freeText raw) = { base := freeText raw })) := by
  have hfree : ofText (freeText raw) = { base := freeText raw } ↔ Free (Chars.words (freeText raw).toList) :=
    ofText_eq_iff_of_normal (normalText_freeText raw)
  refine ⟨hfree, fun hstar hbefore hafter => ?_⟩
  have hconnector := hfree.trans (free_words_freeText_iff hstar hbefore hafter)
  refine ⟨hconnector.trans ?_, fun hapart => hconnector.2 (ignores_connector_freeText hstar hapart)⟩
  rw [Rule.ignores_iff (by decide)]
  exact forall₂_congr fun w _ => not_or

/-- Operators of many kinds, read once. -/
theorem ParsedQuery.ofText_freeText_invoice :
    ofText (freeText "invoice -void from:@ann OR \"paid in full\" before:2024-01-01") =
      { base := freeText "invoice -void from:@ann OR \"paid in full\" before:2024-01-01" } :=
  ((ofText_freeText_iff "invoice -void from:@ann OR \"paid in full\" before:2024-01-01").2 (by decide)
    (by decide_cbv) (by decide_cbv)).2 (by decide_cbv)

/-- Of two connectors next to each other the second one is left to be read. -/
theorem ParsedQuery.ofText_freeText_connectors :
    ofText (freeText "a AND OR b") ≠ { base := freeText "a AND OR b" } := by
  decide_cbv

end WorkspaceSearch
