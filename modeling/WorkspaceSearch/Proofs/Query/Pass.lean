import Mathlib.Data.List.Chain
import WorkspaceSearch.Proofs.Query.Token

/-!
# One pass of a rule

What a rule for tokens makes of any text.  It goes over the text word by word: a word stays with the blanks in front of
it, or it is a token, and a space takes its place and that of the last of those blanks (`scan_word_cases`).  So a pass
only takes words away (`words_scan_sublist`); it takes none away exactly when it finds nothing and leaves the text as it
is (`scan_eq_self_or_lt`), which is when it has no use for any of the words (`scan_eq_self_iff`).
-/

namespace WorkspaceSearch.Query

open Chars (Blank Solid IsBreak words solid_cons words_induction)

namespace Rule

/-- A rule has no use for any of some words. -/
def Ignores (ρ : Rule) : List (List Char) → Prop
  | [] => True
  | w :: ws => ¬(ρ.Claims w ∧ (ρ = .negated → ws ≠ [])) ∧ ρ.Ignores ws

instance decidableIgnores (ρ : Rule) : (ws : List (List Char)) → Decidable (ρ.Ignores ws)
  | [] => .isTrue trivial
  | w :: ws =>
    have := decidableIgnores ρ ws
    inferInstanceAs (Decidable (¬(ρ.Claims w ∧ (ρ = .negated → ws ≠ [])) ∧ ρ.Ignores ws))

theorem ignores_iff {ρ : Rule} (hn : ρ ≠ .negated) {ws : List (List Char)} :
    ρ.Ignores ws ↔ ∀ w ∈ ws, ¬ρ.Claims w := by
  induction ws with
  | nil => simp [Ignores]
  | cons w ws ih => simp [Ignores, hn, ih]

theorem Ignores.sublist {ρ : Rule} {ws vs : List (List Char)} (h : ρ.Ignores ws) (hs : vs.Sublist ws) :
    ρ.Ignores vs := by
  induction hs with
  | slnil => exact h
  | cons w hs ih => exact ih h.2
  | @cons_cons vs ws w hs ih =>
    refine ⟨fun hc => h.1 ⟨hc.1, fun hn hnil => hc.2 hn ?_⟩, ih h.2⟩
    rw [hnil] at hs
    exact List.sublist_nil.1 hs

end Rule

/-! ### Tokens -/

namespace Token

variable {ρ : Rule} {w rest rest' : List Char} {f : Option Finding}

private theorem claims (h : Token ρ w rest f rest') : ρ.Claims w ∧ (ρ = .negated → words rest ≠ []) := by
  cases h with
  | valued hρ hds hv rest =>
    refine ⟨(Rule.claims_of_prefixed hρ).2 ⟨_, _, rfl, hds, hv⟩, ?_⟩
    rintro rfl
    exact absurd hρ (by decide)
  | negated hds hg hgap hv hne hr =>
    refine ⟨hds, fun _ => ?_⟩
    rw [Chars.words_append_word hg hv hne hr]
    exact List.cons_ne_nil _ _
  | dashed hne rest => exact ⟨⟨_, rfl, hne⟩, nofun⟩
  | and rest => exact ⟨.inl rfl, nofun⟩
  | or rest => exact ⟨.inr rfl, nofun⟩

private theorem suffix (h : Token ρ w rest f rest') : rest' <:+ rest := by
  cases h with
  | negated => exact (List.suffix_append _ _).trans (List.suffix_append _ _)
  | valued | dashed => exact rest.suffix_refl
  | and | or => exact rest.tail_suffix

/-- The scan goes on in front of a blank; only a connector takes the blank behind it. -/
private theorem isBreak (h : Token ρ w rest f rest') (hc : ρ ≠ .connector) (hr : IsBreak rest) : IsBreak rest' := by
  cases h with
  | negated hds hg hgap hv hne hr' => exact hr'
  | valued | dashed => exact hr
  | and | or => exact absurd rfl hc

private theorem words_tail (hr : IsBreak rest) : words rest.tail = words rest := by
  cases rest with
  | nil => rfl
  | cons c rest => exact (Chars.words_cons_of_isBlank (Chars.isBreak_cons.1 hr) rest).symm

/-- A token takes no part of a word behind it. -/
private theorem words_sublist (h : Token ρ w rest f rest') (hr : IsBreak rest) :
    (words rest').Sublist (words rest) := by
  cases h with
  | negated hds hg hgap hv hne hr' =>
    rw [Chars.words_append_word hg hv hne hr']
    exact List.sublist_cons_self _ _
  | valued | dashed => exact .refl _
  | and | or => rw [words_tail hr]

end Token

namespace Rule

variable {ρ : Rule} {g w rest cs : List Char}

/-! ### Word by word -/

/-- A token that is recognised but has no replacement stays, with the blanks in front of it. -/
private theorem scan_unreplaced (hρ : IsOfTokens ρ) (honce : ρ.once = false) (hg : Blank g) (hw : Solid w)
    (hne : w ≠ []) (hhit : hitToken ρ (w ++ rest) = some ⟨none, none, rest⟩) (b : Bool) :
    scan ρ b (g ++ (w ++ rest)) = (g ++ (w ++ (scan ρ false rest).1), (scan ρ false rest).2) := by
  have hbehind : scanBehind ρ rest = scan ρ false rest := by rw [scanBehind, honce]; rfl
  have hlen : ∀ cs : List Char, (cs ++ rest).take ((cs ++ rest).length - rest.length) = cs := by
    intro cs
    rw [List.length_append, Nat.add_sub_cancel, List.take_left]
  induction g generalizing b with
  | nil =>
    obtain ⟨c, v, rfl⟩ := List.exists_cons_of_ne_nil hne
    obtain ⟨hc, hv⟩ := solid_cons.1 hw
    rw [List.nil_append]
    cases b with
    | false =>
      -- inside a word nothing is recognised
      have hstay : ρ.hit false (c :: (v ++ rest)) = none := by
        rw [hit_cons_of_not_isBlank hρ hc]
        rfl
      rw [List.cons_append, scan_cons_of_none hstay, scan_solid hρ hv]
      rfl
    | true =>
      have hstart : ρ.hit true (c :: (v ++ rest)) = some ⟨none, none, rest⟩ := by
        rw [hit_cons_of_not_isBlank hρ hc]
        exact hhit
      rw [List.cons_append, scan_cons_of_hit hstart, hbehind, ← List.cons_append]
      simp only [Option.getD_none, hlen, Option.toList_none, List.nil_append]
  | cons c g ih =>
    obtain ⟨hc, hg⟩ := Chars.blank_cons.1 hg
    by_cases hnil : g = []
    · subst hnil
      have hstart : ρ.hit b (c :: (w ++ rest)) = some ⟨none, none, rest⟩ := by
        rw [hit_cons_of_isBlank hρ hc]
        exact hhit
      rw [List.cons_append, List.nil_append, scan_cons_of_hit hstart, hbehind, ← List.cons_append]
      simp only [Option.getD_none, hlen, Option.toList_none, List.nil_append]
      rfl
    · have hnone : hitToken ρ (g ++ (w ++ rest)) = none :=
        hitToken_of_isBreak ρ (hg.isBreak_append_of_ne_nil hnil _)
      rw [List.cons_append, scan_cons_of_none (by rw [hit_cons_of_isBlank hρ hc]; exact hnone), ih hg]
      rfl

/-- A word stays with the blanks in front of it, or it is a token and a space takes its place. -/
theorem scan_word_cases (hρ : IsOfTokens ρ) (hg : Blank g) (hw : Solid w) (hne : w ≠ []) (hr : IsBreak rest)
    (b : Bool) :
    (((b = true ∨ g ≠ []) → ¬(ρ.Claims w ∧ (ρ = .negated → words rest ≠ []))) ∧
      scan ρ b (g ++ (w ++ rest)) = (g ++ (w ++ (scan ρ false rest).1), (scan ρ false rest).2)) ∨
    ∃ f rest', Token ρ w rest f rest' ∧
      scan ρ b (g ++ (w ++ rest)) = (g.dropLast ++ ' ' :: (scanBehind ρ rest').1, f.toList ++ (scanBehind ρ rest').2) := by
  rcases hitToken_cases hρ hw hne hr with ⟨hnot, hnone | ⟨honce, hhit⟩⟩ | ⟨f, rest', htoken, hhit⟩
  · exact .inl ⟨fun _ => hnot, scan_word hρ hg hw hne hnone b⟩
  · exact .inl ⟨fun _ => hnot, scan_unreplaced hρ honce hg hw hne hhit b⟩
  · by_cases hb : b = true ∨ g ≠ []
    · exact .inr ⟨f, rest', htoken, scan_found hρ hg hhit hb⟩
    · -- the blank in front of the word has been taken by the word before it
      have hnil : g = [] := by
        by_contra hnil
        exact hb (.inr hnil)
      have hfalse : b = false := by
        rw [Bool.eq_false_iff]
        exact fun htrue => hb (.inl htrue)
      rw [hnil, hfalse]
      exact .inl ⟨fun h => absurd h (by simp), scan_solid hρ hw rest⟩

/-- Where the scan of a text goes on behind a token, it is a scan of that text or leaves it as it is. -/
private theorem scanBehind_cases (ρ : Rule) (rest : List Char) :
    ρ.once = true ∧ scanBehind ρ rest = (rest, []) ∨ ρ.once = false ∧ scanBehind ρ rest = scan ρ false rest := by
  cases h : ρ.once with
  | true => exact .inl ⟨rfl, if_pos h⟩
  | false => exact .inr ⟨rfl, if_neg (by simp [h])⟩

/-- A word in a text that starts with a blank has a blank in front of it. -/
private theorem gap_of_isBreak (hw : Solid w) (hne : w ≠ []) {b : Bool} (hb : b = true ∨ IsBreak (g ++ (w ++ rest))) :
    b = true ∨ g ≠ [] := by
  refine hb.imp_right ?_
  rintro hbreak rfl
  obtain ⟨c, v, rfl⟩ := List.exists_cons_of_ne_nil hne
  have hc := Chars.isBreak_cons.1 hbreak
  rw [(solid_cons.1 hw).1] at hc
  cases hc

private theorem isBreak_scan (hρ : IsOfTokens ρ) (hcs : IsBreak cs) (b : Bool) : IsBreak (scan ρ b cs).1 := by
  by_cases hblank : Blank cs
  · rw [scan_of_blank hρ hblank]
    exact hcs
  · obtain ⟨g, w, rest, rfl, hg, hw, hne, hr⟩ := Chars.exists_first_word hblank
    have hgap : g ≠ [] := (gap_of_isBreak hw hne (b := false) (.inr hcs)).resolve_left Bool.false_ne_true
    rcases scan_word_cases hρ hg hw hne hr b with ⟨-, hscan⟩ | ⟨f, rest', -, hscan⟩ <;> rw [hscan]
    · exact hg.isBreak_append_of_ne_nil hgap _
    · rw [List.append_cons]
      exact (Chars.blank_append.2 ⟨hg.dropLast, Blank.space⟩).isBreak_append_of_ne_nil (by simp) _

private theorem words_kept (hρ : IsOfTokens ρ) (hg : Blank g) (hw : Solid w) (hne : w ≠ []) (hr : IsBreak rest) :
    words (g ++ (w ++ (scan ρ false rest).1)) = w :: words (scan ρ false rest).1 :=
  Chars.words_append_word hg hw hne (isBreak_scan hρ hr false)

private theorem words_replaced (hg : Blank g) (out : List Char) : words (g.dropLast ++ ' ' :: out) = words out := by
  rw [List.append_cons, Chars.words_append_of_blank (Chars.blank_append.2 ⟨hg.dropLast, Blank.space⟩)]

/-! ### Words that are left -/

/-- A pass takes words away, and does nothing else to the words. -/
theorem words_scan_sublist (hρ : IsOfTokens ρ) (b : Bool) (cs : List Char) :
    (words (scan ρ b cs).1).Sublist (words cs) := by
  induction cs using words_induction generalizing b with
  | blank g hg =>
    rw [scan_of_blank hρ hg]
  | word g w rest hg hw hne hr ih =>
    rw [Chars.words_append_word hg hw hne hr]
    rcases scan_word_cases hρ hg hw hne hr b with ⟨-, hscan⟩ | ⟨f, rest', htoken, hscan⟩ <;> rw [hscan]
    · rw [words_kept hρ hg hw hne hr]
      exact (ih rest rest.suffix_refl false).cons_cons w
    · rw [words_replaced hg]
      have hrest := htoken.words_sublist hr
      rcases scanBehind_cases ρ rest' with ⟨-, hbehind⟩ | ⟨-, hbehind⟩ <;> rw [hbehind]
      · exact hrest.cons w
      · exact ((ih rest' htoken.suffix false).trans hrest).cons w

/-- A pass that takes a token away leaves fewer words. -/
private theorem length_words_lt (hρ : IsOfTokens ρ) (hg : Blank g) (hw : Solid w) (hne : w ≠ []) (hr : IsBreak rest)
    {f : Option Finding} {rest' : List Char} (htoken : Token ρ w rest f rest') :
    (words (g.dropLast ++ ' ' :: (scanBehind ρ rest').1)).length < (words (g ++ (w ++ rest))).length := by
  rw [words_replaced hg, Chars.words_append_word hg hw hne hr, List.length_cons]
  have hrest := (htoken.words_sublist hr).length_le
  rcases scanBehind_cases ρ rest' with ⟨-, hbehind⟩ | ⟨-, hbehind⟩ <;> rw [hbehind]
  · exact Nat.lt_succ_of_le hrest
  · exact Nat.lt_succ_of_le ((words_scan_sublist hρ false rest').length_le.trans hrest)

/-- A pass leaves a text as it is and finds nothing, or it leaves fewer words. -/
theorem scan_eq_self_or_lt (hρ : IsOfTokens ρ) (b : Bool) (cs : List Char) :
    scan ρ b cs = (cs, []) ∨ (words (scan ρ b cs).1).length < (words cs).length := by
  induction cs using words_induction generalizing b with
  | blank g hg => exact .inl (scan_of_blank hρ hg b)
  | word g w rest hg hw hne hr ih =>
    rcases scan_word_cases hρ hg hw hne hr b with ⟨-, hscan⟩ | ⟨f, rest', htoken, hscan⟩ <;> rw [hscan]
    · rcases ih rest rest.suffix_refl false with hself | hlt
      · exact .inl (by rw [hself])
      · right
        rw [words_kept hρ hg hw hne hr, Chars.words_append_word hg hw hne hr, List.length_cons, List.length_cons]
        exact Nat.succ_lt_succ hlt
    · exact .inr (length_words_lt hρ hg hw hne hr htoken)

/-- A pass leaves a text as it is exactly when the rule has no use for any of the words. -/
theorem scan_eq_self_iff (hρ : IsOfTokens ρ) {b : Bool} (hb : b = true ∨ IsBreak cs) :
    scan ρ b cs = (cs, []) ↔ ρ.Ignores (words cs) := by
  induction cs using words_induction generalizing b with
  | blank g hg => simp [scan_of_blank hρ hg, Chars.words_of_blank hg, Ignores]
  | word g w rest hg hw hne hr ih =>
    have hgap := gap_of_isBreak hw hne hb
    rw [Chars.words_append_word hg hw hne hr, Ignores]
    rcases scan_word_cases hρ hg hw hne hr b with ⟨hnot, hscan⟩ | ⟨f, rest', htoken, hscan⟩
    · rw [hscan, ← ih rest rest.suffix_refl (.inr hr)]
      constructor
      · intro h
        obtain ⟨htext, hfound⟩ := Prod.mk.inj h
        rw [List.append_cancel_left_eq, List.append_cancel_left_eq] at htext
        exact ⟨hnot hgap, Prod.ext htext hfound⟩
      · rintro ⟨-, h⟩
        rw [h]
    · refine iff_of_false (fun h => ?_) fun h => h.1 htoken.claims
      have hlt := length_words_lt hρ hg hw hne hr htoken
      rw [hscan] at h
      rw [(Prod.mk.inj h).1] at hlt
      exact Nat.lt_irrefl _ hlt

/-- A word that is left was of no use when it was read; what is left behind it does not change that. -/
private theorem not_claims_of_scan (hρ : IsOfTokens ρ)
    (hnot : ¬(ρ.Claims w ∧ (ρ = .negated → words rest ≠ []))) :
    ¬(ρ.Claims w ∧ (ρ = .negated → words (scan ρ false rest).1 ≠ [])) := by
  rintro ⟨hclaims, hbehind⟩
  refine hnot ⟨hclaims, fun hn hnil => hbehind hn ?_⟩
  have hsub := words_scan_sublist hρ false rest
  rw [hnil] at hsub
  exact List.sublist_nil.1 hsub

/-- After a pass the rule has no use for any of the words that are left.  Only a rule that is applied once may leave a
second token, and a connector may lose the blank in front of it to the connector before it. -/
theorem ignores_words_scan (hρ : IsOfTokens ρ) (honce : ρ.once = false) (hc : ρ ≠ .connector) {b : Bool}
    (hb : b = true ∨ IsBreak cs) : ρ.Ignores (words (scan ρ b cs).1) := by
  induction cs using words_induction generalizing b with
  | blank g hg =>
    rw [scan_of_blank hρ hg, Chars.words_of_blank hg]
    trivial
  | word g w rest hg hw hne hr ih =>
    rcases scan_word_cases hρ hg hw hne hr b with ⟨hnot, hscan⟩ | ⟨f, rest', htoken, hscan⟩ <;> rw [hscan]
    · rw [words_kept hρ hg hw hne hr]
      exact ⟨not_claims_of_scan hρ (hnot (gap_of_isBreak hw hne hb)), ih rest rest.suffix_refl (.inr hr)⟩
    · have hbehind : scanBehind ρ rest' = scan ρ false rest' := if_neg (by rw [honce]; simp)
      rw [words_replaced hg, hbehind]
      exact ih rest' htoken.suffix (.inr (htoken.isBreak hc hr))

/-- A rule that is applied once has no use for what it leaves when it has a use for one word at most. -/
theorem ignores_words_scan_of_pairwise (hρ : IsOfTokens ρ) (honce : ρ.once = true) {b : Bool}
    (hb : b = true ∨ IsBreak cs) (hone : (words cs).Pairwise fun v w => ¬(ρ.Claims v ∧ ρ.Claims w)) :
    ρ.Ignores (words (scan ρ b cs).1) := by
  have hn : ρ ≠ .negated := by
    rintro rfl
    cases honce
  induction cs using words_induction generalizing b with
  | blank g hg =>
    rw [scan_of_blank hρ hg, Chars.words_of_blank hg]
    trivial
  | word g w rest hg hw hne hr ih =>
    rw [Chars.words_append_word hg hw hne hr] at hone
    obtain ⟨hfirst, hrest⟩ := List.pairwise_cons.1 hone
    rcases scan_word_cases hρ hg hw hne hr b with ⟨hnot, hscan⟩ | ⟨f, rest', htoken, hscan⟩ <;> rw [hscan]
    · rw [words_kept hρ hg hw hne hr]
      exact ⟨not_claims_of_scan hρ (hnot (gap_of_isBreak hw hne hb)), ih rest rest.suffix_refl (.inr hr) hrest⟩
    · -- the token is the only one, so there is none behind it
      have hbehind : scanBehind ρ rest' = (rest', []) := if_pos honce
      rw [words_replaced hg, hbehind, ignores_iff hn]
      intro v hv hclaims
      exact hfirst v ((htoken.words_sublist hr).subset hv) ⟨htoken.claims.1, hclaims⟩

/-- A word at the front that the scan cannot recognise for want of a blank in front of it is no connector. -/
private def Guarded (b : Bool) (cs : List Char) : Prop :=
  b = true ∨ IsBreak cs ∨ ∀ w ∈ (words cs).head?, ¬Claims .connector w

private theorem guarded_tail (hr : IsBreak rest) (h : ∀ w ∈ (words rest).head?, ¬Claims .connector w) :
    Guarded false rest.tail := by
  cases rest with
  | nil => exact .inr (.inl IsBreak.nil)
  | cons c rest =>
    rw [Chars.words_cons_of_isBlank (Chars.isBreak_cons.1 hr)] at h
    exact .inr (.inr h)

/-- The rule for connectors has no use for what it leaves when no two connectors stand next to each other. -/
theorem ignores_words_scan_connector {b : Bool} (hb : b = true ∨ IsBreak cs)
    (hchain : (words cs).IsChain fun v w => ¬(Claims .connector v ∧ Claims .connector w)) :
    Ignores .connector (words (scan .connector b cs).1) := by
  have hρ : IsOfTokens .connector := by decide
  have hguarded : Guarded b cs := hb.imp_right .inl
  clear hb
  induction cs using words_induction generalizing b with
  | blank g hg =>
    rw [scan_of_blank hρ hg, Chars.words_of_blank hg]
    trivial
  | word g w rest hg hw hne hr ih =>
    rw [Guarded, Chars.words_append_word hg hw hne hr] at hguarded
    rw [Chars.words_append_word hg hw hne hr, List.isChain_cons] at hchain
    rcases scan_word_cases hρ hg hw hne hr b with ⟨hnot, hscan⟩ | ⟨f, rest', htoken, hscan⟩ <;> rw [hscan]
    · have hstays : ¬Claims .connector w := by
        rcases hguarded with htrue | hbreak | hfirst
        · exact fun hc => hnot (.inl htrue) ⟨hc, nofun⟩
        · exact fun hc => hnot (gap_of_isBreak hw hne (.inr hbreak)) ⟨hc, nofun⟩
        · exact hfirst w rfl
      rw [words_kept hρ hg hw hne hr]
      exact ⟨fun h => hstays h.1, ih rest rest.suffix_refl hchain.2 (.inr (.inl hr))⟩
    · have hclaims := htoken.claims.1
      have hnext : ∀ v ∈ (words rest).head?, ¬Claims .connector v := fun v hv hc => hchain.1 v hv ⟨hclaims, hc⟩
      -- a connector takes the blank behind it along, which the next one would need
      have htail : rest' = rest.tail := by cases htoken <;> first | rfl | exact absurd ‹_ ∈ prefixed› (by decide)
      subst htail
      rw [words_replaced hg]
      refine ih rest.tail rest.tail_suffix ?_ (guarded_tail hr hnext)
      rw [Token.words_tail hr]
      exact hchain.2

/-! ### Findings -/

/-- What a pass finds comes from tokens in the text. -/
theorem exists_token_of_mem_scan (hρ : IsOfTokens ρ) {b : Bool} {f : Finding} (h : f ∈ (scan ρ b cs).2) :
    ∃ w rest rest', Token ρ w rest (some f) rest' ∧ (w :: words rest).Sublist (words cs) := by
  induction cs using words_induction generalizing b with
  | blank g hg =>
    rw [scan_of_blank hρ hg] at h
    cases h
  | word g w rest hg hw hne hr ih =>
    rw [Chars.words_append_word hg hw hne hr]
    rcases scan_word_cases hρ hg hw hne hr b with ⟨-, hscan⟩ | ⟨f', rest', htoken, hscan⟩ <;> rw [hscan] at h
    · obtain ⟨v, behind, behind', hv, hsub⟩ := ih rest rest.suffix_refl h
      exact ⟨v, behind, behind', hv, hsub.cons w⟩
    · rcases List.mem_append.1 h with hf | hf
      · obtain rfl : f' = some f := by simpa using hf
        exact ⟨w, rest, rest', htoken, .refl _⟩
      · rcases scanBehind_cases ρ rest' with ⟨-, hbehind⟩ | ⟨-, hbehind⟩ <;> rw [hbehind] at hf
        · cases hf
        · obtain ⟨v, behind, behind', hv, hsub⟩ := ih rest' htoken.suffix hf
          exact ⟨v, behind, behind', hv, (hsub.trans (htoken.words_sublist hr)).cons w⟩

end Rule

end WorkspaceSearch.Query
