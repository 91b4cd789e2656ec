import WorkspaceSearch.Proofs.Query.Sentence
import WorkspaceSearch.Proofs.Text.Collapsed

/-!
# Tokens

What the rules for tokens recognise in any text, well formed or not.  A rule recognises some words (`Rule.Claims`), and
each of them as a token of its kind (`Token`): it takes the word away, the rule for NOT also the word behind it, and the
rule for connectors also the blank behind it.  Everything else stays, a keyword in front of nothing but sigils among
it (`hitToken_cases`).
-/

namespace WorkspaceSearch.Query

open Chars (Blank Solid IsBreak isBlank solid_cons)
open Rule (hitToken afterKeyword wordAtFront)

namespace Rule

/-- The sigil that may stand in front of the names of a rule. -/
def sigil? : Rule → Option Char
  | .sender => some '@'
  | .channel => some '#'
  | _ => none

/-- A value says something: not all of it are sigils. -/
def Tells (ρ : Rule) (v : List Char) : Prop := ∃ c ∈ v, ρ.sigil? ≠ some c

instance (ρ : Rule) (v : List Char) : Decidable (ρ.Tells v) := List.decidableBEx _ v

/-- What a rule finds in a value. -/
def findingOf (ρ : Rule) (v : List Char) : Finding :=
  match ρ with
  | .sender => .sender (.ofList (v.dropWhile (· == '@')))
  | .channel => .channel (.ofList (v.dropWhile (· == '#')))
  | .has => .has (HasTag.ofName (.ofList v))
  | .before => .before (Instant.ofQuery? (.ofList v))
  | .after => .after (Instant.ofQuery? (.ofList v))
  | _ => .exclude (.ofList v)

/-- A rule has a use for a word; the rule for NOT also needs a word behind it. -/
def Claims : Rule → List Char → Prop
  | .quoted, _ => False
  | .sender, w => ∃ ds v, w = ds ++ v ∧ Spells .sender ds ∧ Tells .sender v
  | .channel, w => ∃ ds v, w = ds ++ v ∧ Spells .channel ds ∧ Tells .channel v
  | .has, w => ∃ ds v, w = ds ++ v ∧ Spells .has ds ∧ Tells .has v
  | .before, w => ∃ ds v, w = ds ++ v ∧ Spells .before ds ∧ Tells .before v
  | .after, w => ∃ ds v, w = ds ++ v ∧ Spells .after ds ∧ Tells .after v
  | .negated, w => Spells .negated w
  | .dashed, w => ∃ v, w = '-' :: v ∧ v ≠ []
  | .connector, w => w = ['A', 'N', 'D'] ∨ w = ['O', 'R']
  | .wildcard, w => '*' ∈ w

theorem claims_of_prefixed {ρ : Rule} (hρ : ρ ∈ prefixed) {w : List Char} :
    ρ.Claims w ↔ ∃ ds v, w = ds ++ v ∧ Spells ρ ds ∧ ρ.Tells v := by
  cases ρ <;> first | exact Iff.rfl | exact absurd hρ (by decide)

private theorem claims_iff_afterKeyword {ρ : Rule} (hρ : ρ ∈ prefixed) {w : List Char} :
    (∃ v ∈ afterKeyword ρ.keyword w, ρ.Tells v) ↔ ρ.Claims w := by
  rw [claims_of_prefixed hρ]
  constructor
  · rintro ⟨v, hk, hv⟩
    obtain ⟨ds, rfl, hds⟩ := afterKeyword_eq_some hk
    exact ⟨ds, v, rfl, hds, hv⟩
  · rintro ⟨ds, v, rfl, hds, hv⟩
    exact ⟨v, afterKeyword_append_of_forall₂ hds v, hv⟩

private theorem claims_dashed_iff {w : List Char} : w.head? = some '-' ∧ w.tail ≠ [] ↔ Claims .dashed w := by
  constructor
  · rintro ⟨hhead, htail⟩
    obtain ⟨v, rfl⟩ := List.head?_eq_some_iff.1 hhead
    exact ⟨v, rfl, htail⟩
  · rintro ⟨v, rfl, hne⟩
    exact ⟨rfl, hne⟩

private def decidableClaims {ρ : Rule} (hρ : ρ ∈ prefixed) (w : List Char) : Decidable (ρ.Claims w) :=
  decidable_of_iff (∃ v ∈ afterKeyword ρ.keyword w, ρ.Tells v) (claims_iff_afterKeyword hρ)

instance (ρ : Rule) (w : List Char) : Decidable (ρ.Claims w) :=
  match ρ with
  | .quoted => .isFalse id
  | .sender => decidableClaims (ρ := .sender) (by decide) w
  | .channel => decidableClaims (ρ := .channel) (by decide) w
  | .has => decidableClaims (ρ := .has) (by decide) w
  | .before => decidableClaims (ρ := .before) (by decide) w
  | .after => decidableClaims (ρ := .after) (by decide) w
  | .negated => inferInstanceAs (Decidable (Spells .negated w))
  | .dashed => decidable_of_iff (w.head? = some '-' ∧ w.tail ≠ []) claims_dashed_iff
  | .connector => inferInstanceAs (Decidable (w = ['A', 'N', 'D'] ∨ w = ['O', 'R']))
  | .wildcard => inferInstanceAs (Decidable ('*' ∈ w))

end Rule

/-- A word that a rule takes away, the text behind it, what is found, and the text with which the scan goes on. -/
inductive Token : Rule → List Char → List Char → Option Finding → List Char → Prop
  | valued {ρ : Rule} (hρ : ρ ∈ Rule.prefixed) {ds v : List Char} (hds : Spells ρ ds) (hv : ρ.Tells v)
    (rest : List Char) : Token ρ (ds ++ v) rest (some (ρ.findingOf v)) rest
  | negated {ds g v rest : List Char} (hds : Spells .negated ds) (hg : Blank g) (hgap : g ≠ []) (hv : Solid v)
    (hne : v ≠ []) (hr : IsBreak rest) :
    Token .negated ds (g ++ (v ++ rest)) (some (Rule.findingOf .negated v)) rest
  | dashed {v : List Char} (hne : v ≠ []) (rest : List Char) :
    Token .dashed ('-' :: v) rest (some (Rule.findingOf .dashed v)) rest
  | and (rest : List Char) : Token .connector ['A', 'N', 'D'] rest none rest.tail
  | or (rest : List Char) : Token .connector ['O', 'R'] rest (some .matchAny) rest.tail

namespace Rule

variable {ρ : Rule} {w rest : List Char}

/-! ### Keywords and values -/

private theorem dropWhile_eq_nil_iff {v : List Char} {sigil : Char} (h : ρ.sigil? = some sigil) :
    v.dropWhile (· == sigil) = [] ↔ ¬ρ.Tells v := by
  rw [List.dropWhile_eq_nil_iff, Tells, h]
  push Not
  exact forall₂_congr fun c _ => by rw [beq_iff_eq, Option.some.injEq, eq_comm]

private theorem tells_iff_ne_nil (h : ρ.sigil? = none) {v : List Char} : ρ.Tells v ↔ v ≠ [] := by
  rw [Tells, h]
  constructor
  · rintro ⟨c, hc, -⟩
    exact List.ne_nil_of_mem hc
  · intro hne
    obtain ⟨c, v, rfl⟩ := List.exists_cons_of_ne_nil hne
    exact ⟨c, List.mem_cons_self, nofun⟩

private theorem wordAtFront_of_solid {v : List Char} (hv : Solid v) (hne : v ≠ []) : wordAtFront v = some (v, []) := by
  have hfront := wordAtFront_append hv hne IsBreak.nil
  rwa [List.append_nil] at hfront

private theorem hitToken_valued {ks v : List Char} (finding : String → Finding) (hk : afterKeyword ks w = some v)
    (hv : Solid v) (hne : v ≠ []) : hitToken.valued w ks finding = some (.found (finding (.ofList v)) []) := by
  simp only [hitToken.valued, hk, Option.bind_eq_bind, Option.bind_some, wordAtFront_of_solid hv hne]

private theorem hitToken_named {ks v : List Char} {sigil : Char} (finding : String → Finding)
    (hk : afterKeyword ks w = some v) (hv : Solid v) (hne : v ≠ []) :
    hitToken.named w ks sigil finding =
      if v.dropWhile (· == sigil) = [] then some ⟨none, none, []⟩
      else some (.found (finding (.ofList (v.dropWhile (· == sigil)))) []) := by
  simp only [hitToken.named, hk, Option.bind_eq_bind, Option.bind_some, wordAtFront_of_solid hv hne]
  cases v.dropWhile (· == sigil) <;> rfl

/-- A rule with a value recognises a keyword and a value that says something. -/
theorem hitToken_of_tells (hρ : ρ ∈ prefixed) {ds v : List Char} (hds : Spells ρ ds) (hv : Solid v)
    (htells : ρ.Tells v) : hitToken ρ (ds ++ v) = some ⟨some [' '], some (ρ.findingOf v), []⟩ := by
  have hk : afterKeyword ρ.keyword (ds ++ v) = some v := afterKeyword_append_of_forall₂ hds v
  have hne : v ≠ [] := by
    rintro rfl
    obtain ⟨c, hc, -⟩ := htells
    cases hc
  cases ρ with
  | sender | channel =>
    have hname := (dropWhile_eq_nil_iff rfl).not.2 (not_not.2 htells)
    simp only [keyword] at hk
    simp only [hitToken_sender, hitToken_channel, hitToken_named _ hk hv hne, if_neg hname]
    rfl
  | has | before | after =>
    simp only [keyword] at hk
    simp only [hitToken_has, hitToken_before, hitToken_after, hitToken_valued _ hk hv hne]
    rfl
  | _ => exact absurd hρ (by decide)

/-- A keyword in front of nothing, or of nothing but sigils, stays. -/
private theorem hitToken_of_not_tells (hρ : ρ ∈ prefixed) {ds v : List Char} (hds : Spells ρ ds) (hv : Solid v)
    (htells : ¬ρ.Tells v) :
    hitToken ρ (ds ++ v) = none ∨ ρ.once = false ∧ hitToken ρ (ds ++ v) = some ⟨none, none, []⟩ := by
  have hk : afterKeyword ρ.keyword (ds ++ v) = some v := afterKeyword_append_of_forall₂ hds v
  by_cases hnil : v = []
  · subst hnil
    left
    have hfront : wordAtFront [] = none := rfl
    cases ρ with
    | sender | channel =>
      simp only [keyword] at hk
      simp only [hitToken_sender, hitToken_channel, hitToken.named, hk, Option.bind_eq_bind, Option.bind_some, hfront, Option.bind_none]
    | has | before | after =>
      simp only [keyword] at hk
      simp only [hitToken_has, hitToken_before, hitToken_after, hitToken.valued, hk, Option.bind_eq_bind,
        Option.bind_some, hfront, Option.bind_none]
    | _ => exact absurd hρ (by decide)
  · right
    cases ρ with
    | sender | channel =>
      have hname := (dropWhile_eq_nil_iff rfl).2 htells
      simp only [keyword] at hk
      refine ⟨rfl, ?_⟩
      simp only [hitToken_sender, hitToken_channel, hitToken_named _ hk hv hnil, if_pos hname]
    | has | before | after => exact absurd ((tells_iff_ne_nil rfl).2 hnil) htells
    | _ => exact absurd hρ (by decide)

/-! ### Words in a text -/

private theorem solid_of_spells_append {ds v : List Char} (hw : Solid (ds ++ v)) : Solid v := (Chars.solid_append.1 hw).2

/-- A word stays, or it is a token that is taken away. -/
private theorem hitToken_prefixed_cases (hρ : ρ ∈ prefixed) (hw : Solid w) (hne : w ≠ []) (hr : IsBreak rest) :
    (¬ρ.Claims w ∧ (hitToken ρ (w ++ rest) = none ∨
      ρ.once = false ∧ hitToken ρ (w ++ rest) = some ⟨none, none, rest⟩)) ∨
    ∃ f, Token ρ w rest f rest ∧ hitToken ρ (w ++ rest) = some ⟨some [' '], f, rest⟩ := by
  have hn : ρ ≠ .negated := fun h => absurd (h ▸ hρ) (by decide)
  have hc : ρ ≠ .connector := fun h => absurd (h ▸ hρ) (by decide)
  rw [hitToken_append hn hc hw hne hr]
  by_cases hclaims : ρ.Claims w
  · obtain ⟨ds, v, rfl, hds, hv⟩ := (claims_of_prefixed hρ).1 hclaims
    exact .inr ⟨_, .valued hρ hds hv rest, by rw [hitToken_of_tells hρ hds (solid_of_spells_append hw) hv]; rfl⟩
  · refine .inl ⟨hclaims, ?_⟩
    cases hk : afterKeyword ρ.keyword w with
    | none =>
      left
      rw [hitToken_of_afterKeyword hρ hk]
      rfl
    | some v =>
      obtain ⟨ds, rfl, hds⟩ := afterKeyword_eq_some hk
      have hv : ¬ρ.Tells v := fun hv => hclaims ((claims_of_prefixed hρ).2 ⟨ds, v, rfl, hds, hv⟩)
      rcases hitToken_of_not_tells hρ hds (solid_of_spells_append hw) hv with h | ⟨honce, h⟩
      · left
        rw [h]
        rfl
      · right
        rw [h]
        exact ⟨honce, rfl⟩

private theorem hitToken_negated_cases (hw : Solid w) (hr : IsBreak rest) :
    (¬(Claims .negated w ∧ Chars.words rest ≠ []) ∧ hitToken .negated (w ++ rest) = none) ∨
    ∃ f rest', Token .negated w rest f rest' ∧ hitToken .negated (w ++ rest) = some ⟨some [' '], f, rest'⟩ := by
  by_cases hspells : Spells .negated w
  · have hk := afterKeyword_append_of_forall₂ hspells rest
    simp only [keyword] at hk
    by_cases hblank : Blank rest
    · left
      refine ⟨fun h => h.2 (Chars.words_of_blank hblank), ?_⟩
      cases rest with
      | nil =>
        refine hitToken_negated_of_forall fun c behind hkey => ?_
        rw [hk] at hkey
        cases hkey
      | cons c rest =>
        obtain ⟨hc, hrest⟩ := Chars.blank_cons.1 hblank
        have htrim := Chars.trimStart_append_of_blank hrest []
        rw [List.append_nil] at htrim
        rw [hitToken_not hk hc, htrim]
        rfl
    · right
      obtain ⟨g, v, rest', rfl, hg, hv, hne, hr'⟩ := Chars.exists_first_word hblank
      -- a break stands behind the word, so the gap is not empty
      have hgap : g ≠ [] := by
        rintro rfl
        obtain ⟨c, v, rfl⟩ := List.exists_cons_of_ne_nil hne
        have hblank := Chars.isBreak_cons.1 hr
        rw [(solid_cons.1 hv).1] at hblank
        cases hblank
      obtain ⟨c, g, rfl⟩ := List.exists_cons_of_ne_nil hgap
      obtain ⟨hc, hg'⟩ := Chars.blank_cons.1 hg
      refine ⟨_, rest', .negated hspells hg hgap hv hne hr', ?_⟩
      rw [List.cons_append] at hk ⊢
      rw [hitToken_not hk hc, Chars.trimStart_append_of_blank hg', Chars.trimStart_append_of_solid hv hne,
        wordAtFront_append hv hne hr']
      rfl
  · left
    refine ⟨fun h => hspells h.1, hitToken_negated_append hw hr fun h => hspells ?_⟩
    exact afterKeyword_eq_some_nil_iff.1 h

private theorem hitToken_dashed_cases (hw : Solid w) (hne : w ≠ []) (hr : IsBreak rest) :
    (¬Claims .dashed w ∧ hitToken .dashed (w ++ rest) = none) ∨
    ∃ f, Token .dashed w rest f rest ∧ hitToken .dashed (w ++ rest) = some ⟨some [' '], f, rest⟩ := by
  obtain ⟨c, v, rfl⟩ := List.exists_cons_of_ne_nil hne
  by_cases hc : c = '-'
  · subst hc
    by_cases hnil : v = []
    · subst hnil
      left
      refine ⟨by rintro ⟨v, hv, hne⟩; exact hne (List.cons.inj hv).2.symm, ?_⟩
      rw [List.cons_append, List.nil_append, hitToken_dash, wordAtFront_of_isBreak hr, Option.map_none]
    · right
      refine ⟨_, .dashed hnil rest, ?_⟩
      rw [List.cons_append, hitToken_dash, wordAtFront_append (solid_cons.1 hw).2 hnil hr]
      rfl
  · left
    refine ⟨by rintro ⟨v, hv, -⟩; exact hc (List.cons.inj hv).1, ?_⟩
    exact hitToken_dashed_of_forall fun behind hdash => hc (List.cons.inj hdash).1

private theorem hitToken_connector_cases (hw : Solid w) (hr : IsBreak rest) :
    (¬Claims .connector w ∧ hitToken .connector (w ++ rest) = none) ∨
    ∃ f, Token .connector w rest f rest.tail ∧
      hitToken .connector (w ++ rest) = some ⟨some [' '], f, rest.tail⟩ := by
  by_cases hand : w = ['A', 'N', 'D']
  · subst hand
    refine .inr ⟨_, .and rest, (hitToken_and rest).trans ?_⟩
    rw [afterEnd_of_isBreak hr, Option.map_some]
  · by_cases hor : w = ['O', 'R']
    · subst hor
      refine .inr ⟨_, .or rest, (hitToken_or rest).trans ?_⟩
      rw [afterEnd_of_isBreak hr, Option.map_some, Hit.found]
    · exact .inl ⟨fun h => h.elim hand hor, hitToken_connector_append hw hr hand hor⟩

/-- A rule for tokens leaves a word alone that it has no use for; any other word is a token that it takes away. -/
theorem hitToken_cases (hρ : IsOfTokens ρ) (hw : Solid w) (hne : w ≠ []) (hr : IsBreak rest) :
    (¬(ρ.Claims w ∧ (ρ = .negated → Chars.words rest ≠ [])) ∧
      (hitToken ρ (w ++ rest) = none ∨ ρ.once = false ∧ hitToken ρ (w ++ rest) = some ⟨none, none, rest⟩)) ∨
    ∃ f rest', Token ρ w rest f rest' ∧ hitToken ρ (w ++ rest) = some ⟨some [' '], f, rest'⟩ := by
  by_cases hprefixed : ρ ∈ prefixed
  · exact (hitToken_prefixed_cases hprefixed hw hne hr).imp (fun h => ⟨fun hc => h.1 hc.1, h.2⟩)
      fun ⟨f, h⟩ => ⟨f, rest, h⟩
  · cases ρ with
    | quoted => exact absurd rfl hρ.1
    | wildcard => exact absurd rfl hρ.2
    | negated =>
      exact (hitToken_negated_cases hw hr).imp_left fun h => ⟨fun hc => h.1 ⟨hc.1, hc.2 rfl⟩, .inl h.2⟩
    | dashed =>
      exact (hitToken_dashed_cases hw hne hr).imp (fun h => ⟨fun hc => h.1 hc.1, .inl h.2⟩)
        fun ⟨f, h⟩ => ⟨f, rest, h⟩
    | connector =>
      exact (hitToken_connector_cases hw hr).imp (fun h => ⟨fun hc => h.1 hc.1, .inl h.2⟩)
        fun ⟨f, h⟩ => ⟨f, rest.tail, h⟩
    | _ => exact absurd (by decide) hprefixed

end Rule

end WorkspaceSearch.Query
