import Mathlib.Data.List.Forall2
import WorkspaceSearch.Proofs.Text.Words
import WorkspaceSearch.Query.Rule

/-!
# Scanning words and blanks

How a rule for tokens goes over a text made of words and blanks.  Whether it recognises a word hangs on the word alone
(`hitToken_append`); only the rule for NOT looks at the word behind, and only the rule for connectors at the blank
behind.  So the scan copies the words that the rule does not recognise together with the blanks in front of them
(`scan_blank`, `scan_solid`), and puts a space in place of a word that it recognises and the last blank in front of it
(`scan_found`).
-/

namespace WorkspaceSearch.Query

open Chars (Blank Solid IsBreak isBlank blank_cons solid_cons isBreak_cons)

/-- A hit with more text behind it. -/
def Hit.before (rest : List Char) (h : Hit) : Hit := { h with rest := h.rest ++ rest }

namespace Rule

/-! ### Keywords -/

private theorem isAsciiUpper_of_isBlank {c : Char} (h : isBlank c = true) : Chars.isAsciiUpper c = false := by
  rw [Bool.eq_false_iff]
  intro hu
  simp only [Chars.isAsciiUpper, Bool.and_eq_true, decide_eq_true_eq, Char.le_def, UInt32.le_iff_toNat_le] at hu
  simp only [isBlank, Bool.or_eq_true, Bool.and_eq_true, decide_eq_true_eq] at h
  have hn : c.val.toNat = c.toNat := rfl
  have hA : 'A'.val.toNat = 65 := rfl
  have hZ : 'Z'.val.toNat = 90 := rfl
  omega

/-- A blank is no letter of a keyword. -/
theorem isKeywordLetter_of_isBlank {k c : Char} (hk : isBlank k = false) (h : isBlank c = true) :
    isKeywordLetter k c = false := by
  rw [Bool.eq_false_iff]
  intro hl
  simp only [isKeywordLetter, Chars.asciiLower, isAsciiUpper_of_isBlank h, Bool.false_eq_true, if_false,
    Bool.or_eq_true, beq_iff_eq, Bool.and_eq_true] at hl
  rcases hl with rfl | ⟨-, rfl⟩
  · rw [h] at hk
    cases hk
  · revert h
    decide

/-- The keyword that a rule looks for, in small letters. -/
def keyword : Rule → List Char
  | .sender => ['f', 'r', 'o', 'm', ':']
  | .channel => ['i', 'n', ':']
  | .has => ['h', 'a', 's', ':']
  | .before => ['b', 'e', 'f', 'o', 'r', 'e', ':']
  | .after => ['a', 'f', 't', 'e', 'r', ':']
  | .negated => ['n', 'o', 't']
  | _ => []

/-- The rules with a keyword and a value right behind it. -/
def prefixed : List Rule := [.sender, .channel, .has, .before, .after]

/-- A keyword is read off the front of a text that spells it. -/
theorem afterKeyword_append_of_forall₂ {ks cs : List Char}
    (h : List.Forall₂ (fun k c => isKeywordLetter k c = true) ks cs) (rest : List Char) :
    afterKeyword ks (cs ++ rest) = some rest := by
  induction h with
  | nil => rfl
  | cons hc _ ih =>
    rw [List.cons_append, afterKeyword, hc]
    exact ih

/-- What stands behind a keyword at the front of a text: the front spells the keyword. -/
theorem afterKeyword_eq_some {ks cs rest : List Char} (h : afterKeyword ks cs = some rest) :
    ∃ ds, cs = ds ++ rest ∧ List.Forall₂ (fun k c => isKeywordLetter k c = true) ks ds := by
  induction ks generalizing cs with
  | nil => exact ⟨[], by simpa [afterKeyword] using h, .nil⟩
  | cons k ks ih =>
    cases cs with
    | nil => simp [afterKeyword] at h
    | cons c cs =>
      simp only [afterKeyword] at h
      split at h
      · next hc =>
        obtain ⟨ds, rfl, hds⟩ := ih h
        exact ⟨c :: ds, rfl, .cons hc hds⟩
      · cases h

/-- No keyword stands at the end of a word. -/
private theorem afterKeyword_of_isBreak {k : Char} (ks : List Char) {cs : List Char} (hk : isBlank k = false)
    (h : IsBreak cs) : afterKeyword (k :: ks) cs = none := by
  cases cs with
  | nil => rfl
  | cons c cs => simp [afterKeyword, isKeywordLetter_of_isBlank hk (isBreak_cons.1 h)]

/-- A keyword does not reach beyond the end of a word. -/
private theorem afterKeyword_append {ks w rest : List Char} (hk : Solid ks) (hr : IsBreak rest) :
    afterKeyword ks (w ++ rest) = (afterKeyword ks w).map (· ++ rest) := by
  induction ks generalizing w with
  | nil => rfl
  | cons k ks ih =>
    obtain ⟨hk, hks⟩ := solid_cons.1 hk
    cases w with
    | nil => exact afterKeyword_of_isBreak ks hk hr
    | cons c w =>
      simp only [List.cons_append, afterKeyword]
      split
      · exact ih hks
      · rfl

private theorem solid_of_afterKeyword {ks w rest : List Char} (hw : Solid w) (h : afterKeyword ks w = some rest) :
    Solid rest := by
  obtain ⟨ds, rfl, -⟩ := afterKeyword_eq_some h
  exact (Chars.solid_append.1 hw).2

/-! ### The word at the front -/

theorem wordAtFront_append {w rest : List Char} (hw : Solid w) (hne : w ≠ []) (hr : IsBreak rest) :
    wordAtFront (w ++ rest) = some (w, rest) := by
  obtain ⟨c, w, rfl⟩ := List.exists_cons_of_ne_nil hne
  rw [wordAtFront, Chars.splitWord_append hw hr]

theorem wordAtFront_of_isBreak {rest : List Char} (hr : IsBreak rest) : wordAtFront rest = none := by
  have hsplit := Chars.splitWord_append (w := []) (by simp [Solid]) hr
  rw [List.nil_append] at hsplit
  rw [wordAtFront, hsplit]

private theorem wordAtFront_append_map {w rest : List Char} (hw : Solid w) (hr : IsBreak rest) :
    wordAtFront (w ++ rest) = (wordAtFront w).map fun p => (p.1, p.2 ++ rest) := by
  by_cases hne : w = []
  · subst hne
    rw [List.nil_append, wordAtFront_of_isBreak hr, wordAtFront_of_isBreak IsBreak.nil]
    rfl
  · have halone := wordAtFront_append hw hne IsBreak.nil
    rw [List.append_nil] at halone
    rw [wordAtFront_append hw hne hr, halone]
    rfl

/-! ### What a rule recognises -/

private theorem valued_append {ks w rest : List Char} (hk : Solid ks) (hw : Solid w) (hr : IsBreak rest)
    (finding : String → Finding) :
    hitToken.valued (w ++ rest) ks finding = (hitToken.valued w ks finding).map (Hit.before rest) := by
  simp only [hitToken.valued, afterKeyword_append hk hr]
  cases h : afterKeyword ks w with
  | none => rfl
  | some r =>
    simp only [Option.map_some, Option.bind_eq_bind, Option.bind_some,
      wordAtFront_append_map (solid_of_afterKeyword hw h) hr]
    cases wordAtFront r <;> rfl

private theorem named_append {ks w rest : List Char} (hk : Solid ks) (hw : Solid w) (hr : IsBreak rest)
    (sigil : Char) (finding : String → Finding) :
    hitToken.named (w ++ rest) ks sigil finding = (hitToken.named w ks sigil finding).map (Hit.before rest) := by
  simp only [hitToken.named, afterKeyword_append hk hr]
  cases h : afterKeyword ks w with
  | none => rfl
  | some r =>
    simp only [Option.map_some, Option.bind_eq_bind, Option.bind_some,
      wordAtFront_append_map (solid_of_afterKeyword hw h) hr]
    cases wordAtFront r with
    | none => rfl
    | some p =>
      simp only [Option.map_some, Option.bind_some]
      cases p.1.dropWhile (· == sigil) <;> rfl

private theorem valued_of_none {ks cs : List Char} (h : afterKeyword ks cs = none) (finding : String → Finding) :
    hitToken.valued cs ks finding = none := by
  rw [hitToken.valued, h]
  rfl

private theorem named_of_none {ks cs : List Char} (h : afterKeyword ks cs = none) (sigil : Char)
    (finding : String → Finding) : hitToken.named cs ks sigil finding = none := by
  rw [hitToken.named, h]
  rfl

/-- What follows a word does not matter to the rules that look at one word only. -/
theorem hitToken_append {ρ : Rule} (hn : ρ ≠ .negated) (hc : ρ ≠ .connector) {w rest : List Char} (hw : Solid w)
    (hne : w ≠ []) (hr : IsBreak rest) : hitToken ρ (w ++ rest) = (hitToken ρ w).map (Hit.before rest) := by
  cases ρ with
  | quoted => rfl
  | sender =>
    have hk : Solid ['f', 'r', 'o', 'm', ':'] := by decide
    exact named_append hk hw hr '@' .sender
  | channel =>
    have hk : Solid ['i', 'n', ':'] := by decide
    exact named_append hk hw hr '#' .channel
  | has =>
    rw [hitToken_has, hitToken_has]
    exact valued_append (by decide) hw hr _
  | before =>
    rw [hitToken_before, hitToken_before]
    exact valued_append (by decide) hw hr _
  | after =>
    rw [hitToken_after, hitToken_after]
    exact valued_append (by decide) hw hr _
  | negated => exact absurd rfl hn
  | dashed =>
    obtain ⟨c, v, rfl⟩ := List.exists_cons_of_ne_nil hne
    by_cases hdash : c = '-'
    · subst hdash
      rw [List.cons_append, hitToken_dash, hitToken_dash, wordAtFront_append_map (solid_cons.1 hw).2 hr,
        Option.map_map, Option.map_map]
      rfl
    · have hother : ∀ ds rest, c :: ds ≠ '-' :: rest := fun ds rest h => hdash (List.cons.inj h).1
      rw [List.cons_append, hitToken_dashed_of_forall (hother _), hitToken_dashed_of_forall (hother _), Option.map_none]
  | connector => exact absurd rfl hc
  | wildcard => rfl

/-- The rule for NOT recognises no other word. -/
theorem hitToken_negated_append {w rest : List Char} (hw : Solid w) (hr : IsBreak rest)
    (h : afterKeyword ['n', 'o', 't'] w ≠ some []) : hitToken .negated (w ++ rest) = none := by
  refine hitToken_negated_of_forall fun c behind hkey => ?_
  rw [afterKeyword_append (by decide) hr] at hkey
  obtain ⟨inside, hinside, hbehind⟩ := Option.map_eq_some_iff.1 hkey
  have hne : inside ≠ [] := by
    rintro rfl
    exact h hinside
  obtain ⟨d, ds, rfl⟩ := List.exists_cons_of_ne_nil hne
  obtain ⟨rfl, -⟩ := List.cons.inj hbehind
  exact (solid_cons.1 (solid_of_afterKeyword hw hinside)).1

theorem afterEnd_of_isBreak {rest : List Char} (hr : IsBreak rest) : hitToken.afterEnd rest = some rest.tail := by
  cases rest with
  | nil => rfl
  | cons c rest => simp [hitToken.afterEnd, isBreak_cons.1 hr]

private theorem afterEnd_append_of_solid {w : List Char} (hw : Solid w) (hne : w ≠ []) (rest : List Char) :
    hitToken.afterEnd (w ++ rest) = none := by
  obtain ⟨c, w, rfl⟩ := List.exists_cons_of_ne_nil hne
  simp [hitToken.afterEnd, (solid_cons.1 hw).1]

/-- The word of a keyword at the front of a word and a text that does not go on with it. -/
private theorem append_eq_cons_of_isBreak {c : Char} {w rest ds : List Char} (hc : isBlank c = false)
    (hr : IsBreak rest) (h : w ++ rest = c :: ds) : ∃ v, w = c :: v ∧ v ++ rest = ds := by
  cases w with
  | nil =>
    rw [List.nil_append] at h
    subst h
    rw [isBreak_cons.1 hr] at hc
    cases hc
  | cons d v =>
    obtain ⟨rfl, hds⟩ := List.cons.inj h
    exact ⟨v, rfl, hds⟩

/-- The rule for connectors recognises no other word. -/
theorem hitToken_connector_append {w rest : List Char} (hw : Solid w) (hr : IsBreak rest)
    (hand : w ≠ ['A', 'N', 'D']) (hor : w ≠ ['O', 'R']) : hitToken .connector (w ++ rest) = none := by
  refine hitToken_connector_of_forall (fun r h => ?_) fun r h => ?_
  · obtain ⟨v, rfl, h1⟩ := append_eq_cons_of_isBreak (by decide) hr h
    obtain ⟨v, rfl, h2⟩ := append_eq_cons_of_isBreak (by decide) hr h1
    obtain ⟨v, rfl, rfl⟩ := append_eq_cons_of_isBreak (by decide) hr h2
    have hand' : Solid (['A', 'N', 'D'] ++ v) := hw
    exact afterEnd_append_of_solid (Chars.solid_append.1 hand').2 (fun hnil => hand (by rw [hnil])) rest
  · obtain ⟨v, rfl, h1⟩ := append_eq_cons_of_isBreak (by decide) hr h
    obtain ⟨v, rfl, rfl⟩ := append_eq_cons_of_isBreak (by decide) hr h1
    have hor' : Solid (['O', 'R'] ++ v) := hw
    exact afterEnd_append_of_solid (Chars.solid_append.1 hor').2 (fun hnil => hor (by rw [hnil])) rest

/-- Nothing is recognised where a blank stands or the text is at its end. -/
theorem hitToken_of_isBreak (ρ : Rule) {cs : List Char} (h : IsBreak cs) : hitToken ρ cs = none := by
  have hkey : ∀ (k : Char) (ks : List Char), isBlank k = false → afterKeyword (k :: ks) cs = none :=
    fun k ks hk => afterKeyword_of_isBreak ks hk h
  have hsolid : ∀ c rest, isBlank c = false → cs ≠ c :: rest := by
    rintro c rest hc rfl
    rw [isBreak_cons.1 h] at hc
    cases hc
  cases ρ with
  | quoted => rfl
  | sender => exact named_of_none (hkey 'f' _ (by decide)) _ _
  | channel => exact named_of_none (hkey 'i' _ (by decide)) _ _
  | has => rw [hitToken_has, valued_of_none (hkey 'h' _ (by decide))]
  | before => rw [hitToken_before, valued_of_none (hkey 'b' _ (by decide))]
  | after => rw [hitToken_after, valued_of_none (hkey 'a' _ (by decide))]
  | negated =>
    refine hitToken_negated_of_forall fun c rest hsome => ?_
    rw [hkey 'n' _ (by decide)] at hsome
    cases hsome
  | dashed => exact hitToken_dashed_of_forall fun rest hcs => hsolid '-' rest (by decide) hcs
  | connector =>
    exact hitToken_connector_of_forall (fun rest hcs => absurd hcs (hsolid 'A' _ (by decide)))
      fun rest hcs => absurd hcs (hsolid 'O' _ (by decide))
  | wildcard => rfl

/-- A rule with a keyword and a value recognises nothing where its keyword does not stand. -/
theorem hitToken_of_afterKeyword {ρ : Rule} (hρ : ρ ∈ prefixed) {cs : List Char}
    (h : afterKeyword ρ.keyword cs = none) : hitToken ρ cs = none := by
  cases ρ with
  | sender | channel => exact named_of_none h _ _
  | has => exact (hitToken_has cs).trans (valued_of_none h _)
  | before => exact (hitToken_before cs).trans (valued_of_none h _)
  | after => exact (hitToken_after cs).trans (valued_of_none h _)
  | _ => exact absurd hρ (by decide)

/-! ### One step of a scan -/

/-- What a rule makes of the text behind a place that it has recognised. -/
def scanBehind (ρ : Rule) (rest : List Char) : List Char × List Finding :=
  if ρ.once then (rest, []) else scan ρ false rest

/-- The rules that look at the start of tokens. -/
def IsOfTokens (ρ : Rule) : Prop := ρ ≠ .quoted ∧ ρ ≠ .wildcard

instance (ρ : Rule) : Decidable (IsOfTokens ρ) := inferInstanceAs (Decidable (_ ∧ _))

theorem scan_nil (ρ : Rule) (b : Bool) : scan ρ b [] = ([], []) := by rw [scan]

private theorem scan_cons (ρ : Rule) (b : Bool) (c : Char) (cs : List Char) :
    scan ρ b (c :: cs) =
      match ρ.hit b (c :: cs) with
      | none => (c :: (scan ρ false cs).1, (scan ρ false cs).2)
      | some hit =>
        (hit.replacement.getD ((c :: cs).take ((c :: cs).length - hit.rest.length)) ++ (scanBehind ρ hit.rest).1,
          hit.finding.toList ++ (scanBehind ρ hit.rest).2) := by
  rw [scan]
  split
  · next hnone => rw [hnone]
  · next hit hsome =>
    rw [hsome]
    rfl

theorem scan_cons_of_none {ρ : Rule} {b : Bool} {c : Char} {cs : List Char} (h : ρ.hit b (c :: cs) = none) :
    scan ρ b (c :: cs) = (c :: (scan ρ false cs).1, (scan ρ false cs).2) := by
  rw [scan_cons, h]

theorem scan_cons_of_hit {ρ : Rule} {b : Bool} {c : Char} {cs : List Char} {hit : Hit}
    (h : ρ.hit b (c :: cs) = some hit) :
    scan ρ b (c :: cs) =
      (hit.replacement.getD ((c :: cs).take ((c :: cs).length - hit.rest.length)) ++ (scanBehind ρ hit.rest).1,
        hit.finding.toList ++ (scanBehind ρ hit.rest).2) := by
  rw [scan_cons, h]

private theorem hit_of_isOfTokens {ρ : Rule} (hρ : IsOfTokens ρ) (b : Bool) (cs : List Char) :
    ρ.hit b cs = hitAtToken ρ b cs := by
  cases ρ with
  | quoted => exact absurd rfl hρ.1
  | wildcard => exact absurd rfl hρ.2
  | _ => rfl

theorem hit_cons_of_isBlank {ρ : Rule} (hρ : IsOfTokens ρ) {c : Char} (hc : isBlank c = true) (b : Bool)
    (cs : List Char) : ρ.hit b (c :: cs) = hitToken ρ cs := by
  rw [hit_of_isOfTokens hρ, hitAtToken, hitToken_of_isBreak ρ (isBreak_cons.2 hc)]
  simp [hc]

theorem hit_cons_of_not_isBlank {ρ : Rule} (hρ : IsOfTokens ρ) {c : Char} (hc : isBlank c = false) (b : Bool)
    (cs : List Char) : ρ.hit b (c :: cs) = if b then hitToken ρ (c :: cs) else none := by
  rw [hit_of_isOfTokens hρ, hitAtToken]
  cases b with
  | false => simp [hc]
  | true => cases hitToken ρ (c :: cs) <;> simp [hc]

/-! ### Blanks and words -/

theorem scan_solid {ρ : Rule} (hρ : IsOfTokens ρ) {w : List Char} (hw : Solid w) (rest : List Char) :
    scan ρ false (w ++ rest) = (w ++ (scan ρ false rest).1, (scan ρ false rest).2) := by
  induction w with
  | nil => rfl
  | cons c w ih =>
    obtain ⟨hc, hw⟩ := solid_cons.1 hw
    rw [List.cons_append, scan_cons_of_none (by rw [hit_cons_of_not_isBlank hρ hc]; rfl), ih hw]
    rfl

/-- Blanks in front of a text where nothing is recognised stay. -/
theorem scan_blank {ρ : Rule} (hρ : IsOfTokens ρ) {g cs : List Char} (hg : Blank g) (hne : g ≠ [])
    (hcs : hitToken ρ cs = none) (b : Bool) : scan ρ b (g ++ cs) = (g ++ (scan ρ false cs).1, (scan ρ false cs).2) := by
  induction g generalizing b with
  | nil => exact absurd rfl hne
  | cons c g ih =>
    obtain ⟨hc, hg⟩ := blank_cons.1 hg
    -- only the last blank stands in front of a token, the others in front of a blank
    by_cases hnil : g = []
    · subst hnil
      exact scan_cons_of_none ((hit_cons_of_isBlank hρ hc b cs).trans hcs)
    · have hnone : hitToken ρ (g ++ cs) = none := hitToken_of_isBreak ρ (hg.isBreak_append_of_ne_nil hnil cs)
      rw [List.cons_append, scan_cons_of_none (by rw [hit_cons_of_isBlank hρ hc]; exact hnone), ih hg hnil]
      rfl

/-- A word that is not recognised stays, with the blanks in front of it. -/
theorem scan_word {ρ : Rule} (hρ : IsOfTokens ρ) {g w rest : List Char} (hg : Blank g) (hw : Solid w) (hne : w ≠ [])
    (hnone : hitToken ρ (w ++ rest) = none) (b : Bool) :
    scan ρ b (g ++ (w ++ rest)) = (g ++ (w ++ (scan ρ false rest).1), (scan ρ false rest).2) := by
  -- the scan tries the word at its first letter when no blank is in front, and at the last blank otherwise
  by_cases hnil : g = []
  · subst hnil
    obtain ⟨c, w, rfl⟩ := List.exists_cons_of_ne_nil hne
    obtain ⟨hc, hw⟩ := solid_cons.1 hw
    have hstay : ρ.hit b (c :: (w ++ rest)) = none := by
      rw [hit_cons_of_not_isBlank hρ hc, ← List.cons_append, hnone]
      simp
    rw [List.nil_append, List.cons_append, scan_cons_of_none hstay, scan_solid hρ hw]
    rfl
  · rw [scan_blank hρ hg hnil hnone, scan_solid hρ hw]

/-- A space takes the place of what is recognised and of the last blank in front of it. -/
theorem scan_found {ρ : Rule} (hρ : IsOfTokens ρ) {g cs rest : List Char} {f : Option Finding} (hg : Blank g)
    (hcs : hitToken ρ cs = some ⟨some [' '], f, rest⟩) {b : Bool} (hb : b = true ∨ g ≠ []) :
    scan ρ b (g ++ cs) = (g.dropLast ++ ' ' :: (scanBehind ρ rest).1, f.toList ++ (scanBehind ρ rest).2) := by
  induction g generalizing b with
  | nil =>
    obtain rfl := hb.resolve_right (by simp)
    -- at the start of the text there is no blank to take
    cases cs with
    | nil => rw [hitToken_of_isBreak ρ IsBreak.nil] at hcs; cases hcs
    | cons c cs =>
      have hc : isBlank c = false := by
        rw [Bool.eq_false_iff]
        intro hc
        rw [hitToken_of_isBreak ρ (isBreak_cons.2 hc)] at hcs
        cases hcs
      have hhit : ρ.hit true (c :: cs) = hitToken ρ (c :: cs) := by
        rw [hit_cons_of_not_isBlank hρ hc]
        rfl
      exact scan_cons_of_hit (hhit.trans hcs)
  | cons c g ih =>
    obtain ⟨hc, hg⟩ := blank_cons.1 hg
    by_cases hnil : g = []
    · subst hnil
      exact scan_cons_of_hit ((hit_cons_of_isBlank hρ hc b cs).trans hcs)
    · have hnone : hitToken ρ (g ++ cs) = none := hitToken_of_isBreak ρ (hg.isBreak_append_of_ne_nil hnil cs)
      rw [List.cons_append, scan_cons_of_none (by rw [hit_cons_of_isBlank hρ hc]; exact hnone), ih hg (.inr hnil),
        List.dropLast_cons_of_ne_nil hnil]
      rfl

/-- Blanks and nothing behind them stay. -/
theorem scan_of_blank {ρ : Rule} (hρ : IsOfTokens ρ) {g : List Char} (hg : Blank g) (b : Bool) :
    scan ρ b g = (g, []) := by
  by_cases hnil : g = []
  · rw [hnil, scan_nil]
  · have := scan_blank hρ hg hnil (hitToken_of_isBreak ρ IsBreak.nil) b
    rwa [scan_nil, List.append_nil] at this

/-! ### Quotes and asterisks -/

private theorem scan_quoted_start (b : Bool) (cs : List Char) : scan .quoted b cs = scan .quoted false cs := by
  cases cs with
  | nil => rw [scan_nil, scan_nil]
  | cons c cs =>
    cases hh : Rule.quoted.hit false (c :: cs) with
    | none => rw [scan_cons_of_none hh, scan_cons_of_none (b := b) hh]
    | some hit => rw [scan_cons_of_hit hh, scan_cons_of_hit (b := b) hh]

/-- Text without quotes stays. -/
theorem scan_unquoted {cs : List Char} (h : '"' ∉ cs) (b : Bool) (rest : List Char) :
    scan .quoted b (cs ++ rest) = (cs ++ (scan .quoted false rest).1, (scan .quoted false rest).2) := by
  induction cs generalizing b with
  | nil => exact scan_quoted_start b rest
  | cons c cs ih =>
    simp only [List.mem_cons, not_or] at h
    have hstay : Rule.quoted.hit b (c :: (cs ++ rest)) = none := by
      simp only [hit]
      split
      · next heq => exact absurd (List.cons.inj heq).1.symm h.1
      · rfl
    rw [List.cons_append, scan_cons_of_none hstay, ih h.2]
    rfl

/-- A quoted text loses its quotes and the blanks at both ends, and is set between spaces. -/
theorem scan_quoted {body : List Char} (h : '"' ∉ body) (rest : List Char) :
    scan .quoted false ('"' :: (body ++ '"' :: rest)) =
      (' ' :: (Chars.trim body ++ ' ' :: (scan .quoted false rest).1),
        (if Chars.trim body = [] then [] else [.phrase]) ++ (scan .quoted false rest).2) := by
  have hp : ∀ c ∈ body, (c != '"') = true := by
    intro c hc
    have : c ≠ '"' := fun heq => h (heq ▸ hc)
    simpa using this
  have htake : (body ++ '"' :: rest).takeWhile (· != '"') = body := by
    rw [List.takeWhile_append_of_pos hp]
    simp
  have hdrop : (body ++ '"' :: rest).dropWhile (· != '"') = '"' :: rest := by
    rw [List.dropWhile_append_of_pos hp]
    simp
  have hhit : Rule.quoted.hit false ('"' :: (body ++ '"' :: rest)) =
      some ⟨some (' ' :: Chars.trim body ++ [' ']), if Chars.trim body = [] then none else some .phrase, rest⟩ := by
    simp only [hit, hdrop, htake]
  rw [scan_cons_of_hit hhit]
  by_cases hblank : Chars.trim body = []
  · simp [scanBehind, once, hblank]
  · simp [scanBehind, once, hblank]

/-- Text without asterisks stays. -/
theorem scan_wildcard {cs : List Char} (h : '*' ∉ cs) (b : Bool) : scan .wildcard b cs = (cs, []) := by
  induction cs generalizing b with
  | nil => exact scan_nil _ b
  | cons c cs ih =>
    simp only [List.mem_cons, not_or] at h
    have hstay : Rule.wildcard.hit b (c :: cs) = none := by
      simp only [hit]
      split
      · next heq => exact absurd (List.cons.inj heq).1.symm h.1
      · rfl
    rw [scan_cons_of_none hstay, ih h.2]

end Rule

end WorkspaceSearch.Query
