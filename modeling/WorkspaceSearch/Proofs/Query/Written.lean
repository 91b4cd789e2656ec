import WorkspaceSearch.Proofs.Query.Normal
import WorkspaceSearch.Suggestion

/-!
# Names as they are written

The suggestion of a channel or a user is the name behind a keyword and a sigil.  It is read back as that name alone when
the name is a word without its sigil in front and with one quote at most (`Writable`), and never otherwise.
-/

namespace WorkspaceSearch

open Chars (Blank Solid)

namespace Query

/-- A name that can be written behind a sigil. -/
structure Writable (sigil : Char) (name : String) : Prop where
  ne_nil : name.toList ≠ []
  solid : Solid name.toList
  oneQuote : name.toList.count '"' ≤ 1
  noSigil : name.toList.head? ≠ some sigil

private theorem writable_iff {sigil : Char} {name : String} :
    Writable sigil name ↔ name.toList ≠ [] ∧ Solid name.toList ∧ name.toList.count '"' ≤ 1 ∧
      name.toList.head? ≠ some sigil :=
  ⟨fun h => ⟨h.ne_nil, h.solid, h.oneQuote, h.noSigil⟩, fun h => ⟨h.1, h.2.1, h.2.2.1, h.2.2.2⟩⟩

instance (sigil : Char) (name : String) : Decidable (Writable sigil name) := decidable_of_iff _ writable_iff.symm

/-! ### One word alone -/

namespace Rule

private theorem apply_of_none {ρ : Rule} (hρ : IsOfTokens ρ) {w : List Char} (hw : Solid w) (hne : w ≠ [])
    (hnone : hitToken ρ w = none) : ρ.apply w = (w, []) := by
  have hnothing : hitToken ρ (w ++ []) = none := by rwa [List.append_nil]
  have hword := scan_word hρ Blank.nil hw hne hnothing true
  rwa [List.append_nil, List.nil_append, scan_nil, List.append_nil] at hword

private theorem apply_of_tells {ρ : Rule} (hρ : ρ ∈ prefixed) {ds v : List Char} (hds : Spells ρ ds) (hv : Solid v)
    (htells : ρ.Tells v) : ρ.apply (ds ++ v) = ([' '], [ρ.findingOf v]) := by
  have hall : ∀ ρ ∈ prefixed, IsOfTokens ρ := by decide
  have htokens := hall ρ hρ
  have hbehind : scanBehind ρ [] = ([], []) := by
    rw [scanBehind, scan_nil, ite_self]
  have hfound := scan_found htokens Blank.nil (hitToken_of_tells hρ hds hv htells) (.inl rfl)
  rwa [hbehind] at hfound

private theorem apply_space (ρ : Rule) : ρ.apply [' '] = ([' '], []) := by
  by_cases hρ : IsOfTokens ρ
  · exact scan_of_blank hρ Blank.space true
  · cases ρ with
    | quoted => exact scan_quoted_of_count_le (by decide) true
    | wildcard => exact scan_wildcard (by decide) true
    | _ => exact absurd (by decide) hρ

end Rule

private theorem applyRules_cons (ρ : Rule) (ρs : List Rule) (cs : List Char) :
    applyRules (ρ :: ρs) cs =
      ((applyRules ρs (ρ.apply cs).1).1, (ρ.apply cs).2 ++ (applyRules ρs (ρ.apply cs).1).2) :=
  rfl

private theorem applyRules_space (ρs : List Rule) : applyRules ρs [' '] = ([' '], []) := by
  induction ρs with
  | nil => rfl
  | cons ρ ρs ih => rw [applyRules_cons, Rule.apply_space, ih, List.append_nil]

/-- A keyword and a value that says something, with one quote at most, are all that is found. -/
private theorem applyRules_named {ρ : Rule} {sigil : Char} (hρ : ρ.sigil? = some sigil) {v : List Char} (hv : Solid v)
    (htells : ρ.Tells v) (hquote : v.count '"' ≤ 1) :
    applyRules Rule.all (ρ.keyword ++ v) = ([' '], [ρ.findingOf v]) := by
  have hquoted : ∀ ds : List Char, '"' ∉ ds → Rule.quoted.apply (ds ++ v) = (ds ++ v, []) := by
    intro ds hds
    refine Rule.scan_quoted_of_count_le ?_ true
    rwa [List.count_append, List.count_eq_zero.2 hds, Nat.zero_add]
  cases ρ with
  | sender =>
    have hfound : Rule.sender.apply (Rule.sender.keyword ++ v) = ([' '], [Rule.sender.findingOf v]) :=
      Rule.apply_of_tells (by decide) (by decide) hv htells
    rw [Rule.all, applyRules_cons, hquoted _ (by decide), applyRules_cons, hfound, applyRules_space]
    rfl
  | channel =>
    have hfound : Rule.channel.apply (Rule.channel.keyword ++ v) = ([' '], [Rule.channel.findingOf v]) :=
      Rule.apply_of_tells (by decide) (by decide) hv htells
    have hstays : Rule.sender.apply (Rule.channel.keyword ++ v) = (Rule.channel.keyword ++ v, []) := by
      have hkeyword : Solid Rule.channel.keyword := by decide
      exact Rule.apply_of_none (by decide) (Chars.solid_append.2 ⟨hkeyword, hv⟩) (List.cons_ne_nil _ _)
        (Rule.hitToken_of_afterKeyword (by decide) rfl)
    rw [Rule.all, applyRules_cons, hquoted _ (by decide), applyRules_cons, hstays, applyRules_cons, hfound,
      applyRules_space]
    rfl
  | _ => cases hρ

/-- A name behind a sigil is read as that name. -/
private theorem applyRules_writable {ρ : Rule} {sigil : Char} (hρ : ρ.sigil? = some sigil)
    (hsigil : Chars.isBlank sigil = false ∧ sigil ≠ '"') {name : String} (h : Writable sigil name) :
    applyRules Rule.all (ρ.keyword ++ sigil :: name.toList) = ([' '], [ρ.findingOf (sigil :: name.toList)]) := by
  refine applyRules_named hρ (Chars.solid_cons.2 ⟨hsigil.1, h.solid⟩) ?_ ?_
  · obtain ⟨c, cs, hname⟩ := List.exists_cons_of_ne_nil h.ne_nil
    refine ⟨c, by rw [hname]; exact List.mem_cons_of_mem _ List.mem_cons_self, ?_⟩
    have hne := h.noSigil
    rw [hname, List.head?_cons] at hne
    rw [hρ]
    exact fun heq => hne heq.symm
  · rw [List.count_cons_of_ne hsigil.2]
    exact h.oneQuote

private theorem dropWhile_sigil {sigil : Char} {name : String} (h : Writable sigil name) :
    String.ofList ((sigil :: name.toList).dropWhile (· == sigil)) = name := by
  have hstart : ∀ c ∈ name.toList.head?, (c == sigil) = false := by
    intro c hc
    rw [beq_eq_false_iff_ne]
    rintro rfl
    exact h.noSigil hc
  have hname : name.toList.dropWhile (· == sigil) = name.toList := by
    cases hcs : name.toList with
    | nil => rfl
    | cons c cs =>
      rw [hcs] at hstart
      rw [List.dropWhile_cons, hstart c rfl]
      rfl
  rw [List.dropWhile_cons, beq_self_eq_true, if_pos rfl, hname, String.ofList_toList]

end Query

open Query

namespace Suggestion

variable {name : String}

/-- A channel that can be written is read back, and nothing else. -/
theorem ofText_ofChannel (h : Writable '#' name) :
    ParsedQuery.ofText (ofChannel name) = { base := "", operators := { channels := [name] } } := by
  have htext : (ofChannel name).toList = Rule.channel.keyword ++ '#' :: name.toList := by
    rw [ofChannel, String.toList_append]
    rfl
  have hfinding : Rule.channel.findingOf ('#' :: name.toList) = .channel name :=
    congrArg Finding.channel (dropWhile_sigil h)
  simp only [ParsedQuery.ofText, htext, applyRules_writable (ρ := .channel) rfl (by decide) h, hfinding]
  rfl

/-- A user that can be written is read back, and nothing else. -/
theorem ofText_ofUser (h : Writable '@' name) :
    ParsedQuery.ofText (ofUser name) = { base := "", operators := { senders := [name] } } := by
  have htext : (ofUser name).toList = Rule.sender.keyword ++ '@' :: name.toList := by
    rw [ofUser, String.toList_append]
    rfl
  have hfinding : Rule.sender.findingOf ('@' :: name.toList) = .sender name :=
    congrArg Finding.sender (dropWhile_sigil h)
  simp only [ParsedQuery.ofText, htext, applyRules_writable (ρ := .sender) rfl (by decide) h, hfinding]
  rfl

/-- Only a name that can be written is ever found. -/
private theorem writable_of_mem {raw : String} {ρ : Rule} {sigil : Char} (hρ : ρ.sigil? = some sigil)
    (h : name ∈ namesOf (ParsedQuery.ofText raw).operators ρ) : Writable sigil name := by
  have hname := namesOf_subset _ _ h
  obtain ⟨hne, hsolid, -⟩ := infix_of_mem_names hname
  exact ⟨hne, hsolid, count_quote_le_of_mem_names hname, hρ ▸ head?_ne_of_mem_namesOf h⟩

/-- The suggestion of a channel is read back as that channel exactly when it can be written. -/
theorem ofChannel_read_back_iff :
    ((ParsedQuery.ofText (ofChannel name)).base = "" ∧
      (ParsedQuery.ofText (ofChannel name)).operators.channels = [name]) ↔ Writable '#' name := by
  refine ⟨fun h => ?_, fun h => by rw [ofText_ofChannel h]; exact ⟨rfl, rfl⟩⟩
  have hname : name ∈ namesOf (ParsedQuery.ofText (ofChannel name)).operators .channel := by
    rw [namesOf, h.2]
    exact List.mem_singleton_self name
  exact writable_of_mem rfl hname

/-- The suggestion of a user is read back as that user exactly when it can be written. -/
theorem ofUser_read_back_iff :
    ((ParsedQuery.ofText (ofUser name)).base = "" ∧
      (ParsedQuery.ofText (ofUser name)).operators.senders = [name]) ↔ Writable '@' name := by
  refine ⟨fun h => ?_, fun h => by rw [ofText_ofUser h]; exact ⟨rfl, rfl⟩⟩
  have hname : name ∈ namesOf (ParsedQuery.ofText (ofUser name)).operators .sender := by
    rw [namesOf, h.2]
    exact List.mem_singleton_self name
  exact writable_of_mem rfl hname

end Suggestion

end WorkspaceSearch
