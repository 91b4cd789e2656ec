import Mathlib.Data.List.Flatten
import Mathlib.Data.List.Infix
import Mathlib.Data.List.TakeWhile
import WorkspaceSearch.Proofs.Text.Words

/-!
# Texts word by word

Every text is a run of blanks, or blanks, a word and the rest of the text behind it; so facts about texts go by
induction on their words (`words_induction`).  The words of a text are its pieces without blanks, in order
(`flatten_words`, `infix_of_mem_words`).

A text is collapsed when it is written with single spaces between its words (`Collapsed`).  Such a text gets shorter
when words are taken out of it (`length_unwords_lt`).
-/

namespace WorkspaceSearch.Chars

/-! ### Induction on the words -/

private theorem isBreak_dropWhile (cs : List Char) : IsBreak (cs.dropWhile fun c => !isBlank c) := by
  intro c hc
  obtain ⟨rest, hrest⟩ := List.head?_eq_some_iff.1 hc
  have hnot := List.head_dropWhile_not (p := fun c => !isBlank c) (l := cs) (by simp [hrest])
  simpa [hrest] using hnot

/-- A text that is not blank has a first word. -/
theorem exists_first_word {cs : List Char} (h : ¬Blank cs) :
    ∃ g w rest, cs = g ++ (w ++ rest) ∧ Blank g ∧ Solid w ∧ w ≠ [] ∧ IsBreak rest := by
  have hsplit := List.takeWhile_append_dropWhile (p := isBlank) (l := cs)
  have hg : Blank (cs.takeWhile isBlank) := fun c hc => List.mem_takeWhile_imp hc
  have hword := List.takeWhile_append_dropWhile (p := fun c => !isBlank c) (l := cs.dropWhile isBlank)
  refine ⟨cs.takeWhile isBlank, (cs.dropWhile isBlank).takeWhile fun c => !isBlank c,
    (cs.dropWhile isBlank).dropWhile fun c => !isBlank c, by rw [hword, hsplit], hg, ?_, ?_, isBreak_dropWhile _⟩
  · intro c hc
    simpa using List.mem_takeWhile_imp hc
  · cases hdrop : cs.dropWhile isBlank with
    | nil =>
      rw [hdrop, List.append_nil] at hsplit
      exact absurd (hsplit ▸ hg) h
    | cons c rest =>
      have hc := List.head_dropWhile_not (p := isBlank) (l := cs) (by simp [hdrop])
      simp only [hdrop, List.head_cons] at hc
      simp [hc]

/-- Induction on the words of a text: what holds of all that may be left behind its first word holds of the text. -/
@[elab_as_elim]
theorem words_induction {P : List Char → Prop} (blank : ∀ g, Blank g → P g)
    (word : ∀ g w rest, Blank g → Solid w → w ≠ [] → IsBreak rest → (∀ cs, cs <:+ rest → P cs) → P (g ++ (w ++ rest)))
    (cs : List Char) : P cs := by
  by_cases h : Blank cs
  · exact blank cs h
  · obtain ⟨g, w, rest, rfl, hg, hw, hne, hr⟩ := exists_first_word h
    exact word g w rest hg hw hne hr fun cs _ => words_induction blank word cs
termination_by cs.length
decreasing_by
  have hword := List.length_pos_iff.2 hne
  have hle := List.IsSuffix.length_le ‹_ <:+ rest›
  simp only [*, List.length_append]
  omega

theorem words_append_word {g w rest : List Char} (hg : Blank g) (hw : Solid w) (hne : w ≠ []) (hr : IsBreak rest) :
    words (g ++ (w ++ rest)) = w :: words rest := by
  rw [words_append_of_blank hg, words_append_of_solid hw hne hr]

/-- A text breaks into words where another text that starts with a blank is put behind it. -/
theorem words_append_of_isBreak (cs : List Char) {rest : List Char} (hr : IsBreak rest) :
    words (cs ++ rest) = words cs ++ words rest := by
  induction cs using words_induction with
  | blank g hg => rw [words_append_of_blank hg, words_of_blank hg, List.nil_append]
  | word g w cs hg hw hne hcs ih =>
    rw [List.append_assoc, List.append_assoc, words_append_word hg hw hne (hcs.append hr), ih cs cs.suffix_refl,
      words_append_word hg hw hne hcs, List.cons_append]

/-! ### What words are -/

/-- The characters of a text that are not blank. -/
def nonblank (cs : List Char) : List Char := cs.filter fun c => !isBlank c

theorem nonblank_append (cs ds : List Char) : nonblank (cs ++ ds) = nonblank cs ++ nonblank ds := List.filter_append ..

private theorem nonblank_of_blank {g : List Char} (hg : Blank g) : nonblank g = [] := by
  rw [nonblank, List.filter_eq_nil_iff]
  intro c hc
  simp [hg c hc]

private theorem nonblank_of_solid {w : List Char} (hw : Solid w) : nonblank w = w := by
  rw [nonblank, List.filter_eq_self]
  intro c hc
  simp [hw c hc]

/-- The words of a text hold all its characters but the blanks. -/
theorem flatten_words (cs : List Char) : (words cs).flatten = nonblank cs := by
  induction cs using words_induction with
  | blank g hg => rw [words_of_blank hg, nonblank_of_blank hg, List.flatten_nil]
  | word g w rest hg hw hne hr ih =>
    rw [words_append_word hg hw hne hr, List.flatten_cons, ih rest rest.suffix_refl, nonblank_append, nonblank_append,
      nonblank_of_blank hg, nonblank_of_solid hw, List.nil_append]

theorem solid_of_mem_words {cs w : List Char} (h : w ∈ words cs) : Solid w := by
  intro c hc
  have hmem : c ∈ (words cs).flatten := List.mem_flatten.2 ⟨w, h, hc⟩
  rw [flatten_words, nonblank] at hmem
  simpa using List.of_mem_filter hmem

/-- A word is a piece of its text. -/
theorem infix_of_mem_words {cs w : List Char} (h : w ∈ words cs) : w <:+: cs := by
  induction cs using words_induction with
  | blank g hg =>
    rw [words_of_blank hg] at h
    cases h
  | word g v rest hg hv hne hr ih =>
    rw [words_append_word hg hv hne hr] at h
    rcases List.mem_cons.1 h with rfl | h
    · exact ⟨g, rest, by simp⟩
    · exact (ih rest rest.suffix_refl h).trans ((List.suffix_append v rest).isInfix.trans (List.suffix_append g _).isInfix)

theorem words_eq_nil_iff {cs : List Char} : words cs = [] ↔ Blank cs := by
  constructor
  · intro h
    by_contra hnot
    obtain ⟨g, w, rest, rfl, hg, hw, hne, hr⟩ := exists_first_word hnot
    rw [words_append_word hg hw hne hr] at h
    cases h
  · exact words_of_blank

/-! ### Trimming -/

private theorem blank_takeWhile (cs : List Char) : Blank (cs.takeWhile isBlank) :=
  fun _ hc => List.mem_takeWhile_imp hc

theorem trim_split (cs : List Char) :
    ∃ lead trail, cs = lead ++ (trim cs ++ trail) ∧ Blank lead ∧ Blank trail := by
  have hfront := List.takeWhile_append_dropWhile (p := isBlank) (l := cs)
  have hback := List.takeWhile_append_dropWhile (p := isBlank) (l := (trimStart cs).reverse)
  have hsplit : trimStart cs = trim cs ++ ((trimStart cs).reverse.takeWhile isBlank).reverse := by
    rw [trim, trimEnd, ← List.reverse_append, hback, List.reverse_reverse]
  refine ⟨cs.takeWhile isBlank, ((trimStart cs).reverse.takeWhile isBlank).reverse, ?_, blank_takeWhile cs, ?_⟩
  · rw [← hsplit]
    exact hfront.symm
  · exact fun c hc => blank_takeWhile _ c (List.mem_reverse.1 hc)

/-- Trimming takes no word away. -/
theorem words_trim (cs : List Char) : words (trim cs) = words cs := by
  obtain ⟨lead, trail, hcs, hlead, htrail⟩ := trim_split cs
  have hwords : words (lead ++ (trim cs ++ trail)) = words (trim cs) := by
    rw [words_append_of_blank hlead, words_append_of_isBreak _ htrail.isBreak, words_of_blank htrail, List.append_nil]
  rwa [← hcs, eq_comm] at hwords

theorem trim_infix (cs : List Char) : trim cs <:+: cs := by
  obtain ⟨lead, trail, hcs, -, -⟩ := trim_split cs
  exact ⟨lead, trail, by rw [List.append_assoc]; exact hcs.symm⟩

theorem trim_eq_nil_iff {cs : List Char} : trim cs = [] ↔ Blank cs := by
  constructor
  · intro h
    have hwords := words_trim cs
    rw [h] at hwords
    exact words_eq_nil_iff.1 hwords.symm
  · intro h
    have hstart := trimStart_append_of_blank h []
    rw [List.append_nil] at hstart
    rw [trim, hstart]
    rfl

private theorem not_isBlank_front (cs : List Char) : ∀ c ∈ (cs.dropWhile isBlank).head?, isBlank c = false := by
  intro c hc
  obtain ⟨rest, hrest⟩ := List.head?_eq_some_iff.1 hc
  have hnot := List.head_dropWhile_not (p := isBlank) (l := cs) (by simp [hrest])
  simpa [hrest] using hnot

theorem head?_trim (cs : List Char) : ∀ c ∈ (trim cs).head?, isBlank c = false := by
  intro c hc
  have hback := List.takeWhile_append_dropWhile (p := isBlank) (l := (trimStart cs).reverse)
  have hsplit : trimStart cs = trim cs ++ ((trimStart cs).reverse.takeWhile isBlank).reverse := by
    rw [trim, trimEnd, ← List.reverse_append, hback, List.reverse_reverse]
  refine not_isBlank_front cs c ?_
  rw [← trimStart, hsplit, List.head?_append, Option.mem_def.1 hc]
  rfl

theorem getLast?_trim (cs : List Char) : ∀ c ∈ (trim cs).getLast?, isBlank c = false := by
  intro c hc
  rw [trim, trimEnd, List.getLast?_reverse] at hc
  exact not_isBlank_front _ c hc

/-- A text that has been trimmed has nothing to trim. -/
theorem trim_trim (cs : List Char) : trim (trim cs) = trim cs := by
  rw [trim, trimStart_eq_self (head?_trim cs), trimEnd_eq_self (getLast?_trim cs)]

/-! ### Words with single spaces between them -/

private theorem unwords_cons_cons (w v : List Char) (ws : List (List Char)) :
    unwords (w :: v :: ws) = w ++ ' ' :: unwords (v :: ws) := by
  simp [unwords]

/-- Words that are not empty and hold no blanks. -/
def AreWords (ws : List (List Char)) : Prop := ∀ w ∈ ws, Solid w ∧ w ≠ []

theorem areWords_words (cs : List Char) : AreWords (words cs) :=
  fun _ hw => ⟨solid_of_mem_words hw, ne_nil_of_mem_words hw⟩

private theorem AreWords.sublist {ws vs : List (List Char)} (h : AreWords ws) (hs : vs.Sublist ws) : AreWords vs :=
  fun v hv => h v (hs.subset hv)

theorem words_unwords {ws : List (List Char)} (h : AreWords ws) : words (unwords ws) = ws := by
  induction ws with
  | nil => rfl
  | cons w ws ih =>
    obtain ⟨hw, hne⟩ := h w List.mem_cons_self
    have hws := ih (h.sublist (List.sublist_cons_self w ws))
    cases ws with
    | nil =>
      have hone := words_append_of_solid hw hne IsBreak.nil
      rw [List.append_nil] at hone
      simpa [unwords, words] using hone
    | cons v ws =>
      have hbreak : IsBreak (' ' :: unwords (v :: ws)) := isBreak_cons.2 isBlank_space
      rw [unwords_cons_cons, words_append_of_solid hw hne hbreak, words_cons_of_isBlank isBlank_space, hws]

/-- A text that is written with single spaces between its words, and no blanks at its ends. -/
def Collapsed (cs : List Char) : Prop := ∃ ws, AreWords ws ∧ cs = unwords ws

theorem collapsed_unwords (cs : List Char) : Collapsed (unwords (words cs)) := ⟨words cs, areWords_words cs, rfl⟩

theorem Collapsed.eq_unwords {cs : List Char} (h : Collapsed cs) : cs = unwords (words cs) := by
  obtain ⟨ws, hws, rfl⟩ := h
  rw [words_unwords hws]

private theorem unwords_ne_nil {w : List Char} {ws : List (List Char)} (hne : w ≠ []) : unwords (w :: ws) ≠ [] := by
  cases ws with
  | nil => simpa [unwords] using hne
  | cons v ws => simp [unwords_cons_cons]

private theorem unwords_ends {ws : List (List Char)} (h : AreWords ws) :
    (∀ c ∈ (unwords ws).head?, isBlank c = false) ∧ ∀ c ∈ (unwords ws).getLast?, isBlank c = false := by
  induction ws with
  | nil => exact ⟨nofun, nofun⟩
  | cons w ws ih =>
    obtain ⟨hw, hne⟩ := h w List.mem_cons_self
    cases ws with
    | nil =>
      have hone : unwords [w] = w := by simp [unwords]
      rw [hone]
      exact ⟨fun c hc => hw c (List.mem_of_mem_head? hc), fun c hc => hw c (List.mem_of_mem_getLast? hc)⟩
    | cons v ws =>
      have hws := ih (h.sublist (List.sublist_cons_self w (v :: ws)))
      obtain ⟨-, hvne⟩ := h v (List.mem_cons_of_mem _ List.mem_cons_self)
      have hrest : unwords (v :: ws) ≠ [] := unwords_ne_nil hvne
      rw [unwords_cons_cons]
      constructor
      · intro c hc
        rw [List.head?_append_of_ne_nil _ hne] at hc
        exact hw c (List.mem_of_mem_head? hc)
      · intro c hc
        rw [List.getLast?_append_of_ne_nil _ (List.cons_ne_nil _ _), List.getLast?_cons_of_ne_nil hrest] at hc
        exact hws.2 c hc

/-- A collapsed text has nothing to trim. -/
theorem Collapsed.trim_eq {cs : List Char} (h : Collapsed cs) : trim cs = cs := by
  obtain ⟨ws, hws, rfl⟩ := h
  rcases ws with _ | ⟨w, ws⟩
  · rfl
  · obtain ⟨hfirst, hlast⟩ := unwords_ends hws
    have htrim := trim_between Blank.nil Blank.nil (unwords_ne_nil (hws w List.mem_cons_self).2) hfirst hlast
    rwa [List.nil_append, List.append_nil] at htrim

/-- A blank of a collapsed text is one of its spaces. -/
theorem Collapsed.eq_space {cs : List Char} (h : Collapsed cs) {c : Char} (hc : c ∈ cs) (hblank : isBlank c = true) :
    c = ' ' := by
  obtain ⟨ws, hws, rfl⟩ := h
  induction ws with
  | nil => simp [unwords] at hc
  | cons w ws ih =>
    obtain ⟨hw, -⟩ := hws w List.mem_cons_self
    have hout : c ∉ w := fun hmem => Bool.false_ne_true ((hw c hmem).symm.trans hblank)
    cases ws with
    | nil => exact absurd (by simpa [unwords] using hc) hout
    | cons v ws =>
      rw [unwords_cons_cons, List.mem_append, List.mem_cons] at hc
      rcases hc with hc | rfl | hc
      · exact absurd hc hout
      · rfl
      · exact ih (hws.sublist (List.sublist_cons_self w (v :: ws))) hc

theorem collapsed_of_solid {w : List Char} (hw : Solid w) (hne : w ≠ []) : Collapsed w :=
  ⟨[w], by simpa [AreWords] using ⟨hw, hne⟩, by simp [unwords]⟩

private theorem length_unwords (ws : List (List Char)) : (unwords ws).length = ws.flatten.length + ws.length - 1 := by
  induction ws with
  | nil => rfl
  | cons w ws ih =>
    cases ws with
    | nil => simp [unwords]
    | cons v ws =>
      rw [unwords_cons_cons, List.length_append, List.length_cons, ih]
      simp only [List.flatten_cons, List.length_append, List.length_cons]
      omega

theorem length_flatten_lt {ws vs : List (List Char)} (h : AreWords ws) (hs : vs.Sublist ws)
    (hlt : vs.length < ws.length) : vs.flatten.length < ws.flatten.length := by
  induction hs with
  | slnil => exact absurd hlt (Nat.lt_irrefl _)
  | @cons vs ws w hs ih =>
    have hword := List.length_pos_iff.2 (h w List.mem_cons_self).2
    have hle : vs.flatten.length ≤ ws.flatten.length := (List.Sublist.flatten hs).length_le
    rw [List.flatten_cons, List.length_append]
    omega
  | @cons_cons vs ws w hs ih =>
    have hrest := ih (h.sublist (List.sublist_cons_self w ws)) (Nat.lt_of_succ_lt_succ hlt)
    rw [List.flatten_cons, List.flatten_cons, List.length_append, List.length_append]
    omega

/-- A collapsed text gets shorter when words are taken out of it. -/
theorem length_unwords_lt {ws vs : List (List Char)} (h : AreWords ws) (hs : vs.Sublist ws)
    (hlt : vs.length < ws.length) : (unwords vs).length < (unwords ws).length := by
  have hflatten := length_flatten_lt h hs hlt
  rw [length_unwords, length_unwords]
  omega

end WorkspaceSearch.Chars

namespace WorkspaceSearch.Text

theorem trim_trim (s : String) : trim (trim s) = trim s := by
  rw [trim, trim, String.toList_ofList, Chars.trim_trim]

theorem trim_ne_empty {s : String} (h : isBlank s = false) : trim s ≠ "" := by
  intro hempty
  have hnil : Chars.trim s.toList = [] := by
    rw [← String.toList_ofList (l := Chars.trim s.toList), ← trim, hempty]
    rfl
  exact Bool.false_ne_true (h.symm.trans (isBlank_iff.2 (Chars.trim_eq_nil_iff.1 hnil)))

end WorkspaceSearch.Text
