import WorkspaceSearch.Text.Blank

/-!
# Words and the blanks between them

A text is cut into words where blanks stand: blanks in front of a text add no word (`words_append_of_blank`), and a run
without blanks is a word of its own when the text behind it starts with a blank or is empty (`words_append_of_solid`).
The same condition, `IsBreak`, makes `splitWord` take exactly that run off the front (`splitWord_append`).
-/

namespace WorkspaceSearch.Chars

/-- Nothing but blanks. -/
def Blank (cs : List Char) : Prop := ∀ c ∈ cs, isBlank c = true

/-- Not a single blank. -/
def Solid (cs : List Char) : Prop := ∀ c ∈ cs, isBlank c = false

/-- A word that stands in front of the text ends there: the text is empty or starts with a blank. -/
def IsBreak (cs : List Char) : Prop := ∀ c ∈ cs.head?, isBlank c = true

instance (cs : List Char) : Decidable (Blank cs) := List.decidableBAll _ cs

instance (cs : List Char) : Decidable (Solid cs) := List.decidableBAll _ cs

theorem Blank.nil : Blank [] := by simp [Blank]

theorem Blank.space : Blank [' '] := by simp [Blank, isBlank_space]

theorem blank_cons {c : Char} {cs : List Char} : Blank (c :: cs) ↔ isBlank c = true ∧ Blank cs := by
  simp [Blank]

theorem blank_append {cs ds : List Char} : Blank (cs ++ ds) ↔ Blank cs ∧ Blank ds := by
  simp [Blank, or_imp, forall_and]

theorem Blank.not_mem {cs : List Char} (h : Blank cs) {c : Char} (hc : isBlank c = false) : c ∉ cs := by
  intro hmem
  rw [h c hmem] at hc
  cases hc

theorem Blank.dropLast {cs : List Char} (h : Blank cs) : Blank cs.dropLast :=
  fun c hc => h c (cs.dropLast_sublist.subset hc)

theorem solid_cons {c : Char} {cs : List Char} : Solid (c :: cs) ↔ isBlank c = false ∧ Solid cs := by
  simp [Solid]

theorem solid_append {cs ds : List Char} : Solid (cs ++ ds) ↔ Solid cs ∧ Solid ds := by
  simp [Solid, or_imp, forall_and]

theorem IsBreak.nil : IsBreak [] := by simp [IsBreak]

theorem isBreak_cons {c : Char} {cs : List Char} : IsBreak (c :: cs) ↔ isBlank c = true := by
  simp [IsBreak]

theorem IsBreak.append {cs ds : List Char} (h : IsBreak cs) (hd : IsBreak ds) : IsBreak (cs ++ ds) := by
  cases cs with
  | nil => exact hd
  | cons c cs => exact isBreak_cons.2 (isBreak_cons.1 h)

theorem Blank.isBreak {cs : List Char} (h : Blank cs) : IsBreak cs := fun c hc => h c (List.mem_of_mem_head? hc)

theorem Blank.isBreak_append_of_ne_nil {cs : List Char} (h : Blank cs) (hne : cs ≠ []) (ds : List Char) :
    IsBreak (cs ++ ds) := by
  cases cs with
  | nil => exact absurd rfl hne
  | cons c cs => exact isBreak_cons.2 (blank_cons.1 h).1

/-! ### The front of a text -/

theorem trimStart_append_of_blank {cs : List Char} (h : Blank cs) (ds : List Char) :
    trimStart (cs ++ ds) = trimStart ds := by
  induction cs with
  | nil => rfl
  | cons c cs ih =>
    rw [List.cons_append, trimStart_cons_of_isBlank (blank_cons.1 h).1]
    exact ih (blank_cons.1 h).2

theorem trimStart_append_of_solid {w : List Char} (h : Solid w) (hne : w ≠ []) (rest : List Char) :
    trimStart (w ++ rest) = w ++ rest := by
  cases w with
  | nil => exact absurd rfl hne
  | cons c w => exact trimStart_cons_of_not_isBlank (solid_cons.1 h).1 _

theorem splitWord_append {w rest : List Char} (h : Solid w) (hr : IsBreak rest) :
    splitWord (w ++ rest) = (w, rest) := by
  have htake : rest.takeWhile (fun c => !isBlank c) = [] := by
    cases rest with
    | nil => rfl
    | cons c rest => simp [isBreak_cons.1 hr]
  have hdrop : rest.dropWhile (fun c => !isBlank c) = rest := by
    cases rest with
    | nil => rfl
    | cons c rest => simp [isBreak_cons.1 hr]
  have hw : ∀ c ∈ w, (!isBlank c) = true := by
    intro c hc
    rw [h c hc]
    rfl
  unfold splitWord
  rw [List.takeWhile_append_of_pos hw, List.dropWhile_append_of_pos hw, htake, hdrop, List.append_nil]

/-! ### Words -/

theorem words_cons_of_isBlank {c : Char} (h : isBlank c = true) (cs : List Char) : words (c :: cs) = words cs := by
  cases cs with
  | nil => simp [words, h]
  | cons d cs => simp [words, h]

theorem words_append_of_blank {cs : List Char} (h : Blank cs) (ds : List Char) : words (cs ++ ds) = words ds := by
  induction cs with
  | nil => rfl
  | cons c cs ih =>
    rw [List.cons_append, words_cons_of_isBlank (blank_cons.1 h).1]
    exact ih (blank_cons.1 h).2

theorem words_of_blank {cs : List Char} (h : Blank cs) : words cs = [] := by
  simpa [words] using words_append_of_blank h []

private theorem words_cons_of_break {c : Char} (h : isBlank c = false) {rest : List Char} (hr : IsBreak rest) :
    words (c :: rest) = [c] :: words rest := by
  cases rest with
  | nil => simp [words, h]
  | cons d rest => simp [words, h, isBreak_cons.1 hr]

theorem words_append_of_solid {w rest : List Char} (h : Solid w) (hne : w ≠ []) (hr : IsBreak rest) :
    words (w ++ rest) = w :: words rest := by
  induction w with
  | nil => exact absurd rfl hne
  | cons c w ih =>
    obtain ⟨hc, hw⟩ := solid_cons.1 h
    cases w with
    | nil => exact words_cons_of_break hc hr
    | cons d w =>
      have hd := (solid_cons.1 hw).1
      rw [List.cons_append, List.cons_append, words]
      simp only [hc, hd, Bool.false_eq_true, if_false]
      rw [← List.cons_append, ih hw (by simp)]
      rfl

/-! ### Trimming -/

theorem trimStart_eq_self {cs : List Char} (h : ∀ c ∈ cs.head?, isBlank c = false) : trimStart cs = cs := by
  cases cs with
  | nil => rfl
  | cons c cs => exact trimStart_cons_of_not_isBlank (h c rfl) cs

private theorem trimEnd_append_of_blank (cs : List Char) {ds : List Char} (h : Blank ds) :
    trimEnd (cs ++ ds) = trimEnd cs := by
  have hrev : Blank ds.reverse := fun d hd => h d (List.mem_reverse.1 hd)
  have := trimStart_append_of_blank hrev cs.reverse
  unfold trimStart at this
  rw [trimEnd, trimEnd, List.reverse_append, this]

theorem trimEnd_eq_self {cs : List Char} (h : ∀ c ∈ cs.getLast?, isBlank c = false) : trimEnd cs = cs := by
  have hrev : ∀ c ∈ cs.reverse.head?, isBlank c = false := by rwa [List.head?_reverse]
  have := trimStart_eq_self hrev
  unfold trimStart at this
  rw [trimEnd, this, List.reverse_reverse]

/-- Trimming takes off the blanks around a text that starts and ends with something else. -/
theorem trim_between {lead body trail : List Char} (hl : Blank lead) (ht : Blank trail) (hne : body ≠ [])
    (hfirst : ∀ c ∈ body.head?, isBlank c = false) (hlast : ∀ c ∈ body.getLast?, isBlank c = false) :
    trim (lead ++ body ++ trail) = body := by
  have hfront : trimStart (lead ++ body ++ trail) = body ++ trail := by
    rw [List.append_assoc, trimStart_append_of_blank hl]
    refine trimStart_eq_self fun c hc => hfirst c ?_
    obtain ⟨d, body, rfl⟩ := List.exists_cons_of_ne_nil hne
    exact hc
  rw [trim, hfront, trimEnd_append_of_blank _ ht, trimEnd_eq_self hlast]

end WorkspaceSearch.Chars
