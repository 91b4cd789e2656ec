import Mathlib.Data.List.Forall2
import WorkspaceSearch.Proofs.Relevance.Annotation

/-!
# The pieces that are highlighted

Words are looked for in the lower case of a text, and the pieces are cut out of the text itself at the same bytes.  That
is done as soon as the lower case has as many bytes as the text altogether, so a character whose lower case is longer
may make up for one whose lower case is shorter, and between the two all places are shifted.

* There are highlights exactly when no place, shifted or not, lies inside a character (`Hit.Cuts`).
* A piece stands where the word was found exactly when no place is shifted (`Hit.Aligned`).

Both hold of every text whose characters have as many bytes in lower case as in themselves (`Chars.keepsBytes`).
-/

namespace WorkspaceSearch

namespace Chars

/-! ### Bytes -/

private theorem byteCount_nil : byteCount [] = 0 := rfl

theorem byteCount_cons (c : Char) (cs : List Char) : byteCount (c :: cs) = c.utf8Size + byteCount cs := by
  rw [byteCount, List.map_cons, List.sum_cons, byteCount]

theorem byteCount_append (cs ds : List Char) : byteCount (cs ++ ds) = byteCount cs + byteCount ds := by
  rw [byteCount, List.map_append, List.sum_append, byteCount, byteCount]

private theorem byteCount_eq_zero {cs : List Char} : byteCount cs = 0 ↔ cs = [] := by
  cases cs with
  | nil => exact iff_of_true rfl rfl
  | cons c cs =>
    have hpos := c.utf8Size_pos
    rw [byteCount_cons]
    exact iff_of_false (by omega) (List.cons_ne_nil c cs)

/-- Two fronts of a text with equally many bytes are equal. -/
private theorem append_inj_of_byteCount {cs cs' ds ds' : List Char} (h : cs ++ ds = cs' ++ ds')
    (hbytes : byteCount cs = byteCount cs') : cs = cs' ∧ ds = ds' := by
  rcases List.append_eq_append_iff.1 h with ⟨more, rfl, rfl⟩ | ⟨more, rfl, rfl⟩ <;>
    rw [byteCount_append] at hbytes <;>
    obtain rfl := byteCount_eq_zero.1 (by omega : byteCount more = 0) <;>
    simp

private theorem bytes_append (front rest : List Char) :
    dropBytes (byteCount front) (front ++ rest) = some rest ∧
      takeBytes (byteCount front) (front ++ rest) = some front := by
  induction front with
  | nil => exact ⟨by rw [byteCount_nil, dropBytes, List.nil_append], by rw [byteCount_nil, takeBytes]⟩
  | cons c front ih =>
    have hpos := c.utf8Size_pos
    obtain ⟨n, hn⟩ : ∃ n, byteCount (c :: front) = n + 1 :=
      ⟨byteCount (c :: front) - 1, by rw [byteCount_cons]; omega⟩
    have hfits : c.utf8Size ≤ n + 1 := by
      rw [← hn, byteCount_cons]
      omega
    have hleft : n + 1 - c.utf8Size = byteCount front := by
      rw [← hn, byteCount_cons]
      omega
    rw [hn, List.cons_append, dropBytes, takeBytes, if_pos hfits, if_pos hfits, hleft, ih.1, ih.2]
    exact ⟨rfl, rfl⟩

/-- Where something is left behind some bytes or in front of them, they end between two characters. -/
private theorem exists_front {n : Nat} {cs : List Char} (h : (dropBytes n cs).isSome ∨ (takeBytes n cs).isSome) :
    ∃ front rest, cs = front ++ rest ∧ byteCount front = n := by
  induction cs generalizing n with
  | nil =>
    cases n with
    | zero => exact ⟨[], [], rfl, rfl⟩
    | succ n =>
      rw [dropBytes, takeBytes] at h
      rcases h with h | h <;> cases h
  | cons c cs ih =>
    cases n with
    | zero => exact ⟨[], c :: cs, rfl, rfl⟩
    | succ n =>
      rw [dropBytes, takeBytes] at h
      split at h
      · next hfits =>
        rw [Option.isSome_map] at h
        obtain ⟨front, rest, rfl, hfront⟩ := ih h
        exact ⟨c :: front, rest, rfl, by rw [byteCount_cons]; omega⟩
      · rcases h with h | h <;> cases h

private theorem dropBytes_eq_some_iff {n : Nat} {cs rest : List Char} :
    dropBytes n cs = some rest ↔ ∃ front, cs = front ++ rest ∧ byteCount front = n := by
  constructor
  · intro h
    obtain ⟨front, rest', rfl, rfl⟩ := exists_front (.inl (Option.isSome_of_eq_some h))
    rw [(bytes_append front rest').1] at h
    exact ⟨front, by rw [Option.some.inj h], rfl⟩
  · rintro ⟨front, rfl, rfl⟩
    exact (bytes_append front rest).1

theorem takeBytes_eq_some_iff {n : Nat} {cs front : List Char} :
    takeBytes n cs = some front ↔ ∃ rest, cs = front ++ rest ∧ byteCount front = n := by
  constructor
  · intro h
    obtain ⟨front', rest, rfl, rfl⟩ := exists_front (.inr (Option.isSome_of_eq_some h))
    rw [(bytes_append front' rest).2] at h
    obtain rfl := Option.some.inj h
    exact ⟨rest, rfl, rfl⟩
  · rintro ⟨rest, rfl, rfl⟩
    exact (bytes_append front rest).2

/-- So many bytes end between two characters of a text. -/
def EndsBetween (n : Nat) (cs : List Char) : Prop := ∃ front, front <+: cs ∧ byteCount front = n

/-- What is cut out of a text behind some bytes, as long as some bytes. -/
private theorem cut_eq_some_iff {n m : Nat} {cs piece : List Char} :
    (dropBytes n cs).bind (takeBytes m) = some piece ↔
      ∃ front back, cs = front ++ (piece ++ back) ∧ byteCount front = n ∧ byteCount piece = m := by
  simp only [Option.bind_eq_some_iff, dropBytes_eq_some_iff, takeBytes_eq_some_iff]
  constructor
  · rintro ⟨rest, ⟨front, rfl, hfront⟩, back, rfl, hpiece⟩
    exact ⟨front, back, rfl, hfront, hpiece⟩
  · rintro ⟨front, back, rfl, hfront, hpiece⟩
    exact ⟨piece ++ back, ⟨front, rfl, hfront⟩, back, rfl, hpiece⟩

/-- A piece can be cut out of a text when it begins and ends between characters. -/
private theorem exists_cut_iff {n m : Nat} {cs : List Char} :
    (∃ piece, (dropBytes n cs).bind (takeBytes m) = some piece) ↔ EndsBetween n cs ∧ EndsBetween (n + m) cs := by
  simp only [cut_eq_some_iff]
  constructor
  · rintro ⟨piece, front, back, rfl, hfront, hpiece⟩
    refine ⟨⟨front, List.prefix_append _ _, hfront⟩, front ++ piece, ?_, ?_⟩
    · rw [← List.append_assoc]
      exact List.prefix_append _ _
    · rw [byteCount_append, hfront, hpiece]
  · rintro ⟨⟨front, ⟨rest, rfl⟩, hfront⟩, long, ⟨back, hlong⟩, hbytes⟩
    -- the longer of two fronts goes on behind the shorter one
    rcases List.append_eq_append_iff.1 hlong with ⟨more, rfl, rfl⟩ | ⟨piece, rfl, rfl⟩
    · rw [byteCount_append] at hfront
      have hmore := byteCount_eq_zero.1 (by omega : byteCount more = 0)
      exact ⟨[], long ++ more, rest, rfl, by rw [byteCount_append]; omega, by rw [byteCount_nil]; omega⟩
    · rw [byteCount_append] at hbytes
      exact ⟨piece, front, back, rfl, hfront, by omega⟩

/-! ### Lower case within a text -/

/-- The lower case of a piece of a text, given the text before it (read backwards) and the text after it. -/
def lowerWithin (before : List Char) : List Char → List Char → List Char
  | [], _ => []
  | c :: cs, after => lowerAt before c (cs ++ after) ++ lowerWithin (c :: before) cs after

theorem lowerFrom_append (before cs after : List Char) :
    lowerFrom before (cs ++ after) = lowerWithin before cs after ++ lowerFrom (cs.reverse ++ before) after := by
  induction cs generalizing before with
  | nil => rfl
  | cons c cs ih =>
    rw [List.cons_append, lowerFrom, ih, lowerWithin, List.append_assoc, List.reverse_cons, List.append_assoc]
    rfl

theorem lower_append (front rest : List Char) :
    lower (front ++ rest) = lowerWithin [] front rest ++ lowerFrom front.reverse rest := by
  rw [lower, lowerFrom_append, List.append_nil]

/-- Without a capital sigma the text around a piece does not matter. -/
private theorem lowerWithin_eq_lower {cs : List Char} (h : 'Σ' ∉ cs) (before after : List Char) :
    lowerWithin before cs after = lower cs := by
  have hany : ∀ before before', lowerWithin before cs after = lowerFrom before' cs := by
    induction cs with
    | nil => exact fun _ _ => rfl
    | cons c cs ih =>
      intro before before'
      simp only [List.mem_cons, not_or] at h
      obtain ⟨hc, hcs⟩ := h
      rw [lowerWithin, lowerFrom, ih hcs _ (c :: before'), lowerAt, lowerAt, if_neg (Ne.symm hc), if_neg (Ne.symm hc)]
  exact hany before []

/-- A character that has as many bytes in lower case as in itself. -/
def keepsBytes (c : Char) : Bool := c != dottedCapitalI && (simpleLower c).utf8Size == c.utf8Size

private theorem exists_lowerAt_of_keepsBytes {c : Char} (h : keepsBytes c = true) (before after : List Char) :
    ∃ d, lowerAt before c after = [d] ∧ d.utf8Size = c.utf8Size := by
  simp only [keepsBytes, Bool.and_eq_true, bne_iff_ne, beq_iff_eq] at h
  unfold lowerAt
  split
  · next hsigma =>
    refine ⟨_, rfl, ?_⟩
    rw [hsigma]
    split <;> decide
  · exact ⟨simpleLower c, if_neg h.1, h.2⟩

private theorem lowerWithin_of_keepsBytes {cs : List Char} (h : ∀ c ∈ cs, keepsBytes c = true)
    (before after : List Char) :
    (lowerWithin before cs after).length = cs.length ∧ byteCount (lowerWithin before cs after) = byteCount cs := by
  induction cs generalizing before with
  | nil => exact ⟨rfl, rfl⟩
  | cons c cs ih =>
    obtain ⟨d, hd, hbytes⟩ := exists_lowerAt_of_keepsBytes (h c List.mem_cons_self) before (cs ++ after)
    obtain ⟨hlength, hcount⟩ := ih (fun e he => h e (List.mem_cons_of_mem c he)) (c :: before)
    rw [lowerWithin, hd, List.singleton_append, List.length_cons, hlength, byteCount_cons, byteCount_cons, hcount,
      hbytes]
    exact ⟨rfl, rfl⟩

private theorem lower_of_keepsBytes {cs : List Char} (h : ∀ c ∈ cs, keepsBytes c = true) :
    (lower cs).length = cs.length ∧ byteCount (lower cs) = byteCount cs := by
  have hwhole := lower_append cs []
  rw [List.append_nil, lowerFrom, List.append_nil] at hwhole
  rw [hwhole]
  exact lowerWithin_of_keepsBytes h [] []

end Chars

namespace Relevance

open Chars (byteCount dropBytes takeBytes lower lowerWithin)

/-! ### Hits -/

/-- A place where a word is found in a text, both in lower case. -/
structure Hit where
  word : List Char
  /-- The number of characters before it. -/
  offset : Nat

/-- The hits of the words of a query, one word after the other and each from left to right. -/
def hits (content query : String) : List Hit :=
  (longWords query.toList).flatMap fun w =>
    (Chars.occurrences (lower w) (lower content.toList)).map fun offset => ⟨lower w, offset⟩

namespace Hit

/-- The number of bytes before a hit in the lower case of a text. -/
def start (h : Hit) (text : List Char) : Nat := byteCount ((lower text).take h.offset)

/-- A hit begins and ends between characters of the text, at the bytes where it does so in lower case. -/
def Cuts (h : Hit) (text : List Char) : Prop :=
  Chars.EndsBetween (h.start text) text ∧ Chars.EndsBetween (h.start text + byteCount h.word) text

/-- The piece of a text between two others is the one in which a hit is found. -/
structure IsAt (h : Hit) (text front piece back : List Char) : Prop where
  text_eq : text = front ++ (piece ++ back)
  offset_eq : (lowerWithin [] front (piece ++ back)).length = h.offset
  word_eq : lowerWithin front.reverse piece back = h.word

/-- A hit is found in a piece of the text that begins and ends at the same bytes as in lower case. -/
def Aligned (h : Hit) (text : List Char) : Prop :=
  ∃ front piece back, h.IsAt text front piece back ∧
    byteCount (lowerWithin [] front (piece ++ back)) = byteCount front ∧ byteCount h.word = byteCount piece

/-- A piece that is cut out for a hit, and when it is the one in which the hit is found. -/
def Shows (h : Hit) (text : List Char) (shown : String) : Prop :=
  ∃ front piece back, text = front ++ (piece ++ back) ∧ byteCount front = h.start text ∧
    byteCount piece = byteCount h.word ∧ shown = .ofList piece ∧ (h.IsAt text front piece back ↔ h.Aligned text)

/-- What is shown for a hit; none when a cut would go through a character. -/
def shown? (h : Hit) (text : List Char) : Option (List Char) :=
  if byteCount (lower text) = byteCount text then (dropBytes (h.start text) text).bind (takeBytes (byteCount h.word))
  else some h.word

variable {h : Hit} {text front piece back : List Char}

private theorem IsAt.start_eq (hat : h.IsAt text front piece back) :
    h.start text = byteCount (lowerWithin [] front (piece ++ back)) := by
  rw [start, hat.text_eq, Chars.lower_append, ← hat.offset_eq, List.take_left]

/-- The piece that is cut out is the one in which a hit is found when no place is shifted. -/
private theorem isAt_iff_aligned (htext : text = front ++ (piece ++ back)) (hfront : byteCount front = h.start text)
    (hpiece : byteCount piece = byteCount h.word) : h.IsAt text front piece back ↔ h.Aligned text := by
  constructor
  · intro hat
    exact ⟨front, piece, back, hat, hat.start_eq.symm.trans hfront.symm, hpiece.symm⟩
  · rintro ⟨front', piece', back', hat, hstart, hword⟩
    have hsame : front ++ (piece ++ back) = front' ++ (piece' ++ back') := htext.symm.trans hat.text_eq
    have hfronts : byteCount front = byteCount front' := by rw [hfront, hat.start_eq, hstart]
    obtain ⟨rfl, hrest⟩ := Chars.append_inj_of_byteCount hsame hfronts
    obtain ⟨rfl, rfl⟩ := Chars.append_inj_of_byteCount hrest (hpiece.trans hword)
    exact hat

/-- Where every character keeps its bytes, no place is shifted. -/
private theorem aligned_of_keepsBytes (hkeeps : ∀ c ∈ text, Chars.keepsBytes c = true)
    (hword : h.word <+: (lower text).drop h.offset) (hoffset : h.offset ≤ (lower text).length) : h.Aligned text := by
  have hlength := (Chars.lower_of_keepsBytes hkeeps).1
  have hroom := hword.length_le
  rw [List.length_drop] at hroom
  have hsplit : text = text.take h.offset ++
      ((text.drop h.offset).take h.word.length ++ (text.drop h.offset).drop h.word.length) := by
    rw [List.take_append_drop, List.take_append_drop]
  -- the text falls into the piece of the hit and what stands around it
  generalize hfront : text.take h.offset = front at hsplit
  generalize hpiece : (text.drop h.offset).take h.word.length = piece at hsplit
  generalize (text.drop h.offset).drop h.word.length = back at hsplit
  have hkept : ∀ cs, cs <:+: text → ∀ c ∈ cs, Chars.keepsBytes c = true := fun cs hcs c hc => hkeeps c (hcs.subset hc)
  have hfrontKept := hkept front (hfront ▸ (List.take_prefix _ _).isInfix)
  have hpieceKept := hkept piece (hpiece ▸ ((List.take_prefix _ _).isInfix.trans (List.drop_suffix _ _).isInfix))
  obtain ⟨hfrontLength, hfrontBytes⟩ := Chars.lowerWithin_of_keepsBytes hfrontKept [] (piece ++ back)
  obtain ⟨hpieceLength, hpieceBytes⟩ := Chars.lowerWithin_of_keepsBytes hpieceKept front.reverse back
  have hoffsetEq : (lowerWithin [] front (piece ++ back)).length = h.offset := by
    rw [hfrontLength, ← hfront, List.length_take]
    omega
  have hwordLength : (lowerWithin front.reverse piece back).length = h.word.length := by
    rw [hpieceLength, ← hpiece, List.length_take, List.length_drop]
    omega
  have hbehind : (lower text).drop h.offset =
      lowerWithin front.reverse piece back ++ Chars.lowerFrom (piece.reverse ++ front.reverse) back := by
    rw [hsplit, Chars.lower_append, ← hoffsetEq, List.drop_left, Chars.lowerFrom_append]
  rw [hbehind] at hword
  have hwordEq : lowerWithin front.reverse piece back = h.word :=
    ((List.prefix_of_prefix_length_le hword (List.prefix_append _ _) hwordLength.ge).eq_of_length
      hwordLength.symm).symm
  exact ⟨front, piece, back, ⟨hsplit, hoffsetEq, hwordEq⟩, hfrontBytes, by rw [← hwordEq, hpieceBytes]⟩

end Hit

/-! ### What is shown -/

variable {content query : String}

/-- A hit of a text stands in its lower case. -/
private theorem prefix_of_mem_hits {h : Hit} (hh : h ∈ hits content query) :
    h.offset ≤ (lower content.toList).length ∧ h.word <+: (lower content.toList).drop h.offset := by
  obtain ⟨w, -, hw⟩ := List.mem_flatMap.1 hh
  obtain ⟨offset, hoffset, rfl⟩ := List.mem_map.1 hw
  obtain ⟨hlt, hword⟩ := Chars.prefix_of_mem_occurrences hoffset
  exact ⟨hlt.le, hword⟩

private theorem mapM_flatMap {α β γ : Type} (f : β → Option γ) (g : α → List β) (as : List α) :
    (as.flatMap g).mapM f = (as.mapM fun a => (g a).mapM f).map List.flatten := by
  induction as with
  | nil => rfl
  | cons a as ih =>
    rw [List.flatMap_cons, List.mapM_append, ih, List.mapM_cons]
    cases (g a).mapM f with
    | none => rfl
    | some bs => cases as.mapM fun a => (g a).mapM f <;> rfl

private theorem mapM_map {α β γ : Type} (f : β → Option γ) (g : α → β) (as : List α) :
    (as.map g).mapM f = as.mapM fun a => f (g a) := by
  induction as with
  | nil => rfl
  | cons a as ih => rw [List.map_cons, List.mapM_cons, List.mapM_cons, ih]

/-- The highlights are what is shown for the hits, in order. -/
private theorem highlights_eq (content query : String) :
    highlights content query =
      ((hits content query).mapM fun h : Hit => h.shown? content.toList).map (·.map .ofList) := by
  simp only [hits, mapM_flatMap, mapM_map, Option.map_map]
  rfl

private theorem forall₂_of_mapM {α β : Type} {f : α → Option β} {as : List α} {bs : List β} (h : as.mapM f = some bs) :
    List.Forall₂ (fun a b => f a = some b) as bs := by
  induction as generalizing bs with
  | nil =>
    obtain rfl := Option.some.inj h
    exact .nil
  | cons a as ih =>
    simp only [List.mapM_cons, Option.bind_eq_bind, Option.bind_eq_some_iff, Option.pure_def, Option.some.injEq] at h
    obtain ⟨b, hb, bs, hbs, rfl⟩ := h
    exact .cons hb (ih hbs)

/-- There are highlights exactly when something is shown for every hit. -/
private theorem exists_highlights_iff :
    (∃ pieces, highlights content query = some pieces) ↔
      ∀ h ∈ hits content query, ∃ piece, h.shown? content.toList = some piece := by
  rw [highlights_eq]
  constructor
  · rintro ⟨pieces, hpieces⟩ h hh
    obtain ⟨shown, hshown, -⟩ := Option.map_eq_some_iff.1 hpieces
    by_contra hnone
    rw [Outcome.mapM_eq_none hh (Option.eq_none_iff_forall_ne_some.2 (not_exists.1 hnone))] at hshown
    cases hshown
  · intro hall
    obtain ⟨shown, hshown⟩ := Outcome.exists_mapM_some hall
    exact ⟨_, by rw [hshown, Option.map_some]⟩

/-- Every highlight is what is shown for its hit. -/
private theorem forall₂_of_highlights {pieces : List String} (h : highlights content query = some pieces) :
    List.Forall₂ (fun h piece => h ∈ hits content query ∧ h.shown? content.toList = some piece.toList)
      (hits content query) pieces := by
  rw [highlights_eq] at h
  obtain ⟨shown, hshown, rfl⟩ := Option.map_eq_some_iff.1 h
  refine (List.forall₂_and_left _ _).2 ⟨fun _ => id, List.forall₂_map_right_iff.2 ?_⟩
  simpa only [String.toList_ofList] using forall₂_of_mapM hshown

/-- What is highlighted of a text for a query.

* When the lower case of the text has another number of bytes, the words themselves are shown.
* When it has the same number, pieces of the text are shown.  There are any exactly when every hit begins and ends
  between characters of the text, and a piece is the one in which its word was found exactly when no place is shifted.
* When every character of the text keeps its bytes, every word is shown as it stands in the text: the lower case of the
  piece in its place is the word, and, but for a capital sigma, so is its lower case by itself. -/
theorem highlights_exact (content query : String) :
    (byteCount (lower content.toList) ≠ byteCount content.toList →
      highlights content query = some ((hits content query).map fun h => .ofList h.word)) ∧
    (byteCount (lower content.toList) = byteCount content.toList →
      ((∃ pieces, highlights content query = some pieces) ↔ ∀ h ∈ hits content query, h.Cuts content.toList) ∧
      ∀ pieces, highlights content query = some pieces →
        List.Forall₂ (fun h piece => h.Shows content.toList piece) (hits content query) pieces) ∧
    ((∀ c ∈ content.toList, Chars.keepsBytes c = true) →
      ∃ pieces, highlights content query = some pieces ∧
        List.Forall₂ (fun h piece => (∃ front back, h.IsAt content.toList front piece.toList back) ∧
          ('Σ' ∉ piece.toList → lower piece.toList = h.word)) (hits content query) pieces) := by
  refine ⟨fun hdiffer => ?_, fun hsame => ?_, fun hkeeps => ?_⟩
  · have hwords : ∀ h ∈ hits content query, h.shown? content.toList = some h.word := fun h _ => if_neg hdiffer
    rw [highlights_eq, Outcome.mapM_eq_some_map hwords, Option.map_some, List.map_map]
    rfl
  · -- with equally many bytes, pieces are cut out of the text itself
    have hcut : ∀ h : Hit, h.shown? content.toList =
        (dropBytes (h.start content.toList) content.toList).bind (takeBytes (byteCount h.word)) := fun h => if_pos hsame
    refine ⟨?_, fun pieces hpieces => ?_⟩
    · simp only [exists_highlights_iff, hcut, Chars.exists_cut_iff, Hit.Cuts]
    · refine (forall₂_of_highlights hpieces).imp fun h piece ⟨_, hshown⟩ => ?_
      rw [hcut] at hshown
      obtain ⟨front, back, htext, hfront, hpiece⟩ := Chars.cut_eq_some_iff.1 hshown
      exact ⟨front, piece.toList, back, htext, hfront, hpiece, String.ofList_toList.symm,
        Hit.isAt_iff_aligned htext hfront hpiece⟩
  · have hsame : byteCount (lower content.toList) = byteCount content.toList := (Chars.lower_of_keepsBytes hkeeps).2
    have hshown : ∀ h ∈ hits content query, ∃ piece, h.shown? content.toList = some piece ∧
        (∃ front back, h.IsAt content.toList front piece back) ∧ ('Σ' ∉ piece → lower piece = h.word) := by
      intro h hh
      obtain ⟨hoffset, hword⟩ := prefix_of_mem_hits hh
      obtain ⟨front, piece, back, hat, hfront, hpiece⟩ := Hit.aligned_of_keepsBytes hkeeps hword hoffset
      have hcut := Chars.cut_eq_some_iff.2 ⟨front, back, hat.text_eq, hfront.symm.trans hat.start_eq.symm, hpiece.symm⟩
      refine ⟨piece, (if_pos hsame).trans hcut, ⟨front, back, hat⟩, fun hsigma => ?_⟩
      rw [← hat.word_eq, Chars.lowerWithin_eq_lower hsigma]
    obtain ⟨pieces, hpieces⟩ := exists_highlights_iff.2 fun h hh => (hshown h hh).imp fun _ => And.left
    refine ⟨pieces, hpieces, ?_⟩
    refine (forall₂_of_highlights hpieces).imp fun h piece ⟨hh, hpiece⟩ => ?_
    obtain ⟨piece', hpiece', hat, hlower⟩ := hshown h hh
    obtain rfl := Option.some.inj (hpiece'.symm.trans hpiece)
    exact ⟨hat, hlower⟩

/-- A character before a word that is longer in lower case makes up for one behind it that is shorter: the word is cut
out one byte too late, through a character or a letter further on. -/
theorem highlights_shifted :
    highlights "\u023Axx\u212B" "xx" = none ∧ highlights "\u023Aabc\u212B" "ab" = some ["bc"] := by
  decide +kernel

end Relevance

end WorkspaceSearch
