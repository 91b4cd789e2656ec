import WorkspaceSearch.Proofs.Relevance.Annotation
import WorkspaceSearch.Proofs.Relevance.Score

/-!
# The pieces that the words of a query match

For ASCII texts the lower case is taken letter by letter, before or after a text is cut into words.  So the words that
are highlighted are those that a score counts (`soughtWords_of_ascii`), each of them is highlighted at its leftmost
occurrences, and it is highlighted at all exactly when it earns its points (`highlights_complete`).
-/

namespace WorkspaceSearch

namespace Chars

/-! ### Words in lower case -/

private theorem isBlank_asciiLower (c : Char) : isBlank (asciiLower c) = isBlank c := by
  rw [Bool.eq_iff_iff]
  simp only [isBlank, toNat_asciiLower, Bool.or_eq_true, Bool.and_eq_true, decide_eq_true_eq]
  split
  · next hupper =>
    have hrange := isAsciiUpper_iff.1 hupper
    omega
  · rfl

/-- A change of characters that keeps blanks can be made word by word. -/
private theorem words_map {f : Char → Char} (hf : ∀ c, isBlank (f c) = isBlank c) (cs : List Char) :
    words (cs.map f) = (words cs).map (List.map f) := by
  have hblank : ∀ g, Blank g → Blank (g.map f) := by
    intro g hg c hc
    obtain ⟨d, hd, rfl⟩ := List.mem_map.1 hc
    exact (hf d).trans (hg d hd)
  induction cs using words_induction with
  | blank g hg => rw [words_of_blank hg, words_of_blank (hblank g hg), List.map_nil]
  | word g w rest hg hw hne hr ih =>
    have hsolid : Solid (w.map f) := by
      intro c hc
      obtain ⟨d, hd, rfl⟩ := List.mem_map.1 hc
      exact (hf d).trans (hw d hd)
    have hbreak : IsBreak (rest.map f) := by
      intro c hc
      rw [List.head?_map] at hc
      obtain ⟨d, hd, rfl⟩ := Option.map_eq_some_iff.1 hc
      exact (hf d).trans (hr d hd)
    rw [List.map_append, List.map_append, words_append_word (hblank g hg) hsolid (by simpa using hne) hbreak,
      ih rest rest.suffix_refl, words_append_word hg hw hne hr, List.map_cons]

end Chars

namespace Text

/-- A text of ASCII. -/
def IsAscii (s : String) : Prop := ∀ c ∈ s.toList, Chars.isAscii c = true

instance (s : String) : Decidable (IsAscii s) := List.decidableBAll _ _

end Text

namespace Relevance

open Chars (lower trim asciiLower isAscii occurrences IsLeftmost)
open Text (IsAscii)

variable {content query : String}

private theorem ascii_of_mem_longWords (hquery : IsAscii query) {w : List Char} (hw : w ∈ longWords query.toList) :
    ∀ c ∈ w, isAscii c = true :=
  fun c hc => hquery c ((Chars.infix_of_mem_words (List.mem_of_mem_filter hw)).subset hc)

/-- The words that a score counts are the long words of the query in lower case. -/
theorem soughtWords_of_ascii (hquery : IsAscii query) :
    soughtWords query = (longWords query.toList).map (List.map asciiLower) := by
  have htrim : ∀ c ∈ trim query.toList, isAscii c = true := fun c hc => hquery c ((Chars.trim_infix _).subset hc)
  have hlong : (fun w : List Char => decide (2 ≤ w.length)) ∘ List.map asciiLower = fun w => decide (2 ≤ w.length) := by
    funext w
    rw [Function.comp_apply, List.length_map]
  rw [soughtWords, sought, longWords, Chars.lower_of_ascii htrim, Chars.words_map Chars.isBlank_asciiLower,
    Chars.words_trim, List.filter_map, hlong, longWords]

/-! ### Pieces -/

/-- The pieces of a content in which a word stands, the case of ASCII letters aside, from left to right. -/
def piecesOf (content : String) (word : List Char) : List String :=
  (occurrences (word.map asciiLower) (content.toList.map asciiLower)).map fun place =>
    .ofList ((content.toList.drop place).take word.length)

private theorem highlights_of_ascii (hcontent : IsAscii content) (hquery : IsAscii query) :
    highlights content query = some ((longWords query.toList).flatMap (piecesOf content)) := by
  have hword : ∀ w ∈ longWords query.toList, wordHighlights content.toList (lower content.toList) (lower w) =
      some ((occurrences (w.map asciiLower) (content.toList.map asciiLower)).map fun place =>
        (content.toList.drop place).take w.length) := by
    intro w hw
    rw [wordHighlights_of_ascii hcontent, Chars.lower_of_ascii (ascii_of_mem_longWords hquery hw),
      Chars.lower_of_ascii hcontent, List.length_map]
  rw [highlights, Outcome.mapM_eq_some_map hword, Option.map_some, ← List.flatMap_def, List.map_flatMap]
  simp only [List.map_map]
  rfl

private theorem map_asciiLower_ne_nil {w : List Char} (hw : w ∈ longWords query.toList) : w.map asciiLower ≠ [] := by
  rw [ne_eq, List.map_eq_nil_iff]
  exact Chars.ne_nil_of_mem_words (List.mem_of_mem_filter hw)

/-- Every piece is the word that it is shown for, case aside. -/
private theorem map_asciiLower_of_mem_piecesOf {w : List Char} {piece : String} (h : piece ∈ piecesOf content w) :
    piece.toList.map asciiLower = w.map asciiLower := by
  obtain ⟨place, hplace, rfl⟩ := List.mem_map.1 h
  have hstands := (Chars.prefix_of_mem_occurrences hplace).2
  have hlength : (w.map asciiLower).length = w.length := List.length_map asciiLower
  rw [String.toList_ofList, List.map_take, List.map_drop, ← hlength]
  exact (List.prefix_iff_eq_take.1 hstands).symm

private theorem piecesOf_ne_nil_iff {w : List Char} (hw : w ∈ longWords query.toList) :
    piecesOf content w ≠ [] ↔ w.map asciiLower <:+: content.toList.map asciiLower := by
  rw [piecesOf, ne_eq, List.map_eq_nil_iff]
  exact Chars.occurrences_ne_nil_iff (map_asciiLower_ne_nil hw)

/-- The words that earn points are those that are highlighted. -/
private theorem wordPoints_of_ascii (hcontent : IsAscii content) (hquery : IsAscii query) :
    wordPoints content query = 10 * ((longWords query.toList).countP fun w => piecesOf content w ≠ [] : Nat) := by
  have hcount : (soughtWords query).countP (fun w => w <:+: lower content.toList) =
      (longWords query.toList).countP fun w => piecesOf content w ≠ [] := by
    rw [soughtWords_of_ascii hquery, List.countP_map, Chars.lower_of_ascii hcontent]
    refine List.countP_congr fun w hw => ?_
    rw [Function.comp_apply, decide_eq_true_iff, decide_eq_true_iff, piecesOf_ne_nil_iff hw]
  rw [wordPoints, hcount]

/-- The highlights of an ASCII content for an ASCII query.

* They are the pieces of the content for each long word of the query in turn, repeated words again.
* The pieces of a word are cut out of the content at its leftmost occurrences, case aside, of which there is only one
  list: they do not overlap, and an occurrence that is left out begins inside one that is taken.
* The words that a score counts are these words in lower case, and a word is highlighted exactly when the score counts
  it; so the points for words are ten times the number of words that are highlighted. -/
theorem highlights_complete (hcontent : IsAscii content) (hquery : IsAscii query) :
    highlights content query = some ((longWords query.toList).flatMap (piecesOf content)) ∧
    (∀ w ∈ longWords query.toList,
      (∃ places, IsLeftmost (w.map asciiLower) (content.toList.map asciiLower) places ∧
        (∀ places', IsLeftmost (w.map asciiLower) (content.toList.map asciiLower) places' → places' = places) ∧
        piecesOf content w = places.map fun place => .ofList ((content.toList.drop place).take w.length)) ∧
      (∀ piece ∈ piecesOf content w, piece.toList.map asciiLower = w.map asciiLower) ∧
      (piecesOf content w ≠ [] ↔ w.map asciiLower <:+: lower content.toList)) ∧
    soughtWords query = (longWords query.toList).map (List.map asciiLower) ∧
    (score content query).toRat = phrasePoints content query + wordPoints content query ∧
    wordPoints content query = 10 * ((longWords query.toList).countP fun w => piecesOf content w ≠ [] : Nat) := by
  refine ⟨highlights_of_ascii hcontent hquery, fun w hw => ⟨?_, fun piece => map_asciiLower_of_mem_piecesOf, ?_⟩,
    soughtWords_of_ascii hquery, score_eq content query, wordPoints_of_ascii hcontent hquery⟩
  · have hleftmost := Chars.isLeftmost_occurrences (map_asciiLower_ne_nil hw) (content.toList.map asciiLower)
    exact ⟨_, hleftmost, fun places' h => h.unique hleftmost, rfl⟩
  · rw [Chars.lower_of_ascii hcontent]
    exact piecesOf_ne_nil_iff hw

/-- A word that overlaps itself, one that stands twice in the query, and one that is not in the content. -/
theorem highlights_complete_overlapping :
    IsAscii "aAaa Banana" ∧ IsAscii "aa ANA zz aa" ∧
      highlights "aAaa Banana" "aa ANA zz aa" = some ["aA", "aa", "ana", "aA", "aa"] ∧
      wordPoints "aAaa Banana" "aa ANA zz aa" = 30 := by
  have hcontent : IsAscii "aAaa Banana" := by decide
  have hquery : IsAscii "aa ANA zz aa" := by decide
  obtain ⟨hpieces, -, -, -, hpoints⟩ := highlights_complete hcontent hquery
  refine ⟨hcontent, hquery, ?_, ?_⟩
  · rw [hpieces]
    decide +kernel
  · have hcount : ((longWords "aa ANA zz aa".toList).countP fun w => piecesOf "aAaa Banana" w ≠ []) = 3 := by
      decide +kernel
    rw [hpoints, hcount]
    norm_num

end Relevance

end WorkspaceSearch
