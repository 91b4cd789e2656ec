import WorkspaceSearch.Proofs.Relevance.Score
import WorkspaceSearch.Proofs.Text.Encoded
import WorkspaceSearch.Relevance.Context

/-!
# The window around a match

A window is put around the first occurrence of the whole query or, failing that, of the first word of the query that
occurs (`Matched`).  In a content without the dotted capital I every character has one character in lower case, so the
match stands at the same place in the content itself.  The window is the match with at most the radius of characters on
either side (`ShownAround`), and for the whole query it stands where the score finds it (`context_around_match`).
-/

namespace WorkspaceSearch

namespace Chars

/-- The lower case of a piece has one character more for every dotted capital I in it. -/
theorem length_lowerWithin_eq (before cs after : List Char) :
    (lowerWithin before cs after).length = cs.length + cs.count dottedCapitalI := by
  induction cs generalizing before with
  | nil => rfl
  | cons c cs ih =>
    have hone : (lowerAt before c (cs ++ after)).length = 1 + if c = dottedCapitalI then 1 else 0 := by
      unfold lowerAt
      by_cases hsigma : c = 'Σ'
      · subst hsigma
        rfl
      · by_cases hdotted : c = dottedCapitalI
        · rw [if_neg hsigma, if_pos hdotted, if_pos hdotted]
          rfl
        · rw [if_neg hsigma, if_neg hdotted, if_neg hdotted]
          rfl
    rw [lowerWithin, List.length_append, hone, ih, List.length_cons, List.count_cons]
    simp only [beq_iff_eq]
    omega

theorem length_lower_eq (cs : List Char) : (lower cs).length = cs.length + cs.count dottedCapitalI := by
  have hlower := lower_append cs []
  rw [List.append_nil, lowerFrom, List.append_nil] at hlower
  rw [hlower, length_lowerWithin_eq]

private theorem length_lowerWithin {cs : List Char} (h : dottedCapitalI ∉ cs) (before after : List Char) :
    (lowerWithin before cs after).length = cs.length := by
  rw [length_lowerWithin_eq, List.count_eq_zero_of_not_mem h, Nat.add_zero]

/-- Without the dotted capital I, a piece of the lower case is the lower case of the same piece in its place. -/
private theorem lower_piece {cs : List Char} (h : dottedCapitalI ∉ cs) {place length : Nat}
    (hend : place + length ≤ cs.length) :
    ((lower cs).drop place).take length =
      lowerWithin (cs.take place).reverse ((cs.drop place).take length) (cs.drop (place + length)) := by
  have hsplit : cs = cs.take place ++ ((cs.drop place).take length ++ cs.drop (place + length)) := by
    rw [← List.drop_drop, List.take_append_drop, List.take_append_drop]
  have hfront : (cs.take place).length = place := List.length_take_of_le (by omega)
  have hpiece : ((cs.drop place).take length).length = length := by
    rw [List.length_take, List.length_drop]
    omega
  generalize cs.take place = front at hsplit hfront ⊢
  generalize (cs.drop place).take length = piece at hsplit hpiece ⊢
  generalize cs.drop (place + length) = back at hsplit ⊢
  subst hsplit hfront hpiece
  simp only [List.mem_append, not_or] at h
  have hbefore := length_lowerWithin h.1 [] (piece ++ back)
  have hmatch := length_lowerWithin h.2.1 front.reverse back
  rw [lower_append, List.drop_append_of_le_length hbefore.ge, List.drop_eq_nil_of_le hbefore.le, List.nil_append,
    lowerFrom_append, List.take_append_of_le_length hmatch.ge, List.take_of_length_le hmatch.le]

end Chars

namespace Relevance

open Chars (lower trim FirstAt BytesFirstAt)

variable {content query : String} {place length radius : Nat}

/-! ### The match -/

/-- The place and the length of the match that a window is put around, in characters of the lower case. -/
inductive Matched (content query : String) : Nat → Nat → Prop where
  | whole {place : Nat} :
    FirstAt (sought query) (lower content.toList) place → Matched content query place (sought query).length
  | word {place : Nat} {front back : List (List Char)} {w : List Char} :
    Lacks content query → longWords (trim query.toList) = front ++ w :: back →
    (∀ v ∈ front, ¬lower v <:+: lower content.toList) → FirstAt (lower w) (lower content.toList) place →
    Matched content query place (lower w).length

/-- Neither the query nor any of its words of two or more characters occurs. -/
def Unmatched (content query : String) : Prop :=
  Lacks content query ∧ ∀ w ∈ longWords (trim query.toList), ¬lower w <:+: lower content.toList

private theorem locate_eq_some_iff {needle text : List Char} (hne : needle ≠ []) :
    locate needle text = some (place, length) ↔ FirstAt needle text place ∧ length = needle.length := by
  rw [locate, if_neg hne, Option.map_eq_some_iff]
  constructor
  · rintro ⟨i, hi, hfound⟩
    obtain ⟨rfl, rfl⟩ := Prod.mk.inj hfound
    exact ⟨Chars.find?_eq_some_iff.1 hi, rfl⟩
  · rintro ⟨hfirst, rfl⟩
    exact ⟨place, Chars.find?_eq_some_iff.2 hfirst, rfl⟩

private theorem locate_eq_none_iff {needle text : List Char} (hne : needle ≠ []) :
    locate needle text = none ↔ ¬needle <:+: text := by
  rw [locate, if_neg hne, Option.map_eq_none_iff, Chars.find?_eq_none_iff]

private theorem lower_ne_nil_of_mem {w : List Char} (hw : w ∈ longWords (trim query.toList)) : lower w ≠ [] :=
  Chars.lower_ne_nil (Chars.ne_nil_of_mem_words (List.mem_of_mem_filter hw))

private theorem lower_ne_nil_of_split {front back : List (List Char)} {w : List Char}
    (hsplit : longWords (trim query.toList) = front ++ w :: back) : lower w ≠ [] ∧ ∀ v ∈ front, lower v ≠ [] := by
  have hlong : ∀ v ∈ front ++ w :: back, lower v ≠ [] := by
    rw [← hsplit]
    exact fun v hv => lower_ne_nil_of_mem hv
  exact ⟨hlong w (List.mem_append_right front List.mem_cons_self), fun v hv => hlong v (List.mem_append_left _ hv)⟩

private theorem locateQuery_eq_none_iff (hquery : trim query.toList ≠ []) :
    locateQuery (trim query.toList) (lower content.toList) = none ↔ Unmatched content query := by
  have hwords : ((longWords (trim query.toList)).findSome? fun w => locate (lower w) (lower content.toList)) = none ↔
      ∀ w ∈ longWords (trim query.toList), ¬lower w <:+: lower content.toList := by
    rw [List.findSome?_eq_none_iff]
    exact forall₂_congr fun w hw => locate_eq_none_iff (lower_ne_nil_of_mem hw)
  have hwhole : locate (lower (trim query.toList)) (lower content.toList) = none ↔ Lacks content query :=
    locate_eq_none_iff (Chars.lower_ne_nil hquery)
  rw [Unmatched, ← hwords, ← hwhole, locateQuery]
  split
  · next hfound => simp [hfound]
  · next hnone => simp [hnone]

theorem matched_of_locateQuery (hquery : trim query.toList ≠ [])
    (h : locateQuery (trim query.toList) (lower content.toList) = some (place, length)) :
    Matched content query place length := by
  rw [locateQuery] at h
  split at h
  · next hwhole =>
    obtain rfl := Option.some.inj h
    obtain ⟨hfirst, rfl⟩ := (locate_eq_some_iff (Chars.lower_ne_nil hquery)).1 hwhole
    exact .whole hfirst
  · next hnone =>
    obtain ⟨front, w, back, hsplit, hw, hfront⟩ := List.findSome?_eq_some_iff.1 h
    obtain ⟨hword, hbefore⟩ := lower_ne_nil_of_split hsplit
    obtain ⟨hfirst, rfl⟩ := (locate_eq_some_iff hword).1 hw
    refine .word ((locate_eq_none_iff (Chars.lower_ne_nil hquery)).1 hnone) hsplit (fun v hv => ?_) hfirst
    exact (locate_eq_none_iff (hbefore v hv)).1 (hfront v hv)

/-- The match is the one that is looked for. -/
theorem Matched.locateQuery_eq (h : Matched content query place length) (hquery : trim query.toList ≠ []) :
    locateQuery (trim query.toList) (lower content.toList) = some (place, length) := by
  rw [locateQuery]
  cases h with
  | whole hfirst =>
    have hwhole : locate (lower (trim query.toList)) (lower content.toList) = some (place, (sought query).length) :=
      (locate_eq_some_iff (Chars.lower_ne_nil hquery)).2 ⟨hfirst, rfl⟩
    rw [hwhole]
  | word hlacks hsplit hfront hfirst =>
    have hnone : locate (lower (trim query.toList)) (lower content.toList) = none :=
      (locate_eq_none_iff (Chars.lower_ne_nil hquery)).2 hlacks
    obtain ⟨hword, hbefore⟩ := lower_ne_nil_of_split hsplit
    rw [hnone]
    refine List.findSome?_eq_some_iff.2 ⟨_, _, _, hsplit, (locate_eq_some_iff hword).2 ⟨hfirst, rfl⟩, fun v hv => ?_⟩
    exact (locate_eq_none_iff (hbefore v hv)).2 (hfront v hv)

/-- A match ends within the lower case of the content. -/
theorem Matched.end_le (h : Matched content query place length) : place + length ≤ (lower content.toList).length := by
  cases h with
  | whole hfirst => exact hfirst.end_le
  | word _ _ _ hfirst => exact hfirst.end_le

private theorem Matched.not_unmatched (h : Matched content query place length) : ¬Unmatched content query := by
  rintro ⟨hlacks, hwords⟩
  cases h with
  | whole hfirst => exact hlacks (Chars.exists_firstAt_iff.1 ⟨_, hfirst⟩)
  | word _ hsplit _ hfirst =>
    refine hwords _ ?_ (Chars.exists_firstAt_iff.1 ⟨_, hfirst⟩)
    rw [hsplit]
    exact List.mem_append_right _ List.mem_cons_self

/-- The match of a query that occurs is its first occurrence. -/
theorem Matched.first (h : Matched content query place length) (hoccurs : sought query <:+: lower content.toList) :
    FirstAt (sought query) (lower content.toList) place := by
  cases h with
  | whole hfirst => exact hfirst
  | word hlacks _ _ _ => exact absurd hoccurs hlacks

/-! ### The window -/

/-- Three dots for what is cut off. -/
def dots : List Char := ['.', '.', '.']

/-- The characters of a text around a match: those of the match and so many on either side, as far as there are any. -/
def around (text : List Char) (place length radius : Nat) : List Char :=
  (text.take (min text.length (place + length + radius))).drop (place - radius)

/-- What is shown of a text around a match. -/
structure ShownAround (text : List Char) (place length radius : Nat) (shown : String) : Prop where
  end_le : place + length ≤ text.length
  shown_eq : shown = .ofList ((if radius < place then dots else []) ++ around text place length radius ++
    (if place + length + radius < text.length then dots else []))
  /-- The whole match is shown, with no more than the radius on either side. -/
  around_eq : ∃ before after, around text place length radius = before ++ ((text.drop place).take length ++ after) ∧
    before.length ≤ radius ∧ after.length ≤ radius

private theorem around_eq {text : List Char} (hend : place + length ≤ text.length) (radius : Nat) :
    ∃ before after, around text place length radius = before ++ ((text.drop place).take length ++ after) ∧
      before.length ≤ radius ∧ after.length ≤ radius := by
  obtain ⟨more, hmore⟩ : ∃ more, min text.length (place + length + radius) = place + (length + more) :=
    ⟨min text.length (place + length + radius) - (place + length), by omega⟩
  refine ⟨(text.take place).drop (place - radius), (text.drop (place + length)).take more, ?_, ?_, ?_⟩
  · have hfront : place - radius ≤ (text.take place).length := by
      rw [List.length_take]
      omega
    rw [around, hmore, List.take_add, List.drop_append_of_le_length hfront, List.take_add, List.drop_drop]
  · rw [List.length_drop, List.length_take]
    omega
  · rw [List.length_take]
    omega

private theorem shownAround_of_windowAround {text : List Char} (hend : place + length ≤ text.length)
    (hroom : place + length + radius < wordSize) :
    ∃ shown, windowAround text place length radius = some shown ∧ ShownAround text place length radius shown := by
  refine ⟨_, if_neg (Nat.not_le.2 hroom), hend, ?_, around_eq hend radius⟩
  have hfirst : min (place - radius) text.length = place - radius := by omega
  have hcut : 0 < place - radius ↔ radius < place := by omega
  have hcut' : min (place + length + radius) text.length < text.length ↔ place + length + radius < text.length := by
    omega
  simp only [window, hfirst, hcut, hcut', around, Nat.min_comm, dots]

/-- Either there is no window and nothing to put one around, or there is a match with its window. -/
private theorem context_cases (query : String) (hcontent : Chars.dottedCapitalI ∉ content.toList)
    (hroom : content.toList.length + radius < wordSize) :
    context content query radius = some none ∧
        ((content.toList = [] ∨ trim query.toList = []) ∨ Unmatched content query) ∨
      ¬(content.toList = [] ∨ trim query.toList = []) ∧ ∃ place length shown, Matched content query place length ∧
        context content query radius = some (some shown) ∧ ShownAround content.toList place length radius shown := by
  by_cases hempty : content.toList = [] ∨ trim query.toList = []
  · exact .inl ⟨if_pos hempty, .inl hempty⟩
  · have hquery := (not_or.1 hempty).2
    simp only [context, if_neg hempty]
    cases hlocate : locateQuery (trim query.toList) (lower content.toList) with
    | none => exact .inl ⟨rfl, .inr ((locateQuery_eq_none_iff hquery).1 hlocate)⟩
    | some found =>
      obtain ⟨place, length⟩ := found
      have hmatched := matched_of_locateQuery hquery hlocate
      have hend := hmatched.end_le
      rw [Chars.length_lower hcontent] at hend
      have hfits : place + length + radius < wordSize := by omega
      obtain ⟨shown, hshown, haround⟩ := shownAround_of_windowAround hend hfits
      exact .inr ⟨hempty, place, length, shown, hmatched, congrArg (Option.map some) hshown, haround⟩

/-- The window around a match, for a content without the dotted capital I and a radius within machine words.

* There is no window exactly when the content is empty, the query is blank, or neither the query nor any of its words of
  two or more characters occurs, case aside.
* Otherwise the window is put around the match of the query or of the first such word that occurs: the characters of
  the content from the radius before it to the radius behind it, with dots where the content goes on.
* The match stands in the content at its place in lower case.
* When the whole query occurs, its place is the one that a search of bytes finds and that the score goes by. -/
theorem context_around_match (hcontent : Chars.dottedCapitalI ∉ content.toList)
    (hroom : content.toList.length + query.toList.length + radius < wordSize) :
    (context content query radius = some none ↔
      content = "" ∨ Text.isBlank query = true ∨ Unmatched content query) ∧
    (context content query radius ≠ some none →
      ∃ place length shown, Matched content query place length ∧
        context content query radius = some (some shown) ∧ ShownAround content.toList place length radius shown ∧
        ((lower content.toList).drop place).take length =
          Chars.lowerWithin (content.toList.take place).reverse ((content.toList.drop place).take length)
            (content.toList.drop (place + length)) ∧
        (sought query <:+: lower content.toList →
          BytesFirstAt (sought query) (lower content.toList) place ∧
          (score content query).toRat =
            (if IsQuery content query then 100 else 0) + 50 + max 0 (20 - (place : Rat) / 10) +
              wordPoints content query)) := by
  have hempty : content.toList = [] ↔ content = "" := String.toList_eq_nil_iff
  have hblank : trim query.toList = [] ↔ Text.isBlank query = true := by
    rw [Chars.trim_eq_nil_iff, Chars.Blank, ← Text.isBlank_iff]
  rw [← or_assoc, ← hempty, ← hblank]
  -- the room for the query is needed for the piece that is shown only
  have hfits : content.toList.length + radius < wordSize := by omega
  rcases context_cases query hcontent hfits with
    ⟨hnone, hwhy⟩ | ⟨hsome, place, length, shown, hmatched, hcontext, hshown⟩
  · exact ⟨iff_of_true hnone hwhy, fun h => absurd hnone h⟩
  · have hne : context content query radius ≠ some none := by simp [hcontext]
    refine ⟨iff_of_false hne (not_or.2 ⟨hsome, hmatched.not_unmatched⟩), fun _ => ?_⟩
    refine ⟨place, length, shown, hmatched, hcontext, hshown, Chars.lower_piece hcontent hshown.end_le,
      fun hoccurs => ?_⟩
    have hquery := (not_or.1 hsome).2
    have hfirst := hmatched.first hoccurs
    refine ⟨(Chars.bytesFirstAt_iff (Chars.lower_ne_nil hquery)).2 hfirst, ?_⟩
    rw [score_eq, phrasePoints_of_firstAt hquery hfirst]
    rfl

/-- A match behind letters of two bytes, cut on both sides. -/
theorem context_around_match_needle :
    Chars.dottedCapitalI ∉ "Été: à Needle and hay".toList ∧
      "Été: à Needle and hay".toList.length + " needle ".toList.length + 3 < wordSize ∧
      context "Été: à Needle and hay" " needle " 3 = some (some "... à Needle an...") ∧
      ∃ place length, Matched "Été: à Needle and hay" " needle " place length ∧
        ShownAround "Été: à Needle and hay".toList place length 3 "... à Needle an..." ∧
        BytesFirstAt (sought " needle ") (lower "Été: à Needle and hay".toList) place := by
  have hcontent : Chars.dottedCapitalI ∉ "Été: à Needle and hay".toList := by decide
  have hroom : "Été: à Needle and hay".toList.length + " needle ".toList.length + 3 < wordSize := by decide
  have hcontext : context "Été: à Needle and hay" " needle " 3 = some (some "... à Needle an...") := by decide +kernel
  have hoccurs : sought " needle " <:+: lower "Été: à Needle and hay".toList := by decide +kernel
  obtain ⟨place, length, shown, hmatched, hshown, haround, -, hplace⟩ :=
    (context_around_match hcontent hroom).2 (by simp [hcontext])
  obtain rfl : "... à Needle an..." = shown := by simpa [hcontext] using hshown
  exact ⟨hcontent, hroom, hcontext, place, length, hmatched, haround, (hplace hoccurs).1⟩

end Relevance

end WorkspaceSearch
