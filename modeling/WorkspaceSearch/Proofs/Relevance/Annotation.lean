import WorkspaceSearch.Proofs.Outcome
import WorkspaceSearch.Proofs.Text.Matching
import WorkspaceSearch.Search.Request

/-!
# Annotating plain texts

On an ASCII text every character is one byte, and so it is in its lower case.  So no piece that a word matches cuts
through a character (`highlights_isSome`), and with a text that leaves room for the context around the match
nothing overflows (`context_isSome`): such a result is always annotated (`Request.annotate_isSome`).
-/

namespace WorkspaceSearch

namespace Chars

private theorem isAscii_asciiLower {c : Char} (h : isAscii c = true) : isAscii (asciiLower c) = true := by
  unfold asciiLower
  split
  · next hupper =>
    have hlast : c.toNat ≤ 90 := of_decide_eq_true (Bool.and_eq_true_iff.1 hupper).2
    have hvalid : (c.toNat + 32).isValidChar := .inl (by omega)
    rw [isAscii, Char.ofNat, dif_pos hvalid, decide_eq_true_iff]
    show c.toNat + 32 < 128
    omega
  · exact h

private theorem utf8Size_of_ascii {c : Char} (h : isAscii c = true) : c.utf8Size = 1 := by
  have hlt : c.toNat < 128 := of_decide_eq_true h
  have hbound : (127 : UInt32).toNat = 127 := rfl
  refine Char.utf8Size_eq_one_iff.2 (UInt32.le_iff_toNat_le.2 ?_)
  show c.toNat ≤ _
  omega

variable {cs : List Char} (hascii : ∀ c ∈ cs, isAscii c = true) {n : Nat}

include hascii

private theorem byteCount_of_ascii : byteCount cs = cs.length := by
  induction cs with
  | nil => rfl
  | cons c cs ih =>
    have hc := utf8Size_of_ascii (hascii c List.mem_cons_self)
    have hcs := ih fun d hd => hascii d (List.mem_cons_of_mem c hd)
    rw [byteCount] at hcs ⊢
    rw [List.map_cons, List.sum_cons, hcs, hc, List.length_cons, Nat.add_comm]

private theorem dropBytes_of_ascii (hn : n ≤ cs.length) : dropBytes n cs = some (cs.drop n) := by
  induction cs generalizing n with
  | nil =>
    obtain rfl : n = 0 := Nat.le_zero.1 hn
    rfl
  | cons c cs ih =>
    cases n with
    | zero => rfl
    | succ n =>
      have hc := utf8Size_of_ascii (hascii c List.mem_cons_self)
      have hcs := ih (fun d hd => hascii d (List.mem_cons_of_mem c hd)) (Nat.le_of_succ_le_succ hn)
      rw [dropBytes, hc, if_pos (by omega), Nat.add_sub_cancel, hcs, List.drop_succ_cons]

private theorem takeBytes_of_ascii (hn : n ≤ cs.length) : takeBytes n cs = some (cs.take n) := by
  induction cs generalizing n with
  | nil =>
    obtain rfl : n = 0 := Nat.le_zero.1 hn
    rfl
  | cons c cs ih =>
    cases n with
    | zero => rfl
    | succ n =>
      have hc := utf8Size_of_ascii (hascii c List.mem_cons_self)
      have hcs := ih (fun d hd => hascii d (List.mem_cons_of_mem c hd)) (Nat.le_of_succ_le_succ hn)
      rw [takeBytes, hc, if_pos (by omega), Nat.add_sub_cancel, hcs, List.take_succ_cons, Option.map_some]

omit hascii

/-- What a leftmost scan finds stands at the place that it tells. -/
private theorem prefix_of_mem_occurrencesFrom {needle text : List Char} {start skip offset : Nat}
    (h : offset ∈ occurrencesFrom needle start skip text) :
    ∃ i < text.length, offset = start + i ∧ needle <+: text.drop i := by
  induction text generalizing start skip with
  | nil => cases h
  | cons c text ih =>
    have hbehind : ∀ {skip}, offset ∈ occurrencesFrom needle (start + 1) skip text →
        ∃ i < (c :: text).length, offset = start + i ∧ needle <+: (c :: text).drop i := by
      intro skip h
      obtain ⟨i, hi, rfl, hneedle⟩ := ih h
      exact ⟨i + 1, Nat.succ_lt_succ hi, by omega, hneedle⟩
    cases skip with
    | succ skip => exact hbehind h
    | zero =>
      rw [occurrencesFrom] at h
      split at h
      · next hhere =>
        rcases List.mem_cons.1 h with rfl | h
        · exact ⟨0, Nat.succ_pos _, rfl, List.isPrefixOf_iff_prefix.1 hhere⟩
        · exact hbehind h
      · exact hbehind h

theorem prefix_of_mem_occurrences {needle text : List Char} {offset : Nat} (h : offset ∈ occurrences needle text) :
    offset < text.length ∧ needle <+: text.drop offset := by
  obtain ⟨i, hi, rfl, hneedle⟩ := prefix_of_mem_occurrencesFrom h
  rw [Nat.zero_add]
  exact ⟨hi, hneedle⟩

end Chars

namespace Relevance

variable {content query : String}

/-- The lower case of an ASCII text has its bytes at the same places, so every piece is cut out of the text where its
word stands. -/
theorem wordHighlights_of_ascii {text : List Char} (hascii : ∀ c ∈ text, Chars.isAscii c = true) (word : List Char) :
    wordHighlights text (Chars.lower text) word =
      some ((Chars.occurrences word (Chars.lower text)).map fun offset => (text.drop offset).take word.length) := by
  have hlower := Chars.lower_of_ascii hascii
  have hlength : (Chars.lower text).length = text.length := by rw [hlower, List.length_map]
  have hlowered : ∀ c ∈ Chars.lower text, Chars.isAscii c = true := by
    rw [hlower]
    intro c hc
    obtain ⟨d, hd, rfl⟩ := List.mem_map.1 hc
    exact Chars.isAscii_asciiLower (hascii d hd)
  refine Outcome.mapM_eq_some_map fun offset hoffset => ?_
  obtain ⟨hlt, hword⟩ := Chars.prefix_of_mem_occurrences hoffset
  have hsame : Chars.byteCount (Chars.lower text) = Chars.byteCount text := by
    rw [Chars.byteCount_of_ascii hlowered, Chars.byteCount_of_ascii hascii, hlength]
  have hfront : Chars.byteCount ((Chars.lower text).take offset) = offset := by
    rw [Chars.byteCount_of_ascii fun c hc => hlowered c (List.mem_of_mem_take hc), List.length_take]
    omega
  have hpiece : Chars.byteCount word = word.length :=
    Chars.byteCount_of_ascii fun c hc => hlowered c (List.mem_of_mem_drop (hword.subset hc))
  have hroom : word.length ≤ (text.drop offset).length := by
    have hle := hword.length_le
    rwa [List.length_drop, hlength, ← List.length_drop] at hle
  rw [if_pos hsame, hfront, hpiece, Chars.dropBytes_of_ascii hascii (by omega), Option.bind_some,
    Chars.takeBytes_of_ascii (fun c hc => hascii c (List.mem_of_mem_drop hc)) hroom]

theorem highlights_isSome (hcontent : ∀ c ∈ content.toList, Chars.isAscii c = true) :
    ∃ pieces, highlights content query = some pieces := by
  have hword : ∀ w ∈ longWords query.toList,
      ∃ pieces, wordHighlights content.toList (Chars.lower content.toList) (Chars.lower w) = some pieces :=
    fun w _ => ⟨_, wordHighlights_of_ascii hcontent (Chars.lower w)⟩
  obtain ⟨pieces, hpieces⟩ := Outcome.exists_mapM_some hword
  exact ⟨_, by rw [highlights, hpieces, Option.map_some]⟩

private theorem end_of_locate {needle text : List Char} {found : Nat × Nat} (h : locate needle text = some found) :
    found.1 + found.2 ≤ text.length := by
  unfold locate at h
  split at h
  · cases h
  · obtain ⟨offset, hoffset, rfl⟩ := Option.map_eq_some_iff.1 h
    obtain ⟨before, after, rfl, rfl⟩ := Chars.find?_eq_some hoffset
    simp

/-- The match of a query ends inside the text. -/
theorem end_of_locateQuery {query text : List Char} {found : Nat × Nat} (h : locateQuery query text = some found) :
    found.1 + found.2 ≤ text.length := by
  unfold locateQuery at h
  split at h
  · next hwhole =>
    obtain rfl := Option.some.inj h
    exact end_of_locate hwhole
  · obtain ⟨w, -, hw⟩ := List.exists_of_findSome?_eq_some h
    exact end_of_locate hw

theorem context_isSome {radius : Nat} (hcontent : ∀ c ∈ content.toList, Chars.isAscii c = true)
    (hroom : content.toList.length + radius < wordSize) : ∃ window, context content query radius = some window := by
  simp only [context]
  split
  · exact ⟨none, rfl⟩
  · split
    · exact ⟨none, rfl⟩
    · next offset length hlocate =>
      have hend := end_of_locateQuery hlocate
      rw [Chars.lower_of_ascii hcontent, List.length_map] at hend
      rw [windowAround, if_neg (by omega)]
      exact ⟨_, rfl⟩

end Relevance

/-- The result of a plain text is annotated when the context has room. -/
theorem Request.annotate_isSome {r : Request} {primary : String}
    (hprimary : ∀ c ∈ primary.toList, Chars.isAscii c = true)
    (hroom : primary.toList.length + r.contextRadius < Relevance.wordSize) (result : SearchResult) :
    ∃ annotated, r.annotate primary result = some annotated := by
  obtain ⟨pieces, hpieces⟩ : ∃ pieces, Relevance.highlights primary r.base = some pieces :=
    Relevance.highlights_isSome hprimary
  obtain ⟨window, hwindow⟩ : ∃ window, Relevance.context primary r.base r.contextRadius = some window :=
    Relevance.context_isSome hprimary hroom
  rw [annotate, hpieces, hwindow]
  exact ⟨_, rfl⟩

end WorkspaceSearch
