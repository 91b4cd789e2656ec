import WorkspaceSearch.Proofs.Relevance.Highlight
import WorkspaceSearch.Proofs.Text.Occurrence

/-!
# Occurrences in bytes

A text is kept as bytes, and a search for another text compares bytes.  No character's bytes begin another's
(`encoded_prefix_iff`), and the first byte of a character stands nowhere inside one (`exists_front_of_isUTF8FirstByte`).
So bytes first occur where the text does: as many bytes behind the front as the characters before it have
(`bytesFirstAt_iff`).
-/

namespace WorkspaceSearch.Chars

/-- The bytes of a text. -/
def encoded (cs : List Char) : List UInt8 := cs.flatMap String.utf8EncodeChar

private theorem encoded_cons (c : Char) (cs : List Char) : encoded (c :: cs) = String.utf8EncodeChar c ++ encoded cs :=
  List.flatMap_cons

private theorem encoded_append (cs ds : List Char) : encoded (cs ++ ds) = encoded cs ++ encoded ds :=
  List.flatMap_append

private theorem length_encoded (cs : List Char) : (encoded cs).length = byteCount cs := by
  induction cs with
  | nil => rfl
  | cons c cs ih => rw [encoded_cons, List.length_append, String.length_utf8EncodeChar, ih, byteCount_cons]

/-- A text that starts with the bytes of a character starts with the character. -/
private theorem eq_of_encoded_append {c d : Char} {bs ds : List UInt8}
    (h : String.utf8EncodeChar c ++ bs = String.utf8EncodeChar d ++ ds) : c = d := by
  have hread := congrArg (fun l : List UInt8 => l.toByteArray.utf8DecodeChar? 0) h
  simpa [ByteArray.utf8DecodeChar?_utf8EncodeChar_append] using hread

theorem encoded_prefix_iff {needle text : List Char} : encoded needle <+: encoded text ↔ needle <+: text := by
  constructor
  · intro h
    induction needle generalizing text with
    | nil => exact List.nil_prefix
    | cons c needle ih =>
      obtain ⟨rest, hrest⟩ := h
      cases text with
      | nil => simp [encoded] at hrest
      | cons d text =>
        rw [encoded_cons, encoded_cons, List.append_assoc] at hrest
        obtain rfl := eq_of_encoded_append hrest
        rw [List.append_cancel_left_eq] at hrest
        exact List.cons_prefix_cons.2 ⟨rfl, ih ⟨rest, hrest⟩⟩
  · rintro ⟨rest, rfl⟩
    rw [encoded_append]
    exact List.prefix_append _ _

/-- The first byte of a character stands behind whole characters only. -/
theorem exists_front_of_isUTF8FirstByte {text : List Char} {n : Nat} {b : UInt8} {bs : List UInt8}
    (h : (encoded text).drop n = b :: bs) (hb : b.IsUTF8FirstByte) : EndsBetween n text := by
  induction text generalizing n with
  | nil => simp [encoded] at h
  | cons c text ih =>
    rw [encoded_cons] at h
    by_cases hinside : n < (String.utf8EncodeChar c).length
    · -- inside the first character only its first byte is the first of a character
      rw [List.drop_append_of_le_length hinside.le, List.drop_eq_getElem_cons hinside, List.cons_append] at h
      have hfirst := (List.cons.inj h).1 ▸ hb
      obtain rfl := UInt8.isUTF8FirstByte_getElem_utf8EncodeChar.1 hfirst
      exact ⟨[], List.nil_prefix, rfl⟩
    · rw [List.drop_append, List.drop_eq_nil_of_le (Nat.not_lt.1 hinside), List.nil_append] at h
      rw [String.length_utf8EncodeChar] at h hinside
      obtain ⟨front, hfront, hbytes⟩ := ih h
      exact ⟨c :: front, List.cons_prefix_cons.2 ⟨rfl, hfront⟩, by rw [byteCount_cons]; omega⟩

variable {needle text : List Char} {n : Nat}

/-- The bytes of a text stand only where the text does. -/
private theorem encoded_prefix_drop_iff (hne : needle ≠ []) :
    encoded needle <+: (encoded text).drop n ↔
      ∃ front back, text = front ++ back ∧ byteCount front = n ∧ needle <+: back := by
  constructor
  · rintro ⟨rest, hrest⟩
    obtain ⟨c, needle, rfl⟩ := List.exists_cons_of_ne_nil hne
    obtain ⟨b, bs, hb⟩ := List.exists_cons_of_ne_nil (String.utf8EncodeChar_ne_nil (c := c))
    have hget : (String.utf8EncodeChar c)[0]? = some b := by
      rw [hb]
      rfl
    have hfirst : b.IsUTF8FirstByte := by
      obtain ⟨hlt, rfl⟩ := List.getElem?_eq_some_iff.1 hget
      exact UInt8.isUTF8FirstByte_getElem_utf8EncodeChar.2 rfl
    have hdrop : (encoded text).drop n = b :: (bs ++ encoded needle ++ rest) := by
      rw [← hrest, encoded_cons, hb]
      simp
    obtain ⟨front, ⟨back, rfl⟩, rfl⟩ := exists_front_of_isUTF8FirstByte hdrop hfirst
    refine ⟨front, back, rfl, rfl, encoded_prefix_iff.1 ⟨rest, ?_⟩⟩
    rw [hrest, encoded_append, ← length_encoded, List.drop_left]
  · rintro ⟨front, back, rfl, rfl, h⟩
    rw [encoded_append, ← length_encoded, List.drop_left]
    exact encoded_prefix_iff.2 h

/-- The number of characters in front of the byte at which the bytes of a text first stand in those of another. -/
def BytesFirstAt (needle text : List Char) (place : Nat) : Prop :=
  ∃ n front, FirstAt (encoded needle) (encoded text) n ∧ takeBytes n text = some front ∧ front.length = place

private theorem firstAt_encoded_of_firstAt (hne : needle ≠ []) (front back : List Char)
    (h : FirstAt needle (front ++ back) front.length) :
    FirstAt (encoded needle) (encoded (front ++ back)) (byteCount front) := by
  refine ⟨(encoded_prefix_drop_iff hne).2 ⟨front, back, rfl, rfl, ?_⟩, fun m hm hbytes => ?_⟩
  · have hstands := h.stands
    rwa [List.drop_left] at hstands
  · obtain ⟨front', back', htext, rfl, hstands⟩ := (encoded_prefix_drop_iff hne).1 hbytes
    -- with fewer bytes the other front is the shorter one, and the text does not stand behind it
    rcases List.append_eq_append_iff.1 htext with ⟨more, rfl, -⟩ | ⟨more, rfl, rfl⟩
    · rw [byteCount_append] at hm
      omega
    · rw [List.append_assoc] at h
      have hmore : more ≠ [] := by
        rintro rfl
        simp at hm
      have hlt : front'.length < (front' ++ more).length := by
        rw [List.length_append]
        exact Nat.lt_add_of_pos_right (List.length_pos_iff.2 hmore)
      refine h.first _ hlt ?_
      rwa [List.drop_left]

/-- A search of the bytes finds the first occurrence. -/
theorem bytesFirstAt_iff (hne : needle ≠ []) {i : Nat} : BytesFirstAt needle text i ↔ FirstAt needle text i := by
  have hfound : ∀ {i}, FirstAt needle text i → FirstAt (encoded needle) (encoded text) (byteCount (text.take i)) ∧
      takeBytes (byteCount (text.take i)) text = some (text.take i) ∧ (text.take i).length = i := by
    intro i h
    have hend := h.end_le
    have hlength : (text.take i).length = i := List.length_take_of_le (by omega)
    refine ⟨?_, takeBytes_eq_some_iff.2 ⟨text.drop i, (List.take_append_drop i text).symm, rfl⟩, hlength⟩
    have hfirst := firstAt_encoded_of_firstAt hne (text.take i) (text.drop i)
    rw [List.take_append_drop, hlength] at hfirst
    exact hfirst h
  constructor
  · rintro ⟨n, front, hn, htake, rfl⟩
    obtain ⟨_, back, rfl, -, hback⟩ := (encoded_prefix_drop_iff hne).1 hn.stands
    obtain ⟨i, hi⟩ := exists_firstAt_iff.2 (hback.isInfix.trans (List.suffix_append _ back).isInfix)
    obtain ⟨hbytes, hfront, hlength⟩ := hfound hi
    rw [← hn.unique hbytes, htake] at hfront
    rwa [Option.some.inj hfront, hlength]
  · intro h
    obtain ⟨hbytes, hfront, hlength⟩ := hfound h
    exact ⟨_, _, hbytes, hfront, hlength⟩

end WorkspaceSearch.Chars
