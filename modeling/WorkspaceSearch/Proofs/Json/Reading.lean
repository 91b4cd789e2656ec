import WorkspaceSearch.Json.Reader
import WorkspaceSearch.Json.Writer
import WorkspaceSearch.Proofs.Text.Digits

/-!
# Reading what was written

A string is read back from its text, with every character that is escaped (`readString_writeString`).  So is an object
whose values are strings, truth values and nulls (`parseMembers?_render`).
-/

namespace WorkspaceSearch.Json

open Numeral (hexValue? hexDigit hexValue?_hexDigit)

/-! ### Characters -/

private theorem readCode_numericEscape {c : Char} (h : c.toNat < 0x20) (rest : List Char) :
    ∃ digits, numericEscape c.toNat = '\\' :: 'u' :: digits ∧ readCode (digits ++ rest) = some (c, rest) := by
  refine ⟨_, rfl, ?_⟩
  have hzero : hexValue? '0' = some 0 := by decide
  have hhigh : hexValue? (hexDigit false (c.toNat / 16)) = some (c.toNat / 16) := hexValue?_hexDigit (by omega) false
  have hlow : hexValue? (hexDigit false (c.toNat % 16)) = some (c.toNat % 16) := hexValue?_hexDigit (by omega) false
  have hvalue : ((0 * 16 + 0) * 16 + c.toNat / 16) * 16 + c.toNat % 16 = c.toNat := by omega
  have hchar : Char.ofNat c.toNat = c := Char.ofNat_toNat c
  simp only [readCode, List.cons_append, List.nil_append, readHex4, hzero, hhigh, hlow, Option.bind_eq_bind,
    Option.bind_some, hvalue, if_pos (.inl (by omega) : c.toNat < 0xD800 ∨ 0xDFFF < c.toNat), hchar]

private theorem readChars_escape {strict : Bool} {c : Char} {e cs : List Char}
    (h : readEscape strict (e ++ cs) = some (c, cs)) (fuel : Nat) :
    readChars strict (fuel + 1) ('\\' :: (e ++ cs)) =
      (readChars strict fuel cs).map fun (s, rest) => (c :: s, rest) := by
  simp only [readChars, h, Option.bind_eq_bind, Option.bind_some]
  cases readChars strict fuel cs <;> rfl

private theorem readChars_plain {strict : Bool} {c : Char} (hquote : c ≠ '"') (hslash : c ≠ '\\')
    (hlow : ¬c.toNat < 0x20) (fuel : Nat) (cs : List Char) :
    readChars strict (fuel + 1) (c :: cs) = (readChars strict fuel cs).map fun (s, rest) => (c :: s, rest) := by
  rw [readChars]
  · rw [if_neg hlow]
    cases readChars strict fuel cs <;> rfl
  · exact hquote
  · exact hslash

/-- A character inside a string is read back. -/
private theorem readChars_escapeChar (c : Char) (fuel : Nat) (cs : List Char) :
    readChars true (fuel + 1) (escapeChar c ++ cs) =
      (readChars true fuel cs).map fun (s, rest) => (c :: s, rest) := by
  by_cases hletter : c ∈ ['"', '\\', '\x08', '\t', '\n', '\x0c', '\r']
  · simp only [List.mem_cons, List.not_mem_nil, or_false] at hletter
    rcases hletter with rfl | rfl | rfl | rfl | rfl | rfl | rfl <;>
      exact readChars_escape (e := [_]) rfl fuel
  · simp only [List.mem_cons, List.not_mem_nil, or_false, not_or] at hletter
    obtain ⟨hquote, hslash, hback, htab, hline, hfeed, hreturn⟩ := hletter
    unfold escapeChar
    rw [if_neg hquote, if_neg hslash, if_neg hback, if_neg htab, if_neg hline, if_neg hfeed, if_neg hreturn]
    split
    · next hlow =>
      obtain ⟨digits, hescape, hread⟩ := readCode_numericEscape hlow cs
      rw [hescape]
      have hcode : readEscape true ('u' :: digits ++ cs) = some (c, cs) := hread
      exact readChars_escape hcode fuel
    · next hplain => exact readChars_plain hquote hslash hplain fuel cs

private theorem readChars_flatMap (s : List Char) {fuel : Nat} (hfuel : s.length < fuel) (rest : List Char) :
    readChars true fuel (s.flatMap escapeChar ++ '"' :: rest) = some (s, rest) := by
  induction s generalizing fuel with
  | nil =>
    obtain ⟨fuel, rfl⟩ := Nat.exists_eq_add_of_lt hfuel
    rfl
  | cons c s ih =>
    rw [List.length_cons] at hfuel
    obtain ⟨fuel, rfl⟩ := Nat.exists_eq_add_of_le' (by omega : 1 ≤ fuel)
    rw [List.flatMap_cons, List.append_assoc, readChars_escapeChar, ih (by omega), Option.map_some]

private theorem length_le_flatMap (s : List Char) : s.length ≤ (s.flatMap escapeChar).length := by
  induction s with
  | nil => exact Nat.le_refl 0
  | cons c s ih =>
    have hone : 1 ≤ (escapeChar c).length := by
      unfold escapeChar
      repeat' split
      all_goals simp [numericEscape]
    rw [List.flatMap_cons, List.length_append, List.length_cons]
    omega

/-- A string is read back from behind its first quote. -/
theorem readString_writeString (s : String) {fuel : Nat} (hfuel : (writeString s).length ≤ fuel) (rest : List Char) :
    ∃ text, writeString s = '"' :: text ∧ readString true fuel (text ++ rest) = some (s, rest) := by
  refine ⟨s.toList.flatMap escapeChar ++ ['"'], rfl, ?_⟩
  have hlength := length_le_flatMap s.toList
  have hread : readChars true fuel (s.toList.flatMap escapeChar ++ ['"'] ++ rest) = some (s.toList, rest) := by
    rw [List.append_assoc]
    refine readChars_flatMap s.toList ?_ rest
    simp only [writeString, List.cons_append, List.length_cons, List.length_append, List.length_nil] at hfuel
    omega
  rw [readString, hread]
  exact congrArg (fun read => some (read, rest)) String.ofList_toList

/-! ### Objects -/

/-- A string, a truth value or null. -/
inductive IsLeaf : Json → Prop
  | null : IsLeaf .null
  | bool (b : Bool) : IsLeaf (.bool b)
  | string (s : String) : IsLeaf (.string s)

theorem readValue_write {j : Json} (hj : j.IsLeaf) {fuel : Nat} (hfuel : (write j).length < fuel) (rest : List Char) :
    readValue true fuel (write j ++ rest) = some (j, rest) := by
  obtain ⟨fuel, rfl⟩ := Nat.exists_eq_add_of_le' (by omega : 1 ≤ fuel)
  cases hj with
  | null => rfl
  | bool b => cases b <;> rfl
  | string s =>
    have hlength : (writeString s).length ≤ fuel := Nat.le_of_lt_succ hfuel
    obtain ⟨text, htext, hread⟩ := readString_writeString s hlength rest
    have hvalue : readValue true (fuel + 1) ('"' :: (text ++ rest)) =
        (readString true fuel (text ++ rest)).map fun read => (.string read.1, read.2) := rfl
    rw [write, htext, List.cons_append, hvalue, hread, Option.map_some]

section

variable {known : List String} {name : String} {j : Json} {fuel : Nat} (hname : name ∈ known) (hj : j.IsLeaf)
  (hnameFuel : (writeString name).length ≤ fuel) (hfuel : (write j).length < fuel)

include hname hj hnameFuel hfuel

private theorem readKnownMembers_last (rest : List Char) :
    readKnownMembers known (fuel + 1) (writeString name ++ ':' :: (write j ++ '}' :: rest)) =
      some ([(name, j)], rest) := by
  obtain ⟨text, htext, hread⟩ := readString_writeString name hnameFuel (':' :: (write j ++ '}' :: rest))
  have hquote : ∀ cs, skipGaps ('"' :: cs) = '"' :: cs := fun cs => rfl
  have hcolon : ∀ cs, skipGaps (':' :: cs) = ':' :: cs := fun cs => rfl
  have hbrace : ∀ cs, skipGaps ('}' :: cs) = '}' :: cs := fun cs => rfl
  have hvalue := readValue_write hj hfuel ('}' :: rest)
  simp only [readKnownMembers, htext, List.cons_append, hquote, hread, hcolon, hbrace, List.contains_iff_mem.2 hname,
    hvalue, Option.bind_eq_bind, Option.bind_some, if_true]

private theorem readKnownMembers_more (cs : List Char) :
    readKnownMembers known (fuel + 1) (writeString name ++ ':' :: (write j ++ ',' :: cs)) =
      (readKnownMembers known fuel cs).map fun (members, rest) => ((name, j) :: members, rest) := by
  obtain ⟨text, htext, hread⟩ := readString_writeString name hnameFuel (':' :: (write j ++ ',' :: cs))
  have hquote : ∀ cs, skipGaps ('"' :: cs) = '"' :: cs := fun cs => rfl
  have hcolon : ∀ cs, skipGaps (':' :: cs) = ':' :: cs := fun cs => rfl
  have hcomma : ∀ cs, skipGaps (',' :: cs) = ',' :: cs := fun cs => rfl
  have hvalue := readValue_write hj hfuel (',' :: cs)
  simp only [readKnownMembers, htext, List.cons_append, hquote, hread, hcolon, hcomma, List.contains_iff_mem.2 hname,
    hvalue, Option.bind_eq_bind, Option.bind_some, if_true]
  cases readKnownMembers known fuel cs <;> rfl

end

/-- Members are read back, with the brace that ends the object. -/
private theorem readKnownMembers_write {known : List String} (name : String) (j : Json) (members : List (String × Json))
    (hknown : ∀ m ∈ (name, j) :: members, m.1 ∈ known ∧ m.2.IsLeaf) {fuel : Nat}
    (hfuel : (writeString name ++ ':' :: (write j ++ writeMembers members)).length < fuel) :
    readKnownMembers known fuel (writeString name ++ ':' :: (write j ++ writeMembers members)) =
      some ((name, j) :: members, []) := by
  induction members generalizing name j fuel with
  | nil =>
    obtain ⟨hname, hj⟩ : name ∈ known ∧ j.IsLeaf := hknown (name, j) List.mem_cons_self
    obtain ⟨fuel, rfl⟩ := Nat.exists_eq_add_of_le' (by omega : 1 ≤ fuel)
    simp only [List.length_append, List.length_cons] at hfuel
    exact readKnownMembers_last hname hj (by omega) (by omega) []
  | cons m members ih =>
    obtain ⟨hname, hj⟩ : name ∈ known ∧ j.IsLeaf := hknown (name, j) List.mem_cons_self
    obtain ⟨later, k⟩ := m
    obtain ⟨fuel, rfl⟩ := Nat.exists_eq_add_of_le' (by omega : 1 ≤ fuel)
    simp only [writeMembers, List.length_append, List.length_cons, List.cons_append, List.append_assoc] at hfuel ⊢
    rw [readKnownMembers_more hname hj (by omega) (by omega),
      ih later k (fun m hm => hknown m (List.mem_cons_of_mem _ hm)) (by simp; omega), Option.map_some]

/-- An object is read back whose members are asked for and whose values are strings, truth values and nulls. -/
theorem parseMembers?_render {known : List String} {members : List (String × Json)}
    (hknown : ∀ m ∈ members, m.1 ∈ known ∧ m.2.IsLeaf) :
    parseMembers? known (render (.object members)) = some (.object members) := by
  rw [parseMembers?, render, String.toList_ofList]
  cases members with
  | nil => rfl
  | cons m members =>
    obtain ⟨name, j⟩ := m
    have hwrite : write (.object ((name, j) :: members)) =
        '{' :: (writeString name ++ ':' :: (write j ++ writeMembers members)) := by
      simp only [write, List.cons_append, List.append_assoc]
    have hread : readKnownMembers known (fuelFor (write (.object ((name, j) :: members))))
        (writeString name ++ ':' :: (write j ++ writeMembers members)) = some ((name, j) :: members, []) := by
      refine readKnownMembers_write name j members hknown ?_
      rw [hwrite, fuelFor, List.length_cons]
      omega
    have hopen : readKnown known (fuelFor (write (.object ((name, j) :: members))))
        ('{' :: (writeString name ++ ':' :: (write j ++ writeMembers members))) =
        (readKnownMembers known (fuelFor (write (.object ((name, j) :: members))))
          (writeString name ++ ':' :: (write j ++ writeMembers members))).map
          fun (members, rest) => (.object members, rest) := rfl
    rw [hread] at hopen
    rw [hwrite] at hopen ⊢
    rw [hopen]
    rfl

end WorkspaceSearch.Json
