import WorkspaceSearch.Proofs.Json.Reading
import WorkspaceSearch.Proofs.Text.Digits

/-!
# Documents without decimals

A document whose numbers are whole and fit into 64 bits is read back from its text (`parse?_render`), whatever its
depth.
-/

namespace WorkspaceSearch.Json

-- the powers of the core library, whatever else is in scope
attribute [local instance (2000)] instPowNat

/-- A document whose numbers are all whole and fit into 64 bits, with or without a sign. -/
inductive IsWhole : Json → Prop
  | null : IsWhole .null
  | bool (b : Bool) : IsWhole (.bool b)
  | integer {n : Int} (h : -(2 ^ (63 : Nat)) ≤ n ∧ n < 2 ^ (64 : Nat)) : IsWhole (.integer n)
  | string (s : String) : IsWhole (.string s)
  | array {items : List Json} (h : ∀ j ∈ items, IsWhole j) : IsWhole (.array items)
  | object {members : List (String × Json)} (h : ∀ m ∈ members, IsWhole m.2) : IsWhole (.object members)

theorem IsLeaf.isWhole {j : Json} (h : j.IsLeaf) : j.IsWhole := by
  cases h with
  | null => exact .null
  | bool b => exact .bool b
  | string s => exact .string s

/-! ### Numbers -/

/-- A text whose first character does not go on with a number. -/
def EndsNumber (rest : List Char) : Prop :=
  ∀ c cs, rest = c :: cs → Numeral.isDigit c = false ∧ c ≠ '.' ∧ c ≠ 'e' ∧ c ≠ 'E'

private theorem endsNumber_nil : EndsNumber [] := nofun

private theorem endsNumber_cons {c : Char} (h : c ∈ [',', ']', '}']) (cs : List Char) : EndsNumber (c :: cs) := by
  rintro _ _ ⟨⟩
  simp only [List.mem_cons, List.not_mem_nil, or_false] at h
  obtain rfl | rfl | rfl := h <;> decide

private theorem digit_mem {d : Char} (h : Numeral.isDigit d = true) :
    d ∈ ['0', '1', '2', '3', '4', '5', '6', '7', '8', '9'] := by
  obtain ⟨hlow, hhigh⟩ := Numeral.toNat_of_isDigit h
  have hcode : ∀ n : Fin 10, Char.ofNat (48 + n) ∈ ['0', '1', '2', '3', '4', '5', '6', '7', '8', '9'] := by decide
  have hd := hcode ⟨d.toNat - 48, by omega⟩
  rwa [show 48 + (d.toNat - 48) = d.toNat by omega, Char.ofNat_toNat] at hd

private theorem takeWhile_digits {ds rest : List Char} (hds : ∀ c ∈ ds, Numeral.isDigit c = true)
    (hrest : EndsNumber rest) : (ds ++ rest).takeWhile Numeral.isDigit = ds := by
  rw [List.takeWhile_append_of_pos hds]
  cases rest with
  | nil => rw [List.takeWhile_nil, List.append_nil]
  | cons c cs => rw [List.takeWhile_cons_of_neg (by rw [(hrest c cs rfl).1]; decide), List.append_nil]

private theorem readFraction_of_endsNumber {rest : List Char} (h : EndsNumber rest) :
    readFraction rest = some ([], rest) := by
  unfold readFraction
  split
  · exact absurd rfl (h _ _ rfl).2.1
  · rfl

private theorem readExponent_of_endsNumber {rest : List Char} (h : EndsNumber rest) :
    readExponent rest = some (none, rest) := by
  cases rest with
  | nil => rfl
  | cons c cs =>
    obtain ⟨-, -, hlow, hhigh⟩ := h c cs rfl
    simp [readExponent, hlow, hhigh]

/-- Reads a number behind its sign. -/
private def readUnsigned (negative : Bool) (cs : List Char) : Option (Json × List Char) := do
  let whole := cs.takeWhile Numeral.isDigit
  if whole = [] ∨ (1 < whole.length ∧ whole.head? = some '0') then none
  let (fraction, rest) ← readFraction (cs.drop whole.length)
  let (exponent, rest) ← readExponent rest
  let j ← ofParts? negative whole fraction exponent
  some (j, rest)

private theorem readNumber_minus (cs : List Char) : readNumber true ('-' :: cs) = readUnsigned true cs := rfl

private theorem readNumber_digit {d : Char} (hd : Numeral.isDigit d = true) (cs : List Char) :
    readNumber true (d :: cs) = readUnsigned false (d :: cs) := by
  have hmem := digit_mem hd
  simp only [List.mem_cons, List.not_mem_nil, or_false] at hmem
  rcases hmem with rfl | rfl | rfl | rfl | rfl | rfl | rfl | rfl | rfl | rfl <;> rfl

/-- The digits of a number are read. -/
private theorem readUnsigned_digits (negative : Bool) (n : Nat) {rest : List Char} (hrest : EndsNumber rest) :
    readUnsigned negative (Numeral.digits n ++ rest) =
      (ofParts? negative (Numeral.digits n) [] none).bind fun j => some (j, rest) := by
  have htake : (Numeral.digits n ++ rest).takeWhile Numeral.isDigit = Numeral.digits n :=
    takeWhile_digits (fun c hc => Numeral.isDigit_of_mem_digits hc) hrest
  have hwhole : ¬(Numeral.digits n = [] ∨ 1 < (Numeral.digits n).length ∧ (Numeral.digits n).head? = some '0') := by
    obtain ⟨d, ds, hdigits, -⟩ := Numeral.exists_digits n
    rw [hdigits, List.head?_cons]
    rintro (hnil | ⟨hlength, hzero⟩)
    · cases hnil
    · obtain rfl := Option.some.inj hzero
      rw [Numeral.digits_eq_zero_cons hdigits] at hlength
      exact absurd hlength (by decide)
  simp only [readUnsigned, htake, if_neg hwhole, List.drop_left, readFraction_of_endsNumber hrest,
    readExponent_of_endsNumber hrest, Option.bind_eq_bind, Option.bind_some]

/-- A whole number is read back. -/
private theorem readNumber_render {n : Int} (h : -(2 ^ (63 : Nat)) ≤ n ∧ n < 2 ^ (64 : Nat)) {rest : List Char}
    (hrest : EndsNumber rest) :
    readNumber true ((Numeral.render n).toList ++ rest) = some (.integer n, rest) := by
  cases n with
  | ofNat n =>
    have hparts : ofParts? false (Numeral.digits n) [] none = some (.integer n) := by
      rw [ofParts?, Numeral.value_digits]
      exact if_pos ⟨rfl, rfl, rfl, h⟩
    obtain ⟨d, ds, hdigits, hd⟩ := Numeral.exists_digits n
    have hread := readUnsigned_digits false n hrest
    rw [hparts, Option.bind_some, hdigits, List.cons_append, ← readNumber_digit hd] at hread
    rw [Numeral.render, String.toList_ofList, hdigits, List.cons_append, hread]
    rfl
  | negSucc n =>
    have hparts : ofParts? true (Numeral.digits (n + 1)) [] none = some (.integer (.negSucc n)) := by
      rw [ofParts?, Numeral.value_digits]
      exact if_pos ⟨rfl, rfl, rfl, h⟩
    rw [Numeral.render, String.toList_ofList, List.cons_append, readNumber_minus,
      readUnsigned_digits true (n + 1) hrest, hparts, Option.bind_some]

/-- The first character of a written number leads to no other value. -/
private theorem readValue_number (n : Int) (fuel : Nat) (rest : List Char) :
    readValue true (fuel + 1) ((Numeral.render n).toList ++ rest) =
      readNumber true ((Numeral.render n).toList ++ rest) := by
  cases n with
  | ofNat n =>
    obtain ⟨d, ds, hdigits, hd⟩ := Numeral.exists_digits n
    rw [show (Numeral.render (.ofNat n)).toList = d :: ds by rw [← hdigits]; exact String.toList_ofList]
    have hmem := digit_mem hd
    simp only [List.mem_cons, List.not_mem_nil, or_false] at hmem
    rcases hmem with rfl | rfl | rfl | rfl | rfl | rfl | rfl | rfl | rfl | rfl <;> rfl
  | negSucc n =>
    rw [show (Numeral.render (.negSucc n)).toList = '-' :: Numeral.digits (n + 1) from String.toList_ofList]
    rfl

/-! ### Values -/

/-- A value that is read back in front of anything that ends it, by as many steps as its text is long. -/
def ReadsBack (j : Json) : Prop :=
  ∀ (fuel : Nat) (rest : List Char), (write j).length < fuel → EndsNumber rest →
    readValue true fuel (write j ++ rest) = some (j, rest)

private theorem skipGaps_cons {c : Char} (h : isGap c = false) (cs : List Char) : skipGaps (c :: cs) = c :: cs :=
  List.dropWhile_cons_of_neg (by rw [h]; decide)

/-- Items are read back, with the bracket that ends the array. -/
private theorem readItems_write {j : Json} {items : List Json} (h : ∀ k ∈ j :: items, k.ReadsBack) {fuel : Nat}
    (hfuel : (write j ++ writeItems items).length < fuel) (rest : List Char) :
    readItems true fuel (write j ++ (writeItems items ++ rest)) = some (j :: items, rest) := by
  induction items generalizing j fuel with
  | nil =>
    obtain ⟨fuel, rfl⟩ := Nat.exists_eq_add_of_le' (by omega : 1 ≤ fuel)
    simp only [writeItems, List.length_append, List.length_cons, List.length_nil] at hfuel
    have hvalue := h j List.mem_cons_self fuel (']' :: rest) (by omega) (endsNumber_cons (by decide) rest)
    have hbracket := skipGaps_cons (c := ']') rfl rest
    simp only [readItems, writeItems, List.cons_append, List.nil_append, hvalue, hbracket, Option.bind_eq_bind,
      Option.bind_some]
  | cons k items ih =>
    obtain ⟨fuel, rfl⟩ := Nat.exists_eq_add_of_le' (by omega : 1 ≤ fuel)
    simp only [writeItems, List.length_append, List.length_cons, List.cons_append] at hfuel
    have hvalue := h j List.mem_cons_self fuel (',' :: (write k ++ (writeItems items ++ rest))) (by omega)
      (endsNumber_cons (by decide) _)
    have hcomma := skipGaps_cons (c := ',') rfl (write k ++ (writeItems items ++ rest))
    have hmore := ih (fun i hi => h i (List.mem_cons_of_mem j hi))
      (by rw [List.length_append]; omega : (write k ++ writeItems items).length < fuel)
    simp only [readItems, writeItems, List.cons_append, List.append_assoc, hvalue, hcomma, hmore, Option.bind_eq_bind,
      Option.bind_some]

/-- Members are read back, with the brace that ends the object. -/
private theorem readMembers_write {name : String} {j : Json} {members : List (String × Json)}
    (h : ∀ m ∈ (name, j) :: members, m.2.ReadsBack) {fuel : Nat}
    (hfuel : (writeString name ++ ':' :: (write j ++ writeMembers members)).length < fuel) (rest : List Char) :
    readMembers true fuel (writeString name ++ ':' :: (write j ++ (writeMembers members ++ rest))) =
      some ((name, j) :: members, rest) := by
  induction members generalizing name j fuel with
  | nil =>
    obtain ⟨fuel, rfl⟩ := Nat.exists_eq_add_of_le' (by omega : 1 ≤ fuel)
    simp only [writeMembers, List.length_append, List.length_cons, List.length_nil] at hfuel
    have hj : j.ReadsBack := h (name, j) List.mem_cons_self
    obtain ⟨text, htext, hname⟩ :=
      readString_writeString name (by omega : (writeString name).length ≤ fuel) (':' :: (write j ++ '}' :: rest))
    have hvalue := hj fuel ('}' :: rest) (by omega) (endsNumber_cons (by decide) rest)
    have hquote := fun cs => skipGaps_cons (c := '"') rfl cs
    have hcolon := fun cs => skipGaps_cons (c := ':') rfl cs
    have hbrace := fun cs => skipGaps_cons (c := '}') rfl cs
    simp only [readMembers, writeMembers, htext, List.cons_append, List.nil_append, hquote, hname, hcolon, hvalue,
      hbrace, Option.bind_eq_bind, Option.bind_some]
  | cons m members ih =>
    obtain ⟨later, k⟩ := m
    have hj : j.ReadsBack := h (name, j) List.mem_cons_self
    obtain ⟨fuel, rfl⟩ := Nat.exists_eq_add_of_le' (by omega : 1 ≤ fuel)
    simp only [writeMembers, List.length_append, List.length_cons, List.cons_append, List.append_assoc] at hfuel
    have hmore := ih (fun m hm => h m (List.mem_cons_of_mem _ hm))
      (by simp only [List.length_append, List.length_cons]; omega :
        (writeString later ++ ':' :: (write k ++ writeMembers members)).length < fuel)
    -- the members behind are one text that is read back already
    generalize hcs : writeString later ++ ':' :: (write k ++ (writeMembers members ++ rest)) = cs at hmore
    obtain ⟨text, htext, hname⟩ :=
      readString_writeString name (by omega : (writeString name).length ≤ fuel) (':' :: (write j ++ ',' :: cs))
    have hvalue := hj fuel (',' :: cs) (by omega) (endsNumber_cons (by decide) cs)
    have hquote := fun cs => skipGaps_cons (c := '"') rfl cs
    have hcolon := fun cs => skipGaps_cons (c := ':') rfl cs
    have hcomma := fun cs => skipGaps_cons (c := ',') rfl cs
    simp only [readMembers, writeMembers, htext, List.cons_append, List.append_assoc, hcs, hquote, hname, hcolon,
      hvalue, hcomma, hmore, Option.bind_eq_bind, Option.bind_some]

/-- The first character of a document that is read back is neither a blank nor the end of an array. -/
private theorem IsWhole.exists_write {j : Json} (h : j.IsWhole) :
    ∃ c cs, write j = c :: cs ∧ isGap c = false ∧ c ≠ ']' := by
  cases h with
  | null => exact ⟨_, _, rfl, rfl, by decide⟩
  | bool b => cases b <;> exact ⟨_, _, rfl, rfl, by decide⟩
  | string s => exact ⟨_, _, rfl, rfl, by decide⟩
  | @integer n _ =>
    cases n with
    | ofNat n =>
      obtain ⟨d, ds, hdigits, hd⟩ := Numeral.exists_digits n
      refine ⟨d, ds, by rw [write, Numeral.render, String.toList_ofList, hdigits], ?_⟩
      refine ⟨?_, fun hd' => ?_⟩
      · refine Bool.eq_false_iff.2 fun hgap => ?_
        simp only [isGap, Bool.or_eq_true, beq_iff_eq] at hgap
        obtain ((rfl | rfl) | rfl) | rfl := hgap <;> exact absurd hd (by decide)
      · exact absurd hd (by rw [hd']; decide)
    | negSucc n => exact ⟨'-', _, String.toList_ofList, rfl, by decide⟩
  | @array items _ => cases items <;> exact ⟨_, _, rfl, rfl, by decide⟩
  | @object members _ => rcases members with _ | ⟨⟨name, j⟩, members⟩ <;> exact ⟨_, _, rfl, rfl, by decide⟩

/-- A document without decimals is read back in front of anything that ends it. -/
private theorem IsWhole.readsBack {j : Json} (h : j.IsWhole) : j.ReadsBack := by
  induction h with
  | null => exact fun fuel rest hfuel _ => readValue_write .null hfuel rest
  | bool b => exact fun fuel rest hfuel _ => readValue_write (.bool b) hfuel rest
  | string s => exact fun fuel rest hfuel _ => readValue_write (.string s) hfuel rest
  | @integer n hn =>
    intro fuel rest hfuel hrest
    obtain ⟨fuel, rfl⟩ := Nat.exists_eq_add_of_le' (by omega : 1 ≤ fuel)
    rw [write, readValue_number, readNumber_render hn hrest]
  | @array items hitems ih =>
    intro fuel rest hfuel _
    obtain ⟨fuel, rfl⟩ := Nat.exists_eq_add_of_le' (by omega : 1 ≤ fuel)
    cases items with
    | nil => rfl
    | cons j items =>
      simp only [write, List.cons_append, List.append_assoc, List.length_cons] at hfuel ⊢
      have hread := readItems_write ih (Nat.lt_of_succ_lt_succ hfuel) rest
      -- the first item does not look like the end of the array
      obtain ⟨c, cs, hc, hgap, hend⟩ := (hitems j List.mem_cons_self).exists_write
      rw [hc, List.cons_append] at hread ⊢
      have hskip := skipGaps_cons hgap (cs ++ (writeItems items ++ rest))
      have hopen := fun cs => skipGaps_cons (c := '[') rfl cs
      simp only [readValue, hopen, hskip]
      split
      · next hbracket => exact absurd (List.cons.inj hbracket).1 hend
      · rw [hread, Option.map_some]
  | @object members _ ih =>
    intro fuel rest hfuel _
    obtain ⟨fuel, rfl⟩ := Nat.exists_eq_add_of_le' (by omega : 1 ≤ fuel)
    rcases members with _ | ⟨⟨name, j⟩, members⟩
    · rfl
    · simp only [write, List.cons_append, List.append_assoc, List.length_cons] at hfuel ⊢
      have hread := readMembers_write ih (Nat.lt_of_succ_lt_succ hfuel) rest
      have hopen := fun cs => skipGaps_cons (c := '{') rfl cs
      have hquote := fun cs => skipGaps_cons (c := '"') rfl cs
      simp only [writeString, List.cons_append] at hread ⊢
      simp only [readValue, hopen, hquote]
      split
      · next hbrace => exact absurd (List.cons.inj hbrace).1 (by decide)
      · rw [hread, Option.map_some]

/-- A document without decimals is read back from its text. -/
theorem parse?_render {j : Json} (h : j.IsWhole) : parse? (render j) = some j := by
  have hread := h.readsBack (fuelFor (write j)) [] (by rw [fuelFor]; omega) endsNumber_nil
  rw [List.append_nil] at hread
  rw [parse?, render, String.toList_ofList, hread]
  rfl

end WorkspaceSearch.Json
