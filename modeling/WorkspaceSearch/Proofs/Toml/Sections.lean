import WorkspaceSearch.Proofs.Toml.Number
import WorkspaceSearch.Proofs.Toml.Quoted
import WorkspaceSearch.Toml.Reader

/-!
# Documents of sections are read back

A document of sections is a header for each section, a line for each of its fields and a blank line between sections.
Names have no quotes, and a value may be written in any way that is read back at the end of a line (`ReadsBack`).  Such
a document is read as the table of its sections (`parse?_document`): a header opens a new table, and every line behind
it adds to the table that was opened last.
-/

namespace WorkspaceSearch.Toml

open Numeral (readMark)

/-! ### Names without quotes -/

/-- A name that needs no quotes. -/
def IsBareName (name : String) : Prop := name.toList ≠ [] ∧ name.toList.all isBare = true

instance (name : String) : Decidable (IsBareName name) := inferInstanceAs (Decidable (_ ∧ _))

private theorem IsBareName.isBare_of_mem {name : String} (h : IsBareName name) : ∀ c ∈ name.toList, isBare c = true :=
  List.all_eq_true.1 h.2

private theorem ne_of_isBare {c d : Char} (hc : isBare c = true) (hd : isBare d = false) : c ≠ d := by
  rintro rfl
  rw [hc] at hd
  cases hd

private theorem IsBareName.exists_cons {name : String} (h : IsBareName name) :
    ∃ c cs, name.toList = c :: cs ∧ isBare c = true := by
  cases hname : name.toList with
  | nil => exact absurd hname h.1
  | cons c cs => exact ⟨c, cs, rfl, h.isBare_of_mem c (hname ▸ List.mem_cons_self)⟩

private theorem skipGaps_cons {c : Char} (h : isGap c = false) (cs : List Char) : skipGaps (c :: cs) = c :: cs :=
  List.dropWhile_cons_of_neg (by rw [h]; exact Bool.false_ne_true)

private theorem isGap_of_isBare {c : Char} (h : isBare c = true) : isGap c = false := by
  have hspace : c ≠ ' ' := ne_of_isBare h (by decide)
  have htab : c ≠ '\t' := ne_of_isBare h (by decide)
  simp [isGap, hspace, htab]

private theorem skipGaps_name {name : String} (hname : IsBareName name) (rest : List Char) :
    skipGaps (name.toList ++ rest) = name.toList ++ rest := by
  obtain ⟨c, cs, hcs, hc⟩ := hname.exists_cons
  rw [hcs, List.cons_append, skipGaps_cons (isGap_of_isBare hc)]

private theorem readName_bare {name : String} (hname : IsBareName name) {d : Char} (hd : isBare d = false)
    (rest : List Char) : readName (name.toList ++ d :: rest) = some (name, d :: rest) := by
  obtain ⟨c, cs, hcs, hc⟩ := hname.exists_cons
  have htake : (name.toList ++ d :: rest).takeWhile isBare = name.toList := by
    rw [List.takeWhile_append_of_pos hname.isBare_of_mem,
      List.takeWhile_cons_of_neg (by rw [hd]; exact Bool.false_ne_true), List.append_nil]
  unfold readName
  split
  · next heq =>
    rw [hcs, List.cons_append] at heq
    exact absurd (List.cons.inj heq).1 (ne_of_isBare hc (by decide))
  · next heq =>
    rw [hcs, List.cons_append] at heq
    exact absurd (List.cons.inj heq).1 (ne_of_isBare hc (by decide))
  · rw [htake, if_neg hname.1, String.ofList_toList, List.drop_left]

/-- A key of one name ends at the next mark that is no point. -/
private theorem readKey_bare {name : String} (hname : IsBareName name) {d : Char} (hd : isBare d = false)
    {rest behind : List Char} (hskip : skipGaps (d :: rest) = behind) (hpoint : behind.head? ≠ some '.') :
    readKey nestingLimit (name.toList ++ d :: rest) = some (([], name), behind) := by
  rw [nestingLimit, readKey, skipGaps_name hname, readName_bare hname hd]
  simp only [Option.bind_eq_bind, Option.bind_some, hskip]
  split
  · exact absurd rfl hpoint
  · rfl

/-! ### Adding to the last table -/

namespace Entries

variable {es : Entries} {name : String}

private theorem named_eq_none (h : name ∉ es.map (·.1)) : es.named name = none := by
  have hfind : es.find? (fun e => e.1 = name) = none := by
    refine List.find?_eq_none.2 fun e he heq => h ?_
    exact List.mem_map.2 ⟨e, he, of_decide_eq_true heq⟩
  rw [named, hfind]
  rfl

private theorem named_last (h : name ∉ es.map (·.1)) (node : Node) : (es ++ [(name, node)]).named name = some node := by
  have hnone := named_eq_none h
  rw [named, Option.map_eq_none_iff] at hnone
  rw [named, List.find?_append, hnone, Option.none_or, List.find?_singleton, if_pos (decide_eq_true rfl)]
  rfl

private theorem put_new (h : name ∉ es.map (·.1)) (node : Node) : es.put name node = es ++ [(name, node)] := by
  refine if_neg fun hany => h ?_
  obtain ⟨e, he, heq⟩ := List.any_eq_true.1 hany
  exact List.mem_map.2 ⟨e, he, of_decide_eq_true heq⟩

private theorem put_last (h : name ∉ es.map (·.1)) (node node' : Node) :
    Entries.put (es ++ [(name, node)]) name node' = es ++ [(name, node')] := by
  have hany : (es ++ [(name, node)]).any (fun e => e.1 = name) = true :=
    List.any_eq_true.2 ⟨(name, node), List.mem_append_right es List.mem_cons_self, decide_eq_true rfl⟩
  have hother : ∀ e ∈ es, (if e.1 = name then (name, node') else e) = e := fun e he =>
    if_neg fun heq => h (List.mem_map.2 ⟨e, he, heq⟩)
  rw [put, if_pos hany, List.map_append, List.map_congr_left hother, List.map_id', List.map_singleton, if_pos rfl]

/-- A header opens a table behind the others. -/
private theorem open?_new (h : name ∉ es.map (·.1)) (origin : Origin) :
    open? name origin es = some (es ++ [(name, .table .header [])]) := by
  rw [open?, named_eq_none h, put_new h]

/-- A value is added to the table opened last. -/
private theorem addAt?_last {key : String} {inner : Entries} (h : name ∉ es.map (·.1)) (hkey : key ∉ inner.map (·.1))
    (v : Value) :
    Entries.addAt? [name] [] key v (es ++ [(name, .table .header inner)]) =
      some (es ++ [(name, .table .header (inner ++ [(key, .value v)]))]) := by
  have hadd : add? false key v .header inner = some (inner ++ [(key, .value v)]) := by
    rw [add?, named_eq_none hkey, put_new hkey]
    rfl
  simp only [addAt?, descend, named_last h]
  simp [hadd, put_last h]

end Entries

/-! ### Values at the end of a line -/

/-- A value that is read from its written form at the end of a line. -/
def ReadsBack (written : List Char) (v : Value) : Prop :=
  ∀ fuel rest, readValue (fuel + 1) nestingLimit (skipGaps (written ++ '\n' :: rest)) = some (v, '\n' :: rest)

theorem readsBack_digits {n : Nat} (h : Numeral.Range.integer64.holds n = true) :
    ReadsBack (Numeral.digits n) (.integer n) := by
  intro fuel rest
  obtain ⟨d, ds, hn, hd⟩ := Numeral.exists_digits n
  have hne : ∀ c, Numeral.isDigit c = false → d ≠ c := by
    rintro c hc rfl
    rw [hd] at hc
    cases hc
  have hgap : isGap d = false := by
    have hspace : d ≠ ' ' := hne _ (by decide)
    have htab : d ≠ '\t' := hne _ (by decide)
    simp [isGap, hspace, htab]
  have hread : readNumber (Numeral.digits n ++ '\n' :: rest) = some (.integer n, '\n' :: rest) := readNumber_digits h
  rw [hn, List.cons_append] at hread ⊢
  rw [skipGaps_cons hgap]
  unfold readValue
  -- no other value starts with a digit
  split
  · next heq => exact absurd (List.cons.inj heq).1 (hne _ (by decide))
  · next heq => exact absurd (List.cons.inj heq).1 (hne _ (by decide))
  · next heq => exact absurd (List.cons.inj heq).1 (hne _ (by decide))
  · next heq => exact absurd (List.cons.inj heq).1 (hne _ (by decide))
  · next heq => exact absurd (List.cons.inj heq).1 (hne _ (by decide))
  · next heq => exact absurd (List.cons.inj heq).1 (hne _ (by decide))
  · exact hread

theorem readsBack_quote (cs : List Char) : ReadsBack (quote cs) (.string (.ofList cs)) := by
  intro fuel rest
  have hbreak : ('\n' :: rest).head? ≠ some '"' ∧ ('\n' :: rest).head? ≠ some '\'' := by
    rw [List.head?_cons]
    decide
  obtain ⟨q, body, hq, hquote, hread⟩ := readQuoted_quote cs hbreak
  rw [hquote, List.cons_append]
  obtain rfl | rfl := hq
  · rw [skipGaps_cons rfl, readValue, hread]
    rfl
  · rw [skipGaps_cons rfl, readValue, hread]
    rfl

/-! ### Sections -/

/-- A value under a name. -/
structure Field where
  name : String
  written : List Char
  value : Value
  bare : IsBareName name
  readsBack : ReadsBack written value

/-- A table with a header, whose fields have names of their own. -/
structure Section where
  name : String
  fields : List Field
  bare : IsBareName name
  nodup : (fields.map (·.name)).Nodup

/-- The line of a field. -/
def Field.line (f : Field) : List Char := f.name.toList ++ ' ' :: '=' :: ' ' :: (f.written ++ ['\n'])

/-- The header of a section and the lines of its fields. -/
def Section.lines (s : Section) : List Char := '[' :: (s.name.toList ++ ']' :: '\n' :: s.fields.flatMap Field.line)

/-- Sections with blank lines between them. -/
def sectionLines : List Section → List Char
  | [] => []
  | [s] => s.lines
  | s :: more => s.lines ++ '\n' :: sectionLines more

/-- The fields of a table. -/
private def fieldNodes (fields : List Field) : Entries := fields.map fun f => (f.name, .value f.value)

/-- The tables of sections. -/
private def sectionNodes (sections : List Section) : Entries :=
  sections.map fun s => (s.name, .table .header (fieldNodes s.fields))

/-- The value of a section. -/
def Section.value (s : Section) : Value := .table (s.fields.map fun f => (f.name, f.value))

/-- The value of a document of sections. -/
def sectionTable (sections : List Section) : Value := .table (sections.map fun s => (s.name, s.value))

private theorem fieldNodes_concat (fields : List Field) (f : Field) :
    fieldNodes (fields ++ [f]) = fieldNodes fields ++ [(f.name, .value f.value)] := List.map_append

private theorem sectionNodes_concat (sections : List Section) (s : Section) :
    sectionNodes (sections ++ [s]) = sectionNodes sections ++ [(s.name, .table .header (fieldNodes s.fields))] :=
  List.map_append

private theorem not_mem_of_nodup {a : String} {l m : List String} (h : (l ++ a :: m).Nodup) : a ∉ l :=
  fun hmem => (List.nodup_append.1 h).2.2 a hmem a List.mem_cons_self rfl

private theorem not_mem_fieldNodes {f : Field} {earlier more : List Field}
    (h : ((earlier ++ f :: more).map (·.name)).Nodup) : f.name ∉ (fieldNodes earlier).map (·.1) := by
  rw [fieldNodes, List.map_map]
  rw [List.map_append, List.map_cons] at h
  exact not_mem_of_nodup h

private theorem not_mem_sectionNodes {s : Section} {earlier more : List Section}
    (h : ((earlier ++ s :: more).map (·.name)).Nodup) : s.name ∉ (sectionNodes earlier).map (·.1) := by
  rw [sectionNodes, List.map_map]
  rw [List.map_append, List.map_cons] at h
  exact not_mem_of_nodup h

/-! ### Lines -/

variable {fuel : Nat} {table : List String} {es : Entries} {rest : List Char}

private theorem readDocument_blank :
    readDocument (fuel + 1) table es ('\n' :: rest) = readDocument fuel table es rest := rfl

private theorem readDocument_header {name : String} (hname : IsBareName name) (hnew : name ∉ es.map (·.1)) :
    readDocument (fuel + 1) table es ('[' :: (name.toList ++ ']' :: '\n' :: rest)) =
      readDocument fuel [name] (es ++ [(name, .table .header [])]) rest := by
  obtain ⟨c, cs, hcs, hc⟩ := hname.exists_cons
  have hkey : readKey nestingLimit (name.toList ++ ']' :: '\n' :: rest) = some (([], name), ']' :: '\n' :: rest) :=
    readKey_bare hname (by decide) (skipGaps_cons rfl _) fun h => by cases h
  have hmark : readMark ']' (']' :: '\n' :: rest) = some ('\n' :: rest) := rfl
  have hend : readEnd ('\n' :: rest) = some rest := rfl
  have hopen : Entries.descend false (Entries.open? name) [] .header es = some (es ++ [(name, .table .header [])]) :=
    Entries.open?_new hnew .header
  rw [readDocument, skipGaps_cons rfl]
  split
  · next heq => cases heq
  · next heq =>
    -- a name without quotes does not start with a bracket
    rw [hcs, List.cons_append] at heq
    exact absurd (List.cons.inj (List.cons.inj heq).2).1 (ne_of_isBare hc (by decide))
  · next heq =>
    obtain ⟨-, rfl⟩ := List.cons.inj heq
    simp only [hkey, hmark, hopen, hend, Option.bind_eq_bind, Option.bind_some, List.nil_append]
  · next hne heq => exact absurd (List.cons.inj heq).1.symm hne

private theorem readDocument_field (f : Field) {name : String} {inner : Entries} (hname : name ∉ es.map (·.1))
    (hnew : f.name ∉ inner.map (·.1)) :
    readDocument (fuel + 1) [name] (es ++ [(name, .table .header inner)]) (f.line ++ rest) =
      readDocument fuel [name] (es ++ [(name, .table .header (inner ++ [(f.name, .value f.value)]))]) rest := by
  obtain ⟨c, cs, hcs, hc⟩ := f.bare.exists_cons
  have hline : f.line ++ rest = f.name.toList ++ ' ' :: '=' :: ' ' :: (f.written ++ '\n' :: rest) := by
    simp [Field.line]
  have hkey : readKey nestingLimit (f.name.toList ++ ' ' :: '=' :: ' ' :: (f.written ++ '\n' :: rest)) =
      some (([], f.name), '=' :: ' ' :: (f.written ++ '\n' :: rest)) :=
    readKey_bare f.bare (by decide) rfl fun h => by cases h
  have hmark : readMark '=' ('=' :: ' ' :: (f.written ++ '\n' :: rest)) = some (' ' :: (f.written ++ '\n' :: rest)) :=
    rfl
  have hskip : skipGaps (' ' :: (f.written ++ '\n' :: rest)) = skipGaps (f.written ++ '\n' :: rest) := rfl
  have hvalue : ∀ fuel, readValue (fuel + 1) nestingLimit (skipGaps (f.written ++ '\n' :: rest)) =
      some (f.value, '\n' :: rest) := fun fuel => f.readsBack fuel rest
  have hadd := Entries.addAt?_last hname hnew f.value
  have hend : readEnd ('\n' :: rest) = some rest := rfl
  -- the first character of a name opens no section, no comment and no line
  have hbracket : c ≠ '[' := ne_of_isBare hc (by decide)
  have hplain : (c = '#' || c = '\n' || c = '\r') = false := by
    have hcomment : c ≠ '#' := ne_of_isBare hc (by decide)
    have hbreak : c ≠ '\n' := ne_of_isBare hc (by decide)
    have hreturn : c ≠ '\r' := ne_of_isBare hc (by decide)
    simp [hcomment, hbreak, hreturn]
  rw [hline, readDocument, skipGaps_name f.bare]
  rw [hcs, List.cons_append] at hkey ⊢
  split
  · next heq => cases heq
  · next heq => exact absurd (List.cons.inj heq).1 hbracket
  · next heq => exact absurd (List.cons.inj heq).1 hbracket
  · next heq =>
    obtain ⟨rfl, rfl⟩ := List.cons.inj heq
    rw [hplain, if_neg Bool.false_ne_true]
    simp only [hkey, hmark, hskip, hvalue, hadd, hend, Option.bind_eq_bind, Option.bind_some]

/-- The lines of fields add to the table opened last. -/
private theorem readDocument_fields {name : String} (hname : name ∉ es.map (·.1)) (earlier fields : List Field)
    (hnodup : ((earlier ++ fields).map (·.name)).Nodup) :
    readDocument (fuel + fields.length) [name] (es ++ [(name, .table .header (fieldNodes earlier))])
        (fields.flatMap Field.line ++ rest) =
      readDocument fuel [name] (es ++ [(name, .table .header (fieldNodes (earlier ++ fields)))]) rest := by
  induction fields generalizing earlier with
  | nil => rw [List.append_nil]; rfl
  | cons f fields ih =>
    rw [List.length_cons, ← Nat.add_assoc, List.flatMap_cons, List.append_assoc,
      readDocument_field f hname (not_mem_fieldNodes hnodup), ← fieldNodes_concat,
      ih (earlier ++ [f]) (by simpa using hnodup), List.append_assoc, List.singleton_append]

private theorem readDocument_section (s : Section) (hnew : s.name ∉ es.map (·.1)) :
    readDocument (fuel + (s.fields.length + 1)) table es (s.lines ++ rest) =
      readDocument fuel [s.name] (es ++ [(s.name, .table .header (fieldNodes s.fields))]) rest := by
  have hlines : s.lines ++ rest = '[' :: (s.name.toList ++ ']' :: '\n' :: (s.fields.flatMap Field.line ++ rest)) := by
    simp [Section.lines]
  rw [hlines, ← Nat.add_assoc, readDocument_header s.bare hnew]
  exact readDocument_fields hnew [] s.fields s.nodup

private theorem length_le_fieldLines (fields : List Field) :
    fields.length ≤ (fields.flatMap Field.line).length := by
  induction fields with
  | nil => exact Nat.zero_le _
  | cons f fields ih =>
    have hline : 0 < f.line.length := by
      rw [Field.line, List.length_append, List.length_cons]
      omega
    rw [List.flatMap_cons, List.length_append, List.length_cons]
    omega

/-- A section has fewer lines than characters. -/
private theorem length_lt_lines (s : Section) : s.fields.length + 1 < s.lines.length := by
  have hfields := length_le_fieldLines s.fields
  simp only [Section.lines, List.length_cons, List.length_append]
  omega

private theorem readDocument_sections (earlier sections : List Section)
    (hnodup : ((earlier ++ sections).map (·.name)).Nodup) (hfuel : (sectionLines sections).length < fuel) :
    readDocument fuel table (sectionNodes earlier) (sectionLines sections) =
      some (sectionNodes (earlier ++ sections)) := by
  induction sections using sectionLines.induct generalizing fuel table earlier with
  | case1 =>
    obtain ⟨fuel, rfl⟩ := Nat.exists_eq_add_of_lt hfuel
    rw [List.append_nil]
    rfl
  | case2 s =>
    have hlength := length_lt_lines s
    rw [sectionLines] at hfuel
    obtain ⟨fuel, rfl⟩ : ∃ n, fuel = n + 1 + (s.fields.length + 1) := ⟨fuel - (s.fields.length + 2), by omega⟩
    rw [sectionLines, ← List.append_nil s.lines, readDocument_section s (not_mem_sectionNodes hnodup),
      ← sectionNodes_concat]
    rfl
  | case3 s more hne ih =>
    have hlines : sectionLines (s :: more) = s.lines ++ '\n' :: sectionLines more := by
      rw [sectionLines]
      exact hne
    have hlength := length_lt_lines s
    rw [hlines, List.length_append, List.length_cons] at hfuel
    obtain ⟨fuel, rfl⟩ : ∃ n, fuel = n + 1 + (s.fields.length + 1) := ⟨fuel - (s.fields.length + 2), by omega⟩
    rw [hlines, readDocument_section s (not_mem_sectionNodes hnodup), readDocument_blank, ← sectionNodes_concat,
      ih (earlier ++ [s]) (by simpa using hnodup) (by omega), List.append_assoc, List.singleton_append]

/-! ### Documents -/

private theorem entriesToValues_eq_map (es : Entries) : entriesToValues es = es.map fun e => (e.1, e.2.toValue) := by
  induction es with
  | nil => rfl
  | cons e es ih => rw [entriesToValues, ih, List.map_cons]

private theorem table_sectionNodes (sections : List Section) :
    Value.table (entriesToValues (sectionNodes sections)) = sectionTable sections := by
  simp only [sectionTable, Section.value, sectionNodes, fieldNodes, entriesToValues_eq_map, List.map_map,
    Function.comp_def, Node.toValue]

/-- A document starts with a bracket, so no mark of the byte order is dropped. -/
private theorem head?_sectionLines (sections : List Section) : (sectionLines sections).head? ≠ some byteOrderMark := by
  have hbracket : some '[' ≠ some byteOrderMark := by decide
  cases sections with
  | nil => exact (Option.some_ne_none _).symm
  | cons s more =>
    cases more with
    | nil => exact hbracket
    | cons s' more => exact hbracket

/-- A document of sections is read as the table of them. -/
theorem parse?_document {sections : List Section} (hnodup : (sections.map (·.name)).Nodup) {text : String}
    (htext : text.toList = sectionLines sections) : parse? text = some (sectionTable sections) := by
  have hmark := head?_sectionLines sections
  have hread : readDocument ((sectionLines sections).length + 1) [] [] (sectionLines sections) =
      some (sectionNodes sections) := readDocument_sections [] sections hnodup (Nat.lt_succ_self _)
  rw [← table_sectionNodes]
  unfold parse?
  rw [htext]
  split
  · next c cs heq =>
    rw [heq] at hmark hread
    rw [if_neg fun h => hmark (congrArg some h)]
    exact congrArg (Option.map _) hread
  · next heq =>
    rw [heq] at hread
    exact congrArg (Option.map _) hread

end WorkspaceSearch.Toml
