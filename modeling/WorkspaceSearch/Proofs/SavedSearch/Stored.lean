import WorkspaceSearch.Database.Saved
import WorkspaceSearch.Proofs.Json.Reading
import WorkspaceSearch.Proofs.Outcome
import WorkspaceSearch.Proofs.Time.JulianScale

/-!
# Rows of saved searches

The row of a saved search is read back as the saved search (`SavedSearch.ofRow_toStored`): its identifier, the
document of its filters, the name of its scope, and its times and numbers.
-/

namespace WorkspaceSearch

/-! ### Identifiers -/

namespace Uuid

private theorem digit?_renderDigit (d : Fin 16) : digit? (renderDigit d) = some d :=
  (by decide : ∀ d : Fin 16, digit? (renderDigit d) = some d) d

private theorem mapM_digit? (ds : List (Fin 16)) : (ds.map renderDigit).mapM digit? = some ds := by
  induction ds with
  | nil => rfl
  | cons d ds ih =>
    rw [List.map_cons, List.mapM_cons, digit?_renderDigit, ih]
    rfl

private theorem joinGroups?_renderGroups {n : Nat} {ns : List Nat} {cs : List Char} (h : cs.length = (n :: ns).sum) :
    joinGroups? (n :: ns) (renderGroups (n :: ns) cs) = some cs := by
  induction ns generalizing n cs with
  | nil =>
    rw [renderGroups, joinGroups?, if_pos (by simpa using h)]
  | cons m ns ih =>
    rw [List.sum_cons] at h
    have hfront : (cs.take n).length = n := List.length_take_of_le (by omega)
    have hrest : (cs.drop n).length = (m :: ns).sum := by
      rw [List.length_drop]
      omega
    rw [renderGroups, joinGroups?, List.drop_left' hfront]
    · simp only [ih hrest, List.take_left' hfront, Option.map_some, List.take_append_drop]
    · exact List.cons_ne_nil m ns
    · exact List.cons_ne_nil m ns

/-- An identifier starts with a digit, and so with no brace and no scheme. -/
private theorem unwrap_render (d : Fin 16) (cs : List Char) : unwrap (renderDigit d :: cs) = renderDigit d :: cs := by
  have hbrace : renderDigit d ≠ '{' := (by decide : ∀ d : Fin 16, renderDigit d ≠ '{') d
  have hscheme : Chars.asciiLower (renderDigit d) ≠ 'u' :=
    (by decide : ∀ d : Fin 16, Chars.asciiLower (renderDigit d) ≠ 'u') d
  unfold unwrap
  split
  · next heq => exact absurd (List.cons.inj heq).1 hbrace
  · refine if_neg fun h => hscheme ?_
    exact (List.cons.inj h).1

/-- An identifier is read back from its text. -/
theorem ofText?_render (u : Uuid) : ofText? u.render = some u := by
  have hlength : (u.digits.map renderDigit).length = 32 := by rw [List.length_map, u.size_eq]
  have hdashes : (renderGroups groups (u.digits.map renderDigit)).length ≠ 32 := by
    simp [groups, renderGroups, hlength]
  have hjoin : joinGroups? groups (renderGroups groups (u.digits.map renderDigit)) = some (u.digits.map renderDigit) :=
    joinGroups?_renderGroups hlength
  have hunwrap : unwrap (renderGroups groups (u.digits.map renderDigit)) =
      renderGroups groups (u.digits.map renderDigit) := by
    cases hdigits : u.digits with
    | nil =>
      rw [hdigits] at hlength
      cases hlength
    | cons d ds => exact unwrap_render d _
  simp only [ofText?, render, String.toList_ofList, if_neg hdashes, hunwrap, hjoin, Option.bind_eq_bind,
    Option.bind_some, mapM_digit?, ofDigits?, dif_pos u.size_eq]

end Uuid

/-! ### Forms -/

namespace Form

variable {α : Type} {f : Form α}

/-- What is written is a string or a truth value, and is read back. -/
structure Faithful (f : Form α) : Prop where
  read_write : ∀ a, f.read (f.write a) = some a
  isLeaf : ∀ a, (f.write a).IsLeaf
  ne_null : ∀ a, f.write a ≠ .null

theorem faithful_text : text.Faithful := ⟨fun _ => rfl, fun s => .string s, nofun⟩

theorem faithful_bool : bool.Faithful := ⟨fun _ => rfl, fun b => .bool b, nofun⟩

private theorem write_instant (t : Instant) : instant.write t = .string t.toText := rfl

private theorem read_instant (s : String) : instant.read (.string s) = Instant.ofExchange? s := rfl

theorem faithful_instant : instant.Faithful := by
  constructor <;> intro t <;> rw [write_instant]
  · rw [read_instant, t.ofExchange?_toText]
  · exact .string _
  · exact Json.noConfusion

theorem read_option_of_ne_null {j : Json} (h : j ≠ .null) : f.option.read j = (f.read j).map some := by
  cases j <;> first | rfl | exact absurd rfl h

private theorem Faithful.read_option (h : f.Faithful) (o : Option α) : f.option.read (f.option.write o) = some o := by
  cases o with
  | none => rfl
  | some a => exact (read_option_of_ne_null (h.ne_null a)).trans (congrArg (Option.map some) (h.read_write a))

private theorem Faithful.isLeaf_option (h : f.Faithful) (o : Option α) : (f.option.write o).IsLeaf := by
  cases o with
  | none => exact .null
  | some a => exact h.isLeaf a

/-- The members of the document of filters. -/
private def filterMembers (f : Filters) : List (String × Json) := [
  ("channel_id", text.option.write f.channelId),
  ("user_id", text.option.write f.userId),
  ("file_type", text.option.write f.fileType),
  ("date_from", instant.option.write f.dateFrom),
  ("date_to", instant.option.write f.dateTo),
  ("has_attachment", bool.option.write f.hasAttachment),
  ("message_type", text.option.write f.messageType),
  ("channel_tier", text.option.write f.channelTier),
  ("is_admin", bool.option.write f.isAdmin)]

private theorem write_filters (f : Filters) : filters.write f = .object (filterMembers f) := rfl

theorem named_eq_nil {members : List (String × Json)} {name : String} (h : name ∉ members.map (·.1)) :
    Json.named members name = [] := by
  refine List.filterMap_eq_nil_iff.2 fun m hm => if_neg fun hname => h ?_
  exact List.mem_map.2 ⟨m, hm, hname⟩

theorem named_of_mem {members : List (String × Json)} (h : (members.map (·.1)).Nodup) {m : String × Json}
    (hm : m ∈ members) : Json.named members m.1 = [m.2] := by
  induction members with
  | nil => cases hm
  | cons first members ih =>
    obtain ⟨hfirst, hnodup⟩ := List.nodup_cons.1 h
    rcases List.mem_cons.1 hm with rfl | hm
    · have hnone : members.filterMap _ = [] := named_eq_nil hfirst
      rw [Json.named, List.filterMap_cons, hnone]
      simp
    · have hother : first.1 ≠ m.1 := fun heq => hfirst (List.mem_map.2 ⟨m, hm, heq.symm⟩)
      have hone : members.filterMap _ = [m.2] := ih hnodup hm
      rw [Json.named, List.filterMap_cons, hone]
      simp [hother]

/-- The slots of fields that a list of members has once. -/
theorem mapM_ofMembers? {members front : List (String × Json)}
    (h : ∀ m ∈ front, Json.named members m.1 = [m.2]) :
    (front.map (·.1)).mapM (Record.ofMembers? members) = some (front.map fun m => (m.1, .given m.2)) := by
  induction front with
  | nil => rfl
  | cons m front ih =>
    rw [List.map_cons, List.mapM_cons, Record.ofMembers?, h m List.mem_cons_self,
      ih fun n hn => h n (List.mem_cons_of_mem m hn)]
    rfl

/-- A record is read from an object that has every field once. -/
theorem ofJson?_of_nodup {members : List (String × Json)} (h : (members.map (·.1)).Nodup) :
    Record.ofJson? (members.map (·.1)) (.object members) = some ⟨members.map fun m => (m.1, .given m.2)⟩ := by
  rw [Record.ofJson?, mapM_ofMembers? fun m hm => named_of_mem h hm, Option.map_some]

/-- The document of filters is read back. -/
theorem read_write_filters (f : Filters) : filters.read (filters.write f) = some f := by
  have hnames : ((filterMembers f).map (·.1)).Nodup := by simp [filterMembers]
  have hrecord : Record.ofJson? filterFields (.object (filterMembers f)) = _ := ofJson?_of_nodup hnames
  rw [write_filters]
  simp only [filters, hrecord, Option.bind_eq_bind, Option.bind_some]
  simp [filterMembers, Record.withDefault, Record.slot, faithful_text.read_option, faithful_instant.read_option,
    faithful_bool.read_option]

end Form

/-- Stored filters are read back. -/
theorem Filters.ofStored_toStored (f : Filters) : ofStored f.toStored = .ok f := by
  have hmembers : ∀ m ∈ Form.filterMembers f, m.1 ∈ Form.filterFields ∧ m.2.IsLeaf := by
    simp only [Form.filterMembers, List.forall_mem_cons, Form.faithful_text.isLeaf_option,
      Form.faithful_instant.isLeaf_option, Form.faithful_bool.isLeaf_option, and_true]
    simp [Form.filterFields]
  rw [ofStored, toStored, Form.write_filters, Json.parseMembers?_render hmembers, Option.bind_some,
    ← Form.write_filters, Form.read_write_filters]

/-- A stored scope is read back. -/
theorem Scope.ofStored_name (s : Scope) : ofStored s.name = .ok s := by
  rcases s with _ | ⟨_ | _⟩ <;> rfl

/-! ### Rows -/

theorem ofColumn_some {α : Type} (a : α) : ofColumn (some a) = .ok a := rfl

private theorem eq_some_of_ofColumn {α : Type} {column : Option α} {a : α} (h : ofColumn column = .ok a) :
    column = some a := by
  cases column with
  | none => cases h
  | some b => exact congrArg some (Except.ok.inj h)

private theorem instant?_text (text : String) : (Scalar.text text).instant? = Instant.ofStored? text := rfl

theorem instant?_toStored (t : Instant) : (Scalar.text t.toStored).instant? = some t := by
  rw [instant?_text, t.ofStored?_toStored]

namespace SavedSearch

/-- Reads a row. -/
def ofRow (row : Stored.Saved) : Except Error SavedSearch := Scalars.ofStored row >>= ofStored row

private theorem lastUsedAt_toStored (o : Option Instant) :
    (o.map fun t => Scalar.text t.toStored).mapM (fun t => ofColumn t.instant?) =
      (.ok o : Except Error (Option Instant)) := by
  cases o with
  | none => rfl
  | some t =>
    simp only [Option.map_some, Option.mapM_some, instant?_toStored, ofColumn_some]
    rfl

/-- The times and numbers of a saved search. -/
private def scalars (s : SavedSearch) : Scalars := ⟨s.isPinned, s.usageCount, s.lastUsedAt, s.createdAt, s.updatedAt⟩

private theorem scalars_toStored_with (s : SavedSearch) (userId : String) {createdAt : Scalar} {t : Instant}
    (h : createdAt.instant? = some t) {lastUsedAt : Option Scalar} {o : Option Instant}
    (hused : lastUsedAt.mapM (fun t => ofColumn t.instant?) = (.ok o : Except Error (Option Instant))) :
    Scalars.ofStored { s.toStored with userId, createdAt, lastUsedAt } =
      .ok { s.scalars with createdAt := t, lastUsedAt := o } := by
  have hpinned : (Scalar.integer (if s.isPinned then 1 else 0)).bool? = some s.isPinned := by cases s.isPinned <;> rfl
  have hcount : (Scalar.integer s.usageCount).integer? = some s.usageCount := rfl
  simp only [Scalars.ofStored, toStored, hpinned, hcount, hused, h, instant?_toStored, ofColumn_some, Outcome.ok_bind]
  rfl

private theorem ofStored_toStored (s : SavedSearch) (userId : String) (createdAt : Scalar) (t : Instant)
    (lastUsedAt : Option Scalar) (o : Option Instant) :
    ofStored { s.toStored with userId, createdAt, lastUsedAt } { s.scalars with createdAt := t, lastUsedAt := o } =
      .ok { s with userId, createdAt := t, lastUsedAt := o } := by
  simp only [ofStored, toStored, Uuid.ofText?_render, Filters.ofStored_toStored, Scope.ofStored_name, Outcome.ok_bind]
  rfl

/-- A row may have another owner, another time of creation and another time of the last use, in any format. -/
theorem ofRow_toStored_with (s : SavedSearch) (userId : String) {createdAt : Scalar} {t : Instant}
    (h : createdAt.instant? = some t) {lastUsedAt : Option Scalar} {o : Option Instant}
    (hused : lastUsedAt.mapM (fun t => ofColumn t.instant?) = (.ok o : Except Error (Option Instant))) :
    ofRow { s.toStored with userId, createdAt, lastUsedAt } =
      .ok { s with userId, createdAt := t, lastUsedAt := o } := by
  rw [ofRow, s.scalars_toStored_with userId h hused, Outcome.ok_bind, ofStored_toStored]

/-- A row that is written over another keeps the owner and the time of creation of that one. -/
theorem ofRow_toStored_keeping (s : SavedSearch) (userId : String) {createdAt : Scalar} {t : Instant}
    (h : createdAt.instant? = some t) :
    ofRow { s.toStored with userId, createdAt } = .ok { s with userId, createdAt := t } :=
  s.ofRow_toStored_with userId h (lastUsedAt_toStored s.lastUsedAt)

/-- A row is read back. -/
theorem ofRow_toStored (s : SavedSearch) : ofRow s.toStored = .ok s :=
  s.ofRow_toStored_keeping s.userId (instant?_toStored s.createdAt)

/-- Rows are read one by one, if all of them can be read. -/
theorem ofRows_eq_ok {rows : List Stored.Saved} {found : List SavedSearch} :
    ofRows rows = .ok found ↔ rows.mapM ofRow = .ok found :=
  Outcome.mapM_twice_eq_ok (g := fun p => ofStored p.1 p.2)

/-- Rows are read back. -/
theorem mapM_ofRow_toStored (shelf : List SavedSearch) : (shelf.map toStored).mapM ofRow = .ok shelf :=
  (Outcome.mapM_map_eq_ok fun s _ => s.ofRow_toStored).trans (congrArg Except.ok (List.map_id shelf))

/-- What is read of a row has its identifier, its owner and its time of creation. -/
theorem ofRow_eq_ok {row : Stored.Saved} {s : SavedSearch} (h : ofRow row = .ok s) :
    Uuid.ofText? row.id = some s.id ∧ s.userId = row.userId ∧ row.createdAt.instant? = some s.createdAt := by
  obtain ⟨scalars, hscalars, h⟩ := Outcome.bind_eq_ok.1 h
  have hcreated : row.createdAt.instant? = some scalars.createdAt := by
    obtain ⟨_, -, hscalars⟩ := Outcome.bind_eq_ok.1 hscalars
    obtain ⟨_, -, hscalars⟩ := Outcome.bind_eq_ok.1 hscalars
    obtain ⟨_, -, hscalars⟩ := Outcome.bind_eq_ok.1 hscalars
    obtain ⟨createdAt, hcolumn, hscalars⟩ := Outcome.bind_eq_ok.1 hscalars
    obtain ⟨_, -, hscalars⟩ := Outcome.bind_eq_ok.1 hscalars
    rw [← Except.ok.inj hscalars]
    exact eq_some_of_ofColumn hcolumn
  unfold ofStored at h
  split at h
  · next id hid =>
    obtain ⟨filters, -, h⟩ := Outcome.bind_eq_ok.1 h
    obtain ⟨scope, -, h⟩ := Outcome.bind_eq_ok.1 h
    obtain rfl := Except.ok.inj h
    exact ⟨hid, rfl, hcreated⟩
  · cases h

end SavedSearch

end WorkspaceSearch
