import WorkspaceSearch.Proofs.Database.Intact
import WorkspaceSearch.Proofs.Database.Visible

/-!
# Integrity of a database

A database that starts from the migrations alone stays intact, whatever is inserted into it and deleted from it
(`OpenedDatabase.edits_sound`).  So every message has a channel and a sender to be joined with, every direct message a
sender and a receiver, and nothing is joined twice: a lookup without conditions answers for each row once, as long as
what it reads can be read (`Database.AnswersEach`).
-/

namespace WorkspaceSearch

namespace Database

/-- A lookup answers with one row for each of some identifiers. -/
def AnswersEach {Row : Type} (outcome : Except DatabaseFault (List Row)) (id : Row → String) (ids : List String) :
    Prop :=
  ∃ rows, outcome = .ok rows ∧ (rows.map id).Perm ids

/-- A lookup that is accepted, finds all of some rows and has room for them answers for each of them. -/
private theorem answersEach_guardLookup {Kept Found Row : Type} {all : List Kept} {idOf : Kept → String}
    {isEmpty fits overruns : Bool} {found : List Found} {limit : Nat} {read : Found → Except DatabaseFault Row}
    {kept : Found → Kept} {id : Row → String} (hempty : isEmpty = false) (hfits : fits = true)
    (hoverruns : overruns = false) (hfound : (found.map kept).Perm all) (hlimit : all.length ≤ limit)
    (hread : ∀ x, kept x ∈ all → ∃ row, read x = .ok row) (hid : ∀ x row, read x = .ok row → id row = idOf (kept x)) :
    AnswersEach (guardLookup isEmpty fits overruns ((cutPage limit 0 found).mapM read)) id (all.map idOf) := by
  obtain ⟨rows, hrows⟩ := Outcome.exists_mapM_ok fun x hx => hread x (hfound.mem_iff.1 (List.mem_map_of_mem hx))
  have hlength : found.length ≤ limit := by
    rw [← List.length_map (f := kept), hfound.length_eq]
    exact hlimit
  refine ⟨rows, ?_, ?_⟩
  · rw [hempty, hfits, hoverruns, cutPage, List.drop_zero, List.take_of_length_le hlength, hrows]
    rfl
  · rw [Outcome.map_eq_of_mapM hid hrows]
    simpa only [List.map_map, Function.comp_def] using hfound.map idOf

variable {db : Database}

private theorem hasUser_of_supports {e : Entry} {id : String} (h : db.Supports e) (howner : (.users, id) ∈ e.owners) :
    db.hasUser id = true :=
  hasUser_iff.2 (h.owners _ howner)

private theorem Intact.anchored (h : db.Intact) : db.Anchored := by
  constructor
  · intro m hm
    obtain ⟨e, he, rfl⟩ := List.mem_map.1 hm
    exact hasChannel_iff.2 ((h.references (.message e) he).owners _ (by simp [Entry.owners]))
  · intro m hm
    obtain ⟨e, he, rfl⟩ := List.mem_map.1 hm
    exact hasUser_of_supports (h.references (.message e) he) (by simp [Entry.owners])

/-- Every direct message stands in its place exactly once. -/
private theorem Intact.map_message_directMessagesInPlace (h : db.Intact) :
    db.directMessagesInPlace.map (·.1.1) = db.directMessages.toList := by
  refine map_fst_join_join_of_refers h.keys.users h.keys.users (fun m hm => ?_) fun m hm => ?_
  · obtain ⟨e, he, rfl⟩ := List.mem_map.1 hm
    exact hasUser_of_supports (h.references (.directMessage e) he) (by simp [Entry.owners])
  · obtain ⟨e, he, rfl⟩ := List.mem_map.1 hm
    exact hasUser_of_supports (h.references (.directMessage e) he) (by simp [Entry.owners])

/-! ### Lookups without conditions -/

/-- A lookup of messages without conditions answers for each of them. -/
private theorem Intact.searchMessages_answersEach (h : db.Intact) {limit : Nat}
    (hread : ∀ m ∈ db.messages.toList, m.createdAt.instant? ≠ none) (hlimit : db.messages.size ≤ limit) :
    AnswersEach (db.searchMessages { limit }) (·.id) (db.messages.toList.map (·.id)) := by
  have hshape : ({ limit } : MessageLookup).shape = ({} : MessageLookup).shape := rfl
  have hoverruns : db.messages.any (db.messageOverruns { limit }) = false :=
    any_eq_false (messageOverruns_eq_false rfl)
  have hfits : ∀ m, db.messageFits { limit } m = true := fun m => rfl
  have hfound : ((db.foundMessages { limit }).map (·.1.1)).Perm db.messages.toList := by
    rw [← map_message_messagesInPlace h.keys.toKeyed h.anchored, foundMessages]
    simp only [hfits, List.filter_true]
    exact (List.mergeSort_perm _ _).map _
  rw [searchMessages_eq]
  refine answersEach_guardLookup rfl (by rw [hshape]; decide +kernel) (by rw [hoverruns, Bool.and_false]) hfound
    (by simpa using hlimit) (fun x hx => ?_) fun x row hx => ?_
  · obtain ⟨t, ht⟩ := Option.ne_none_iff_exists'.1 (hread _ hx)
    exact ⟨_, by rw [messageRow, readTime, ht]; rfl⟩
  · obtain ⟨t, -, hx⟩ := Outcome.bind_eq_ok.1 hx
    rw [← Except.ok.inj hx]

/-- A lookup of the direct messages of a user without conditions answers for each that the user has sent or received. -/
private theorem Intact.searchDirectMessages_answersEach (h : db.Intact) {limit : Nat} {userId : String}
    (hread : ∀ m ∈ db.directMessagesOf userId, m.createdAt.instant? ≠ none)
    (hlimit : (db.directMessagesOf userId).length ≤ limit) :
    AnswersEach (db.searchDirectMessages { participantId := userId, limit }) (·.id)
      ((db.directMessagesOf userId).map (·.id)) := by
  have hshape : ({ participantId := userId, limit } : DirectMessageLookup).shape = ({} : DirectMessageLookup).shape :=
    rfl
  have hoverruns : db.directMessages.any (db.directMessageOverruns { participantId := userId, limit }) = false :=
    any_eq_false (directMessageOverruns_eq_false rfl)
  have hfits : ∀ m, directMessageFits { participantId := userId, limit } m = isBetween m userId := by
    intro m
    have hplain : directMessageFits { participantId := userId, limit } m =
        (isBetween m userId && true && true && true && true && true && true) := rfl
    simpa only [Bool.and_true] using hplain
  have hfound : ((db.foundDirectMessages { participantId := userId, limit }).map (·.1.1)).Perm
      (db.directMessagesOf userId) := by
    rw [directMessagesOf, ← h.map_message_directMessagesInPlace, List.filter_map, foundDirectMessages]
    simp only [hfits]
    exact (List.mergeSort_perm _ _).map _
  rw [searchDirectMessages_eq]
  refine answersEach_guardLookup rfl (by rw [hshape]; decide +kernel) (by rw [hoverruns, Bool.and_false]) hfound
    hlimit (fun x hx => ?_) fun x row hx => ?_
  · obtain ⟨t, ht⟩ := Option.ne_none_iff_exists'.1 (hread _ hx)
    exact ⟨_, by rw [directMessageRow, readTime, ht]; rfl⟩
  · obtain ⟨t, -, hx⟩ := Outcome.bind_eq_ok.1 hx
    rw [← Except.ok.inj hx]

/-- A lookup of files without conditions answers for each of them. -/
private theorem Intact.searchFiles_answersEach (h : db.Intact) {limit : Nat}
    (hread : ∀ f ∈ db.files.toList, f.createdAt.instant? ≠ none ∧ f.fileSize.integer? ≠ none)
    (hlimit : db.files.size ≤ limit) :
    AnswersEach (db.searchFiles { limit }) (·.id) (db.files.toList.map (·.id)) := by
  have hshape : ({ limit } : FileLookup).shape = ({} : FileLookup).shape := rfl
  have hoverruns : db.files.any (fileOverruns { limit }) = false := any_eq_false fun f => rfl
  have hfits : ∀ f, fileFits { limit } f = true := fun f => rfl
  have hfound : ((db.foundFiles { limit }).map (·.file)).Perm db.files.toList := by
    rw [← map_file_filesInPlace h.keys.toKeyed, foundFiles]
    simp only [hfits, List.filter_true]
    exact (List.mergeSort_perm _ _).map _
  rw [searchFiles_eq]
  refine answersEach_guardLookup rfl (by rw [hshape]; decide +kernel) (by rw [hoverruns, Bool.and_false]) hfound
    (by simpa using hlimit) (fun p hp => ?_) fun p row hp => ?_
  · obtain ⟨htime, hsize⟩ := hread _ hp
    obtain ⟨t, ht⟩ := Option.ne_none_iff_exists'.1 htime
    obtain ⟨n, hn⟩ := Option.ne_none_iff_exists'.1 hsize
    exact ⟨_, by rw [fileRow, readTime, ht, hn]; rfl⟩
  · obtain ⟨t, -, hp⟩ := Outcome.bind_eq_ok.1 hp
    obtain ⟨size, -, hp⟩ := Outcome.bind_eq_ok.1 hp
    rw [← Except.ok.inj hp]

end Database

namespace OpenedDatabase

open Database (AnswersEach)

/-- What can be relied on in a database. -/
structure Sound (d : OpenedDatabase) : Prop where
  /-- Keys are unique, and every row that another one refers to is there. -/
  intact : d.data.Intact
  /-- An edit that is refused leaves everything as it was. -/
  refused : ∀ e fault, (d.edit e).1 = .error fault → (d.edit e).2 = d
  /-- An insertion that is accepted adds one row, whose references are there, unless it records a version. -/
  inserted : ∀ now table row d', d.insert now table row = .ok d' →
    d'.data = d.data ∨ ∃ e, d'.data = d.data.add e ∧ d.data.Supports e
  /-- A deletion takes the chosen rows and whatever they own, and takes nothing from the others but their uploaders. -/
  deletion : ∀ t p e', (d.data.deleteCells p t).Has e' ↔
    ∃ e, d.data.Has e ∧ ¬d.data.Falls t p e ∧ d.data.Leaves t p e e'
  /-- A lookup of messages without conditions answers for each of them. -/
  messages : ∀ limit, (∀ m ∈ d.data.messages.toList, m.createdAt.instant? ≠ none) → d.data.messages.size ≤ limit →
    AnswersEach (d.data.searchMessages { limit }) (·.id) (d.data.messages.toList.map (·.id))
  /-- So does one of the direct messages of a user. -/
  directMessages : ∀ limit userId, (∀ m ∈ d.data.directMessagesOf userId, m.createdAt.instant? ≠ none) →
    (d.data.directMessagesOf userId).length ≤ limit →
    AnswersEach (d.data.searchDirectMessages { participantId := userId, limit }) (·.id)
      ((d.data.directMessagesOf userId).map (·.id))
  /-- So does one of files, if their sizes are whole numbers. -/
  files : ∀ limit, (∀ f ∈ d.data.files.toList, f.createdAt.instant? ≠ none ∧ f.fileSize.integer? ≠ none) →
    d.data.files.size ≤ limit →
    AnswersEach (d.data.searchFiles { limit }) (·.id) (d.data.files.toList.map (·.id))

private theorem exists_migrate (plan : Plan) :
    ∃ d, ({ data := { plan } } : OpenedDatabase).migrate = .ok d ∧ d.data = { plan } := by
  obtain ⟨schema, hschema⟩ : ∃ schema, ({} : Schema).migrate = .ok schema := ⟨_, rfl⟩
  exact ⟨{ data := { plan }, schema }, by rw [migrate, hschema]; rfl, rfl⟩

/-- A database that starts from the migrations alone is sound, whatever is inserted into it and deleted from it, and by
whatever plan it runs lookups. -/
theorem edits_sound (plan : Plan) :
    ∃ d, ({ data := { plan } } : OpenedDatabase).migrate = .ok d ∧ ∀ es, (d.edits es).Sound := by
  obtain ⟨d, hmigrate, hdata⟩ := exists_migrate plan
  refine ⟨d, hmigrate, fun es => ?_⟩
  have hintact : (d.edits es).data.Intact := intact_edits (hdata ▸ Database.Intact.empty plan) es
  have hinserted : ∀ now table row d', (d.edits es).insert now table row = .ok d' →
      d'.data = (d.edits es).data ∨ ∃ e, d'.data = (d.edits es).data.add e ∧ (d.edits es).data.Supports e :=
    fun now table row d' hinsert => (data_insert hinsert).imp_right Database.insert_eq_add
  exact ⟨hintact, fun _ _ => edit_refused, hinserted, fun _ _ _ => Database.has_deleteCells,
    fun _ => hintact.searchMessages_answersEach, fun _ _ => hintact.searchDirectMessages_answersEach,
    fun _ => hintact.searchFiles_answersEach⟩

/-- Inserts a file whose size is the numeral of one byte and a half. -/
def oddFile : Edit :=
  .insert (.text "2024-01-03 12:00:00") "files"
    [("id", some (.text "f1")), ("file_name", some (.text "a.txt")), ("file_size", some (.text "1.5"))]

/-- The file is stored, with a time that can be read, and the lookup of files fails. -/
private theorem insert_oddFile : ∃ db, ({} : Database).insert (.text "2024-01-03 12:00:00") "files"
      [("id", some (.text "f1")), ("file_name", some (.text "a.txt")), ("file_size", some (.text "1.5"))] = .ok db ∧
    (∀ f ∈ db.files.toList, f.createdAt.instant? ≠ none) ∧ db.files.size ≤ 100 ∧
      db.searchFiles { limit := 100 } = .error .unreadableColumn :=
  ⟨_, rfl, by decide +kernel⟩

/-- A file whose size is not a whole number makes the lookup of files fail, though its time can be read. -/
theorem fractional_size_fails :
    ∃ d, ({} : OpenedDatabase).migrate = .ok d ∧
      (∀ f ∈ (d.edits [oddFile]).data.files.toList, f.createdAt.instant? ≠ none) ∧
      (d.edits [oddFile]).data.files.size ≤ 100 ∧
      ¬AnswersEach ((d.edits [oddFile]).data.searchFiles { limit := 100 }) (·.id)
        ((d.edits [oddFile]).data.files.toList.map (·.id)) := by
  obtain ⟨d, hmigrate, hdata⟩ := exists_migrate .scan
  obtain ⟨db, hinsert, hread, hsize, hfails⟩ := insert_oddFile
  have htable : ¬isVersionTable "files" = true := by decide +kernel
  have hedits : (d.edits [oddFile]).data = db := by
    rw [edits, List.foldl_cons, List.foldl_nil, oddFile, edit, OpenedDatabase.insert, if_neg htable, hdata, hinsert]
    rfl
  refine ⟨d, hmigrate, ?_⟩
  rw [hedits]
  refine ⟨hread, hsize, ?_⟩
  rintro ⟨rows, hrows, -⟩
  rw [hfails] at hrows
  cases hrows

end OpenedDatabase

end WorkspaceSearch
