import WorkspaceSearch.Proofs.Database.Linked
import WorkspaceSearch.Proofs.Search.Excluded
import WorkspaceSearch.Proofs.Search.Restricted

/-!
# Messages and files in the same channels

Messages are narrowed to channels by two conditions of their lookup, files by the messages that they may belong to,
which are looked up before.  Both ways keep to the same channels: those that the query names, if it names any, and the
one of the filters, if there is one (`Request.keepsToChannels`).  No file is lost on the way, and where no message in
these channels has an attachment files are not looked up at all.
-/

namespace WorkspaceSearch

namespace Request

/-! ### Channels of a request -/

/-- The query names channels, or the filters ask for one. -/
def IsNarrowed (r : Request) (named : List String) : Prop := named ≠ [] ∨ r.filters.channelId ≠ none

/-- A channel is among those that the query names, if it names any, and it is the one of the filters, if there is
one. -/
def Allows (r : Request) (named : List String) (channelId : String) : Prop :=
  (named = [] ∨ channelId ∈ named) ∧ ∀ id ∈ r.filters.channelId, channelId = id

variable {r : Request} {db : Database} {named : List String}

private theorem channelRestriction_eq_none : r.channelRestriction named = none ↔ ¬r.IsNarrowed named := by
  unfold IsNarrowed channelRestriction
  cases r.filters.channelId <;> cases named <;> simp

/-- A restriction is the list of the channels that the query names, or of the one of the filters, or what both have in
common. -/
private theorem channelRestriction_cases {channelIds : List String} (h : r.channelRestriction named = some channelIds) :
    (r.filters.channelId = none ∧ named ≠ [] ∧ channelIds = named) ∨
      ∃ id, r.filters.channelId = some id ∧
        (named = [] ∧ channelIds = [id] ∨ named ≠ [] ∧ channelIds = named.filter (· == id)) := by
  unfold channelRestriction at h
  split at h
  · cases h
  · next hid hnamed => exact .inl ⟨hid, hnamed, (Option.some.inj h).symm⟩
  · next id hid => exact .inr ⟨id, hid, .inl ⟨rfl, (Option.some.inj h).symm⟩⟩
  · next id hid hnamed => exact .inr ⟨id, hid, .inr ⟨hnamed, (Option.some.inj h).symm⟩⟩

/-- The lookup of messages with an attachment is asked for the channels that the request allows. -/
private theorem mem_channelRestriction {channelIds : List String} (h : r.channelRestriction named = some channelIds)
    {channelId : String} : channelId ∈ channelIds ↔ r.Allows named channelId := by
  obtain ⟨hid, hnamed, rfl⟩ | ⟨id, hid, ⟨rfl, rfl⟩ | ⟨hnamed, rfl⟩⟩ := channelRestriction_cases h
  · simp [Allows, hid, hnamed]
  · simp [Allows, hid]
  · simp [Allows, hid, hnamed]

private theorem length_channelRestriction_le {channelIds : List String}
    (h : r.channelRestriction named = some channelIds) : channelIds.length ≤ max 1 named.length := by
  obtain ⟨-, -, rfl⟩ | ⟨id, -, ⟨-, rfl⟩ | ⟨-, rfl⟩⟩ := channelRestriction_cases h
  · exact Nat.le_max_right _ _
  · exact Nat.le_max_left _ _
  · exact (List.length_filter_le _ _).trans (Nat.le_max_right _ _)

/-- A stored message with an attachment, in a channel that the request allows. -/
structure Carries (db : Database) (r : Request) (named : List String) (m : Stored.Message) : Prop where
  stored : m ∈ db.messages.toList
  attached : m.attachmentId ≠ none
  channel : r.Allows named m.channelId

/-- A file is linked to a message with an attachment, in a channel that the request allows. -/
def Links (db : Database) (r : Request) (named : List String) (f : Stored.File) : Prop :=
  ∃ m, r.Carries db named m ∧ f.messageId = some m.id

/-! ### Messages that a file may belong to -/

/-- The messages that a file must belong to, if the request is narrowed. -/
def messageIdsOn (r : Request) (db : Database) (named : List String) : Except DatabaseFault (Option (List String)) :=
  match r.channelRestriction named with
  | none => .ok none
  | some channelIds => (db.attachmentMessageIds channelIds).map some

/-- Without such messages there are no files. -/
private theorem filesIn_eq :
    r.filesIn db named = lookedUp (r.messageIdsOn db named) >>= fun messageIds =>
      if messageIds = some [] then .ok [] else r.filesOfOn db messageIds := by
  unfold filesIn messageIdsOn
  rcases r.channelRestriction named with _ | _ | ⟨channelId, channelIds⟩
  · rfl
  · simp only [Database.attachmentMessageIds_nil]
    rfl
  · simp only
    cases db.attachmentMessageIds (channelId :: channelIds) with
    | error e => rfl
    | ok ids => cases ids <;> rfl

private theorem messageIdsOn_eq_none {messageIds : Option (List String)}
    (h : r.messageIdsOn db named = .ok messageIds) : messageIds = none ↔ ¬r.IsNarrowed named := by
  rw [← channelRestriction_eq_none]
  rw [messageIdsOn] at h
  split at h
  · next hnone => exact iff_of_true (Except.ok.inj h).symm hnone
  · next channelIds hsome =>
    rw [hsome]
    cases hids : db.attachmentMessageIds channelIds with
    | error e =>
      rw [hids] at h
      cases h
    | ok ids =>
      rw [hids] at h
      obtain rfl := Except.ok.inj h
      exact iff_of_false nofun nofun

private theorem mem_messageIdsOn {ids : List String} (h : r.messageIdsOn db named = .ok (some ids)) {id : String} :
    id ∈ ids ↔ ∃ m, r.Carries db named m ∧ m.id = id := by
  rw [messageIdsOn] at h
  split at h
  · cases h
  · next channelIds hsome =>
    cases hids : db.attachmentMessageIds channelIds with
    | error e =>
      rw [hids] at h
      cases h
    | ok found =>
      rw [hids] at h
      obtain rfl := Option.some.inj (Except.ok.inj h)
      rw [Database.mem_attachmentMessageIds hids]
      constructor
      · rintro ⟨m, hm, hattached, hchannel, rfl⟩
        exact ⟨m, ⟨hm, hattached, (mem_channelRestriction hsome).1 hchannel⟩, rfl⟩
      · rintro ⟨m, hcarries, rfl⟩
        exact ⟨m, hcarries.stored, hcarries.attached, (mem_channelRestriction hsome).2 hcarries.channel, rfl⟩

/-- Only too many channels are refused. -/
private theorem messageIdsOn_eq_error {e : DatabaseFault} (h : r.messageIdsOn db named = .error e) :
    StatementShape.valueLimit < named.length := by
  rw [messageIdsOn] at h
  split at h
  · cases h
  · next channelIds hsome =>
    cases hids : db.attachmentMessageIds channelIds with
    | ok ids =>
      rw [hids] at h
      cases h
    | error e' =>
      have hlong := (Database.attachmentMessageIds_eq_error hids).2
      have hlength := length_channelRestriction_le hsome
      unfold StatementShape.valueLimit at *
      omega

/-! ### What is found -/

/-- A file matches a request: its text, its uploader, its type, its date and the excluded terms; the names of senders in
the query stand for some uploaders. -/
structure Seeks (r : Request) (uploaderIds : List String) (f : Stored.File) : Prop where
  text : Text.isBlank r.base = false → ∃ text ∈ r.texts, Text.Occurs text f.fileName ∨ Text.Occurs text f.fileType
  uploader : uploaderIds = [] ∨ ∃ id ∈ f.uploaderId, id ∈ uploaderIds
  userFilter : ∀ id ∈ r.filters.userId, f.uploaderId = some id
  typeFilter : ∀ name ∈ r.filters.fileType, Text.Occurs name f.fileType
  passes : ∃ t, f.createdAt.Stamps t ∧ r.Passes .files f.fileName t

/-- The bounds that a request puts on the date. -/
def dateBounds (r : Request) : List Instant := r.after.toList ++ r.before.toList

/-- A search of files that asks for something: ASCII texts, timestamps and bounds of the years 0 to 9999, and room for
all files. -/
structure Ordinary (r : Request) (db : Database) (uploaderIds : List String) : Prop where
  criteria : r.hasCriteria = true
  uploaders : db.resolveUserIds r.operators.senders = .ok uploaderIds
  query : ∀ text ∈ r.base :: r.operators.exclude ++ r.filters.fileType.toList, text.toList.all Chars.isAscii = true
  texts : ∀ f ∈ db.files.toList, (f.fileName ++ f.fileType).toList.all Chars.isAscii = true
  stamped : ∀ f ∈ db.files.toList, ∃ t, f.createdAt.Stamps t
  bounds : ∀ bound ∈ r.dateBounds, bound.Regular
  offset : r.offset = 0
  limit : db.files.toList.length ≤ r.limit

/-- What such a search has to keep to besides: no NUL in the texts of files and in excluded terms, dates that are not
rounded out of the scale of Julian days where dates are compared, sizes that can be read, room for the context around a
match, and lookups that the database accepts. -/
structure InReach (r : Request) (db : Database) (named uploaderIds : List String) : Prop where
  exclude : ∀ term ∈ r.operators.exclude, '\x00' ∉ term.toList
  texts : ∀ f ∈ db.files.toList, '\x00' ∉ f.fileName.toList ∧ '\x00' ∉ f.fileType.toList
  bounds : ∀ bound ∈ r.dateBounds, bound.Storable
  stamps : r.dateBounds ≠ [] → ∀ f ∈ db.files.toList, ∀ t, f.createdAt.Stamps t → t.Storable
  sizes : ∀ f ∈ db.files.toList, f.fileSize.integer? ≠ none
  room : ∀ f ∈ db.files.toList, f.fileName.toList.length + r.contextRadius < Relevance.wordSize
  accepted : ∃ messageIds, r.messageIdsOn db named = .ok messageIds ∧
    Domain.isModest .files (r.fileLookup messageIds uploaderIds) = true

/-- Messages and files are searched in the same channels. -/
structure KeepsToChannels (r : Request) (db : Database) (named : List String) : Prop where
  /-- Every message found is in a channel that the request allows. -/
  messages : r.IsNarrowed named → ∀ results, ((searchMessages r).run Database.answer db).1 = .ok results →
    ∀ result ∈ results, ∃ m ∈ db.messages.toList, result.Shows m ∧ r.Allows named m.channelId
  /-- Every file found is linked to a message with an attachment in such a channel, and shows that channel. -/
  files : r.IsNarrowed named → ∀ results, ((searchFiles r).run Database.answer db).1 = .ok results →
    ∀ result ∈ results, ∃ f ∈ db.files.toList, result.id = f.id ∧
      ∃ m, r.Carries db named m ∧ f.messageId = some m.id ∧
        ∃ c ∈ db.channels.toList, c.id = m.channelId ∧ result.channel = some ⟨c.id, c.name⟩
  /-- Every file that is sought and linked so is found, once. -/
  complete : ∀ uploaderIds, r.Ordinary db uploaderIds → r.InReach db named uploaderIds →
    ∃ results, ((searchFiles r).run Database.answer db).1 = .ok results ∧
      ∀ f ∈ db.files.toList, r.Seeks uploaderIds f → r.Links db named f → (results.map (·.id)).count f.id = 1
  /-- Files are not looked up when there is no such message; nothing is found then, or the lookup of the messages fails
  over too many channels. -/
  quiet : r.IsNarrowed named → (∀ m, ¬r.Carries db named m) →
    (∀ q, .searchFiles q ∉ (searchFiles r).trace Database.answer db) ∧
    SearchService.degrade ((searchFiles r).run Database.answer db).1 = .ok [] ∧
    (named.length ≤ StatementShape.valueLimit → ((searchFiles r).run Database.answer db).1 = .ok [])

/-- What a row comes from: the names in the query stand for some channels. -/
private theorem allows_of_messages (hnamed : db.resolveChannelIds r.operators.channels = .ok named)
    {results : List SearchResult} (h : ((searchMessages r).run Database.answer db).1 = .ok results)
    {result : SearchResult} (hresult : result ∈ results) :
    ∃ m ∈ db.messages.toList, result.Shows m ∧ r.Allows named m.channelId := by
  rw [run_searchMessages] at h
  split at h
  · obtain rfl := Except.ok.inj h
    cases hresult
  · obtain ⟨q, hq, h⟩ := Outcome.bind_eq_ok.1 h
    obtain ⟨rows, hrows, hselected⟩ := Outcome.bind_eq_ok.1 h
    rw [messageLookupOn, channelIds_on, hnamed, lookedUp_ok, Outcome.ok_bind] at hq
    obtain ⟨senderIds, -, hq⟩ := Outcome.bind_eq_ok.1 hq
    obtain rfl := Except.ok.inj hq
    obtain ⟨row, hrow, hannotate⟩ := exists_row_of_mem_selected hselected hresult
    obtain ⟨m, hm, hfits, c, u, hread⟩ := Database.exists_of_mem_searchMessages (eq_ok_of_lookedUp hrows) hrow
    obtain ⟨⟨hamong, -, hfilter⟩, -⟩ := Database.messageFits_iff.1 hfits
    exact ⟨m, hm, shows_of_annotate hread hannotate, hamong, hfilter⟩

private theorem filesOn_eq (hnamed : db.resolveChannelIds r.operators.channels = .ok named) :
    r.filesOn db = lookedUp (r.messageIdsOn db named) >>= fun messageIds =>
      if messageIds = some [] then .ok [] else r.filesOfOn db messageIds := by
  rw [filesOn, channelIds_on, hnamed, lookedUp_ok, Outcome.ok_bind, filesIn_eq]

private theorem links_of_files (hkeyed : db.Keyed) (hanchored : db.Anchored)
    (hnamed : db.resolveChannelIds r.operators.channels = .ok named) (hnarrowed : r.IsNarrowed named)
    {results : List SearchResult} (h : ((searchFiles r).run Database.answer db).1 = .ok results)
    {result : SearchResult} (hresult : result ∈ results) :
    ∃ f ∈ db.files.toList, result.id = f.id ∧ ∃ m, r.Carries db named m ∧ f.messageId = some m.id ∧
      ∃ c ∈ db.channels.toList, c.id = m.channelId ∧ result.channel = some ⟨c.id, c.name⟩ := by
  rw [run_searchFiles] at h
  split at h
  · obtain rfl := Except.ok.inj h
    cases hresult
  rw [filesOn_eq hnamed] at h
  obtain ⟨messageIds, hids, h⟩ := Outcome.bind_eq_ok.1 h
  replace hids := eq_ok_of_lookedUp hids
  split at h
  · obtain rfl := Except.ok.inj h
    cases hresult
  obtain ⟨uploaderIds, -, h⟩ := Outcome.bind_eq_ok.1 h
  obtain ⟨rows, hrows, hselected⟩ := Outcome.bind_eq_ok.1 h
  obtain ⟨row, hrow, hannotate⟩ := exists_row_of_mem_selected hselected hresult
  obtain ⟨p, hp, hfits, hread⟩ := Database.exists_place_of_mem_searchFiles (eq_ok_of_lookedUp hrows) hrow
  -- as the request is narrowed, the file belongs to one of the messages that were looked up before
  cases messageIds with
  | none => exact absurd hnarrowed ((messageIdsOn_eq_none hids).1 rfl)
  | some ids =>
    obtain ⟨id, hid, hmem⟩ := (Database.fileFits_iff.1 hfits).1 ids rfl
    obtain ⟨m, hcarries, rfl⟩ := (mem_messageIdsOn hids).1 hmem
    obtain ⟨hmessage, c, hc, hmine, hchannel⟩ :=
      Database.channel_of_filesInPlace hkeyed hanchored hp hcarries.stored hid
    obtain ⟨t, size, -, rfl⟩ := Database.fileRow_eq_ok hread
    obtain ⟨hresultId, -, hresultChannel⟩ := annotate_eq_some hannotate
    refine ⟨p.file, (Database.mem_files_iff hkeyed).2 ⟨p, hp, rfl⟩, hresultId, m, hcarries, hid, c, hc, hmine, ?_⟩
    rw [hresultChannel, hmine]
    simp [FileRow.toResult, FileRow.channel, hmessage, hchannel]

/-! ### Files that are sought -/

section

variable {uploaderIds : List String} {f : Stored.File} (hordinary : r.Ordinary db uploaderIds)
  (hreach : r.InReach db named uploaderIds)

include hordinary in
private theorem ascii_fileName (hf : f ∈ db.files.toList) : ∀ c ∈ f.fileName.toList, Chars.isAscii c = true := by
  have htexts := hordinary.texts f hf
  rw [String.toList_append, List.all_append, Bool.and_eq_true] at htexts
  exact List.all_eq_true.1 htexts.1

include hordinary hreach

/-- The lookup of files lets a file through that is sought. -/
private theorem fits_of_seeks (hf : f ∈ db.files.toList) (hseeks : r.Seeks uploaderIds f)
    {messageIds : Option (List String)} (hlinked : ∀ ids ∈ messageIds, ∃ id ∈ f.messageId, id ∈ ids) :
    Database.fileFits (r.fileLookup messageIds uploaderIds) f = true := by
  obtain ⟨hname, htype⟩ := hreach.texts f hf
  obtain ⟨t, hstamp, hpasses⟩ := hseeks.passes
  have hplain : Text.Plain f.fileName :=
    fun c hc => ⟨ascii_fileName hordinary hf c hc, fun hnul => hname (hnul ▸ hc)⟩
  have hterms : ∀ term ∈ r.textMatch.exclude, Text.Plain term := by
    rw [exclude_textMatch]
    intro term hterm c hc
    have hascii := hordinary.query term (List.mem_append_left _ (List.mem_cons_of_mem _ hterm))
    exact ⟨List.all_eq_true.1 hascii c hc, fun hnul => hreach.exclude term hterm (hnul ▸ hc)⟩
  refine Database.fileFits_iff.2 ⟨hlinked, ⟨?_, ?_⟩, hseeks.uploader, ?_, hseeks.userFilter, ?_⟩
  · show (r.textMatch).findsIn _ = true
    rw [TextMatch.findsIn, needles_textMatch]
    cases hblank : Text.isBlank r.base with
    | true => rfl
    | false =>
      obtain ⟨text, htext, hoccurs⟩ := hseeks.text hblank
      have hmatch : [f.fileName, f.fileType].any (Like.isMatch (Like.containing text)) = true := by
        rcases hoccurs with hoccurs | hoccurs
        · simp [Like.isMatch_of_occurs hname hoccurs]
        · simp [Like.isMatch_of_occurs htype hoccurs]
      exact Bool.or_eq_true_iff.2 (.inr (List.any_eq_true.2 ⟨text, htext, hmatch⟩))
  · refine (TextMatch.sparesText_iff_spares hterms hplain).2 ?_
    show Spares r.textMatch.exclude f.fileName
    rw [exclude_textMatch]
    exact hpasses.spared
  · exact fun name hasked => Like.isMatch_of_occurs htype (hseeks.typeFilter name hasked)
  · -- bounds that the exact dates keep are kept on the scale of the database, where it holds them
    refine hstamp.isWithin_of_exact (fun bound hbound => ?_) (Condition.isWithin_iff.2
      ⟨forall_latestBound.2 (hpasses.after rfl), forall_earliestBound.2 (hpasses.before rfl)⟩)
    have hmem : bound ∈ r.dateBounds :=
      List.mem_append.2 (hbound.imp Option.mem_toList.2 Option.mem_toList.2)
    exact ⟨hreach.stamps (List.ne_nil_of_mem hmem) f hf t hstamp, hreach.bounds bound hmem⟩

/-- Files that may belong to any of some messages are all found. -/
private theorem exists_filesOfOn (hkeyed : db.Keyed) {messageIds : Option (List String)}
    (hmodest : Domain.isModest .files (r.fileLookup messageIds uploaderIds) = true) (hsome : messageIds ≠ some []) :
    ∃ results, r.filesOfOn db messageIds = .ok results ∧ ∀ f ∈ db.files.toList, r.Seeks uploaderIds f →
      (∀ ids ∈ messageIds, ∃ id ∈ f.messageId, id ∈ ids) → f.id ∈ results.map (·.id) := by
  have hread : ∀ f ∈ db.files.toList, (∃ t, f.createdAt.instant? = some t) ∧ f.fileSize.integer? ≠ none :=
    fun f hf => ⟨(hordinary.stamped f hf).imp fun t ht => ht.instant?_eq, hreach.sizes f hf⟩
  obtain ⟨rows, hrows, hiff⟩ :=
    Database.exists_searchFiles hkeyed hmodest hsome hordinary.offset hordinary.limit hread
  have hannotated : ∀ row ∈ rows, ∃ s, r.annotate row.fileName row.toResult = some s := by
    intro row hrow
    obtain ⟨p, hp, -, hread⟩ := (hiff row).1 hrow
    have hf := (Database.mem_files_iff hkeyed).2 ⟨p, hp, rfl⟩
    obtain ⟨t, size, -, rfl⟩ := Database.fileRow_eq_ok hread
    exact annotate_isSome (ascii_fileName hordinary hf) (hreach.room p.file hf) _
  obtain ⟨results, hresults, hids⟩ := exists_selected r.datedCondition hannotated
  refine ⟨results, ?_, fun f hf hseeks hlinked => (hids f.id).2 ?_⟩
  · rw [filesOfOn, senderIds_on, hordinary.uploaders, lookedUp_ok, Outcome.ok_bind, hrows, lookedUp_ok,
      Outcome.ok_bind]
    exact hresults
  · obtain ⟨p, hp, rfl⟩ := (Database.mem_files_iff hkeyed).1 hf
    obtain ⟨⟨t, ht⟩, hsize⟩ := hread p.file hf
    obtain ⟨row, hrow⟩ := Database.exists_fileRow ht hsize
    refine ⟨row, (hiff row).2 ⟨p, hp, fits_of_seeks hordinary hreach hf hseeks hlinked, hrow⟩, ?_⟩
    obtain ⟨u, hstamp, hpasses⟩ := hseeks.passes
    obtain ⟨v, size, hv, rfl⟩ := Database.fileRow_eq_ok hrow
    obtain rfl := Option.some.inj (hstamp.instant?_eq.symm.trans hv)
    exact ⟨rfl, holdsOf_conditionIn.2 hpasses⟩

private theorem exists_files (hkeyed : db.Keyed) (hnamed : db.resolveChannelIds r.operators.channels = .ok named) :
    ∃ results, ((searchFiles r).run Database.answer db).1 = .ok results ∧
      ∀ f ∈ db.files.toList, r.Seeks uploaderIds f → r.Links db named f → (results.map (·.id)).count f.id = 1 := by
  obtain ⟨messageIds, hids, hmodest⟩ := hreach.accepted
  have hrun : ((searchFiles r).run Database.answer db).1 =
      if messageIds = some [] then .ok [] else r.filesOfOn db messageIds := by
    rw [run_searchFiles, hordinary.criteria, filesOn_eq hnamed, hids, lookedUp_ok, Outcome.ok_bind]
    rfl
  -- a file that is linked belongs to one of the messages
  have hlinked : ∀ f, r.Links db named f → ∀ ids ∈ messageIds, ∃ id ∈ f.messageId, id ∈ ids := by
    rintro f ⟨m, hcarries, hid⟩ ids hmem
    obtain rfl : messageIds = some ids := hmem
    exact ⟨m.id, hid, (mem_messageIdsOn hids).2 ⟨m, hcarries, rfl⟩⟩
  rw [hrun]
  by_cases hnone : messageIds = some []
  · refine ⟨[], if_pos hnone, fun f _ _ hlinks => ?_⟩
    obtain ⟨id, -, hid⟩ := hlinked f hlinks [] hnone
    exact absurd hid List.not_mem_nil
  · obtain ⟨results, hresults, hfound⟩ := exists_filesOfOn hordinary hreach hkeyed hmodest hnone
    have hdistinct : Distinct .files results := by
      refine foundOn_distinct hkeyed (r := r) (d := .files) ?_
      rw [← run_searcher]
      exact hrun.trans ((if_neg hnone).trans hresults)
    refine ⟨results, (if_neg hnone).trans hresults, fun f hf hseeks hlinks => ?_⟩
    exact List.count_eq_one_of_mem hdistinct.ids (hfound f hf hseeks (hlinked f hlinks))

end

/-! ### Nothing to look up -/

private theorem not_looked_up (hnamed : db.resolveChannelIds r.operators.channels = .ok named)
    (hnarrowed : r.IsNarrowed named) (hnone : ∀ m, ¬r.Carries db named m) (q : FileLookup) :
    .searchFiles q ∉ (searchFiles r).trace Database.answer db := by
  unfold searchFiles
  split
  · exact List.not_mem_nil
  intro h
  rcases Attempt.mem_calls_of_bind (r.looks_channelIds db) h with h | ⟨ids, hids, h⟩
  · unfold channelIds at h
    split at h
    · cases h
    · cases List.mem_singleton.1 h
  rw [channelIds_on, hnamed] at hids
  obtain rfl := Except.ok.inj hids
  split at h
  · next hopen => exact channelRestriction_eq_none.1 hopen hnarrowed
  · cases h
  · next channelIds _ hsome =>
    rcases Attempt.mem_calls_of_bind (Attempt.looks_ask (c := .attachmentMessageIds _) rfl) h with
      h | ⟨messageIds, hids, h⟩
    · cases List.mem_singleton.1 h
    · rw [Attempt.on_ask (c := .attachmentMessageIds _) rfl] at hids
      have hempty : messageIds = [] := by
        refine List.eq_nil_iff_forall_not_mem.2 fun id hid => ?_
        obtain ⟨m, hm, hattached, hchannel, -⟩ := (Database.mem_attachmentMessageIds (eq_ok_of_lookedUp hids)).1 hid
        exact hnone m ⟨hm, hattached, (mem_channelRestriction hsome).1 hchannel⟩
      rw [hempty] at h
      cases h

private theorem nothing_found (hnamed : db.resolveChannelIds r.operators.channels = .ok named)
    (hnarrowed : r.IsNarrowed named) (hnone : ∀ m, ¬r.Carries db named m) :
    ((searchFiles r).run Database.answer db).1 = .ok [] ∨ StatementShape.valueLimit < named.length ∧
      ∃ e, ((searchFiles r).run Database.answer db).1 = .error (.failed (.database e)) := by
  rw [run_searchFiles]
  split
  · exact .inl rfl
  rw [filesOn_eq hnamed]
  cases hids : r.messageIdsOn db named with
  | error e => exact .inr ⟨messageIdsOn_eq_error hids, e, rfl⟩
  | ok messageIds =>
    left
    cases messageIds with
    | none => exact absurd hnarrowed ((messageIdsOn_eq_none hids).1 rfl)
    | some ids =>
      have hempty : ids = [] := by
        refine List.eq_nil_iff_forall_not_mem.2 fun id hid => ?_
        obtain ⟨m, hcarries, -⟩ := (mem_messageIdsOn hids).1 hid
        exact hnone m hcarries
      rw [hempty]
      rfl

/-- Messages and files are searched in the same channels, those that the names in the query and the filters allow. -/
theorem keepsToChannels (hkeyed : db.Keyed) (hanchored : db.Anchored)
    (hnamed : db.resolveChannelIds r.operators.channels = .ok named) : r.KeepsToChannels db named where
  messages _ _ h _ hresult := allows_of_messages hnamed h hresult
  files hnarrowed _ h _ hresult := links_of_files hkeyed hanchored hnamed hnarrowed h hresult
  complete _ hordinary hreach := exists_files hordinary hreach hkeyed hnamed
  quiet hnarrowed hnone := by
    refine ⟨not_looked_up hnamed hnarrowed hnone, ?_⟩
    rcases nothing_found hnamed hnarrowed hnone with h | ⟨hlong, e, h⟩
    · rw [h]
      exact ⟨rfl, fun _ => rfl⟩
    · rw [h]
      exact ⟨rfl, fun hshort => absurd hshort (by omega)⟩

/-! ### A channel that is named and asked for -/

private def midday : Instant := ⟨1704283200, 0, Instant.epoch.nanos_lt, by decide, by decide, by decide⟩

private theorem midday_storable : midday.Storable := ⟨⟨by decide_cbv, by decide_cbv, by decide⟩, by decide⟩

/-- Two channels with a file each, and a draft in the second. -/
private def mockups : Database where
  users := ⟨[⟨1, ⟨"u1", "ann", "", "", "", none, .integer 0, .text midday.toStored⟩⟩]⟩
  channels := ⟨[⟨1, ⟨"c1", "general", none, none, "public", .text midday.toStored⟩⟩,
    ⟨2, ⟨"c2", "design", none, none, "public", .text midday.toStored⟩⟩]⟩
  messages := ⟨[⟨1, ⟨"m1", "c1", "u1", "here", none, "text", some "f1", .text midday.toStored⟩⟩,
    ⟨2, ⟨"m2", "c2", "u1", "here", none, "text", some "f2", .text midday.toStored⟩⟩]⟩
  files := ⟨[⟨1, ⟨"f1", some "m1", some "u1", "mockup.png", "image/png", .integer 1, none, .text midday.toStored⟩⟩,
    ⟨2, ⟨"f2", some "m2", some "u1", "Mockup 2.png", "image/png", .integer 2, none, .text midday.toStored⟩⟩,
    ⟨3, ⟨"f3", some "m2", some "u1", "mockup draft", "image/png", .integer 3, none, .text midday.toStored⟩⟩]⟩

private def inDesign : Request where
  base := "mockup"
  operators := { channels := ["design"], senders := ["ann"], exclude := ["draft"], after := some midday }
  filters := { channelId := some "c2", fileType := some "PNG" }

private theorem stamped_mockups : ∀ f ∈ mockups.files.toList, f.createdAt.Stamps midday := by
  intro f hf
  simp only [mockups, Rows.toList, List.map_cons, List.map_nil, List.mem_cons, List.not_mem_nil, or_false] at hf
  rcases hf with rfl | rfl | rfl <;> exact ⟨midday_storable.toRegular, .inl rfl⟩

private theorem ordinary_inDesign : inDesign.Ordinary mockups ["u1"] where
  criteria := by decide
  uploaders := by decide_cbv
  query := by decide
  texts := by decide
  stamped f hf := ⟨midday, stamped_mockups f hf⟩
  bounds bound hbound := by
    obtain rfl : bound = midday := List.mem_singleton.1 hbound
    exact midday_storable.toRegular
  offset := rfl
  limit := by decide

private theorem inReach_inDesign : inDesign.InReach mockups ["c2"] ["u1"] where
  exclude := by decide
  texts := by decide
  bounds bound hbound := by
    obtain rfl : bound = midday := List.mem_singleton.1 hbound
    exact midday_storable
  stamps _ f hf t ht := ht.unique (stamped_mockups f hf) ▸ midday_storable
  sizes := by decide
  room := by decide
  accepted := ⟨some ["m2"], rfl, by decide_cbv⟩

private def mockup2 : Stored.File :=
  ⟨"f2", some "m2", some "u1", "Mockup 2.png", "image/png", .integer 2, none, .text midday.toStored⟩

/-- A file of the channel that is both named and asked for is found, and a draft is not sought. -/
theorem keepsToChannels_design :
    mockups.Keyed ∧ mockups.Anchored ∧ mockups.resolveChannelIds inDesign.operators.channels = .ok ["c2"] ∧
      inDesign.IsNarrowed ["c2"] ∧ inDesign.Ordinary mockups ["u1"] ∧ inDesign.InReach mockups ["c2"] ["u1"] ∧
      mockup2 ∈ mockups.files.toList ∧ inDesign.Seeks ["u1"] mockup2 ∧ inDesign.Links mockups ["c2"] mockup2 ∧
      inDesign.KeepsToChannels mockups ["c2"] := by
  have hkeyed : mockups.Keyed := ⟨by decide, by decide, by decide, by decide, by decide, by decide, by decide⟩
  have hanchored : mockups.Anchored := ⟨by decide, by decide⟩
  have hnamed : mockups.resolveChannelIds inDesign.operators.channels = .ok ["c2"] := by decide_cbv
  have hmem : mockup2 ∈ mockups.files.toList := by simp [mockups, Rows.toList, mockup2]
  refine ⟨hkeyed, hanchored, hnamed, .inl (by decide), ordinary_inDesign, inReach_inDesign, hmem, ?_, ?_,
    keepsToChannels hkeyed hanchored hnamed⟩
  · exact {
      text := fun _ => ⟨"mockup", by decide_cbv, .inl (by decide)⟩
      uploader := .inr ⟨"u1", rfl, by decide⟩
      userFilter := by simp [inDesign]
      typeFilter := fun name hname => by
        obtain rfl : "PNG" = name := Option.some.inj hname
        decide
      passes := ⟨midday, stamped_mockups _ hmem, by decide⟩ }
  · exact ⟨⟨"m2", "c2", "u1", "here", none, "text", some "f2", .text midday.toStored⟩,
      ⟨by simp [mockups, Rows.toList], by decide, .inr (by decide), by simp [inDesign]⟩, rfl⟩

/-! ### Out of reach -/

/-- The only file of a database, linked to the only message. -/
private def soleFile (name : String) (size : Scalar) (t : Instant) : Stored.File :=
  ⟨"f1", some "m1", some "u1", name, "", size, none, .text t.toStored⟩

private def linkedFile (name : String) (size : Scalar) (t : Instant) : Database where
  users := ⟨[⟨1, ⟨"u1", "ann", "", "", "", none, .integer 0, .text midday.toStored⟩⟩]⟩
  channels := ⟨[⟨1, ⟨"c1", "general", none, none, "public", .text midday.toStored⟩⟩]⟩
  messages := ⟨[⟨1, ⟨"m1", "c1", "u1", "here", none, "text", some "f1", .text midday.toStored⟩⟩]⟩
  files := ⟨[⟨1, soleFile name size t⟩]⟩

/-- A request for the files of the only channel. -/
private def inGeneral (base : String) (operators : Operators) (contextRadius : Nat) : Request :=
  { base, operators, filters := { channelId := some "c1" }, contextRadius }

/-- The identifiers of the files that are found, if the search does not fail. -/
private def foundFiles? (r : Request) (db : Database) : Option (List String) :=
  ((searchFiles r).run Database.answer db).1.toOption.map fun results => results.map (·.id)

/-- An ordinary search does not find a file that it seeks, once, although the file is linked to a message with an
attachment in the channel that the search is narrowed to. -/
private def Misses (r : Request) (db : Database) : Prop :=
  db.Keyed ∧ db.Anchored ∧ db.resolveChannelIds r.operators.channels = .ok [] ∧ r.IsNarrowed [] ∧ r.Ordinary db [] ∧
    ∃ f ∈ db.files.toList, r.Seeks [] f ∧ r.Links db [] f ∧
      ¬∃ results, ((searchFiles r).run Database.answer db).1 = .ok results ∧ (results.map (·.id)).count f.id = 1

/-- A request that seeks the only file: its conditions hold. -/
private structure SeeksSole (base : String) (operators : Operators) (contextRadius : Nat) (name : String)
    (t : Instant) : Prop where
  few : operators = { before := operators.before, after := operators.after, exclude := operators.exclude }
  asked : Text.isBlank base = false
  query : ∀ text ∈ base :: operators.exclude, text.toList.all Chars.isAscii = true
  ascii : name.toList.all Chars.isAscii = true
  regular : t.Regular
  bounds : ∀ bound ∈ operators.after.toList ++ operators.before.toList, bound.Regular
  text : Text.Occurs (Text.trim base) name
  passes : (inGeneral base operators contextRadius).Passes .files name t

private theorem dateBounds_inGeneral (base : String) (operators : Operators) (contextRadius : Nat) :
    (inGeneral base operators contextRadius).dateBounds = operators.after.toList ++ operators.before.toList := by
  unfold dateBounds Request.after Request.before inGeneral
  cases operators.after <;> cases operators.before <;> rfl

private theorem SeeksSole.misses {base name : String} {operators : Operators} {contextRadius : Nat} {size : Scalar}
    {t : Instant} (h : SeeksSole base operators contextRadius name t) {found : Option (List String)}
    (hfound : foundFiles? (inGeneral base operators contextRadius) (linkedFile name size t) = found)
    (hmissing : ∀ ids ∈ found, "f1" ∉ ids) :
    Misses (inGeneral base operators contextRadius) (linkedFile name size t) := by
  have hstamps : (soleFile name size t).createdAt.Stamps t := ⟨h.regular, .inl rfl⟩
  have hmem : ∀ f, f ∈ (linkedFile name size t).files.toList ↔ f = soleFile name size t := by
    simp [linkedFile, Rows.toList]
  refine ⟨by constructor <;> simp [linkedFile, Rows.toList], ?_, ?_, .inr (Option.some_ne_none _), ?_,
    soleFile name size t, (hmem _).2 rfl, ?_, ?_, ?_⟩
  · constructor <;> simp [linkedFile, Rows.toList, Database.hasChannel, Database.hasUser, Rows.any]
  · rw [inGeneral, h.few]
    rfl
  · exact {
      criteria := by
        rw [hasCriteria, hasText, inGeneral, h.asked]
        rfl
      uploaders := by
        rw [inGeneral, h.few]
        rfl
      query := fun text htext => h.query text (by simpa [inGeneral] using htext)
      texts := fun f hf => by
        rw [(hmem f).1 hf]
        simpa [soleFile] using h.ascii
      stamped := fun f hf => ⟨t, (hmem f).1 hf ▸ hstamps⟩
      bounds := fun bound hbound => h.bounds bound (dateBounds_inGeneral .. ▸ hbound)
      offset := rfl
      limit := by simp [linkedFile, Rows.toList, inGeneral] }
  · refine ⟨fun _ => ⟨Text.trim base, ?_, .inl h.text⟩, .inl rfl, by simp [inGeneral], by simp [inGeneral],
      t, hstamps, h.passes⟩
    rw [texts, inGeneral, h.few]
    exact List.mem_singleton.2 rfl
  · exact ⟨⟨"m1", "c1", "u1", "here", none, "text", some "f1", .text midday.toStored⟩,
      ⟨by simp [linkedFile, Rows.toList], Option.some_ne_none _, .inl rfl, by simp [inGeneral]⟩, rfl⟩
  · rintro ⟨results, hresults, hcount⟩
    rw [foundFiles?, hresults] at hfound
    replace hcount : (results.map (·.id)).count "f1" = 1 := hcount
    exact hmissing _ hfound.symm (List.count_pos_iff.1 (hcount ▸ Nat.one_pos))

/-- The files of the only message are looked up. -/
private theorem SeeksSole.foundFiles?_eq {base name : String} {operators : Operators} {contextRadius : Nat}
    {t : Instant} (h : SeeksSole base operators contextRadius name t) (size : Scalar) :
    foundFiles? (inGeneral base operators contextRadius) (linkedFile name size t) =
      ((lookedUp ((linkedFile name size t).searchFiles
          ((inGeneral base operators contextRadius).fileLookup (some ["m1"]) [])) >>=
        (inGeneral base operators contextRadius).selected (inGeneral base operators contextRadius).datedCondition
          FileRow.toResult FileRow.fileName).toOption).map fun results => results.map (·.id) := by
  have hcriteria : (inGeneral base operators contextRadius).hasCriteria = true := by
    rw [hasCriteria, hasText, inGeneral, h.asked]
    rfl
  have hnamed : (linkedFile name size t).resolveChannelIds (inGeneral base operators contextRadius).operators.channels =
      .ok [] := by
    rw [inGeneral, h.few]
    rfl
  have hsenders : (inGeneral base operators contextRadius).senderIds.on (linkedFile name size t) = .ok [] := by
    rw [senderIds_on, inGeneral, h.few]
    rfl
  have hids : (inGeneral base operators contextRadius).messageIdsOn (linkedFile name size t) [] =
      .ok (some ["m1"]) := by
    have hfound : (linkedFile name size t).attachmentMessageIds ["c1"] = .ok ["m1"] := by
      simp [Database.attachmentMessageIds, Database.guardLookup, fitsValues, StatementShape.valueLimit, linkedFile,
        Rows.toList]
    have hchannels : (inGeneral base operators contextRadius).channelRestriction [] = some ["c1"] := rfl
    simp only [messageIdsOn, hchannels, hfound]
    rfl
  have hsome : some ["m1"] ≠ some [] := by decide
  rw [foundFiles?, run_searchFiles, hcriteria, filesOn_eq hnamed, hids, lookedUp_ok, Outcome.ok_bind, if_neg hsome,
    filesOfOn, hsenders, Outcome.ok_bind]
  rfl

private def nearlyTenThousand : Instant := ⟨253402300799, 999500000, by decide, by decide, by decide, by decide⟩

private theorem nearlyTenThousand_regular : nearlyTenThousand.Regular :=
  ⟨by decide_cbv, by decide_cbv, by decide⟩

/-- Without bounds on the date only the texts have to be looked at. -/
private theorem SeeksSole.of_texts {base name : String} {operators : Operators} {contextRadius : Nat}
    (hfew : operators = { exclude := operators.exclude }) (hasked : Text.isBlank base = false)
    (hquery : ∀ text ∈ base :: operators.exclude, text.toList.all Chars.isAscii = true)
    (hascii : name.toList.all Chars.isAscii = true) (htext : Text.Occurs (Text.trim base) name)
    (hpasses : (inGeneral base operators contextRadius).Passes .files name midday) :
    SeeksSole base operators contextRadius name midday where
  few := by rw [hfew]
  asked := hasked
  query := hquery
  ascii := hascii
  regular := midday_storable.toRegular
  bounds := by
    rw [hfew]
    simp
  text := htext
  passes := hpasses

private theorem occurs_ab : Text.Occurs (Text.trim "ab") "ab" := by decide

/-- A NUL in an excluded term and in a name, dates at the end of the year 9999 as a bound and as the one of the file,
and nothing unusual, which leaves the size of the file and the context around a match. -/
private theorem seeksSole :
    SeeksSole "ab" { exclude := ["c\x00d"] } 50 "ab c" midday ∧ SeeksSole "b" {} 50 "a\x00b" midday ∧
      SeeksSole "ab" { before := some nearlyTenThousand } 50 "ab" midday ∧
      SeeksSole "ab" { after := some midday } 50 "ab" nearlyTenThousand ∧
      SeeksSole "ab" {} 50 "ab" midday ∧ SeeksSole "ab" {} (2 ^ (64 : Nat) - 1) "ab" midday := by
  refine ⟨.of_texts rfl (by decide) (by decide) (by decide) (by decide) (by decide),
    .of_texts rfl (by decide) (by decide) (by decide) (by decide) (by decide), ?lateBound, ?lateFile,
    .of_texts rfl (by decide) (by decide) (by decide) occurs_ab (by decide),
    .of_texts rfl (by decide) (by decide) (by decide) occurs_ab (by decide)⟩
  case lateBound =>
    exact ⟨rfl, by decide, by decide, by decide, midday_storable.toRegular,
      fun _ hbound => List.mem_singleton.1 hbound ▸ nearlyTenThousand_regular, occurs_ab, by decide⟩
  case lateFile =>
    exact ⟨rfl, by decide, by decide, by decide, nearlyTenThousand_regular,
      fun _ hbound => List.mem_singleton.1 hbound ▸ midday_storable.toRegular, occurs_ab, by decide⟩

private theorem found_sole :
    foundFiles? (inGeneral "ab" { exclude := ["c\x00d"] } 50) (linkedFile "ab c" (.integer 1) midday) = some [] ∧
      foundFiles? (inGeneral "b" {} 50) (linkedFile "a\x00b" (.integer 1) midday) = some [] ∧
      foundFiles? (inGeneral "ab" { before := some nearlyTenThousand } 50) (linkedFile "ab" (.integer 1) midday) =
        some [] ∧
      foundFiles? (inGeneral "ab" { after := some midday } 50) (linkedFile "ab" (.integer 1) nearlyTenThousand) =
        some [] ∧
      foundFiles? (inGeneral "ab" {} 50) (linkedFile "ab" (.real 1.5) midday) = none ∧
      foundFiles? (inGeneral "ab" {} (2 ^ (64 : Nat) - 1)) (linkedFile "ab" (.integer 1) midday) = none := by
  obtain ⟨excludedNul, nul, lateBound, lateFile, plain, wide⟩ := seeksSole
  rw [excludedNul.foundFiles?_eq, nul.foundFiles?_eq, lateBound.foundFiles?_eq, lateFile.foundFiles?_eq,
    plain.foundFiles?_eq, wide.foundFiles?_eq]
  simp only [Database.searchFiles_eq, Database.foundFiles_eq_insertionSort]
  decide +kernel

/-! A statement that excludes many terms is too deep. -/

private def manyTerms : Operators := { exclude := List.replicate 1000 "z" }

private theorem mem_manyTerms {term : String} (h : term ∈ manyTerms.exclude) : term = "z" := List.eq_of_mem_replicate h

private theorem seeks_manyTerms : SeeksSole "ab" manyTerms 50 "ab" midday := by
  refine .of_texts rfl (by decide) (fun text htext => ?_) (by decide) occurs_ab ?_
  · rcases List.mem_cons.1 htext with rfl | htext
    · decide
    · rw [mem_manyTerms htext]
      decide
  · have hnone : ∀ p : Instant → Prop, ∀ bound ∈ (none : Option Instant), p bound := by simp
    refine ⟨fun term hterm => ?_, fun _ => ⟨hnone _, hnone _⟩, fun _ => ⟨hnone _, hnone _⟩⟩
    rw [mem_manyTerms hterm]
    decide

private theorem found_manyTerms :
    foundFiles? (inGeneral "ab" manyTerms 50) (linkedFile "ab" (.integer 1) midday) = none := by
  have hfits : ((inGeneral "ab" manyTerms 50).fileLookup (some ["m1"]) []).shape.fits = false := by
    refine StatementShape.fits_eq_false ?_
    have hclauses := ((inGeneral "ab" manyTerms 50).fileLookup (some ["m1"]) []).text.length_excluded_le_clauses
      [columnDepth, columnDepth] columnDepth
    rw [TextMatch.length_excluded fun term hterm => by rw [mem_manyTerms hterm]; decide] at hclauses
    have hterms : ((inGeneral "ab" manyTerms 50).fileLookup (some ["m1"]) []).text.exclude.length = 1000 :=
      List.length_replicate
    simp only [FileLookup.shape, List.length_append, StatementShape.depthLimit, alwaysClause]
    omega
  rw [seeks_manyTerms.foundFiles?_eq, Database.searchFiles_eq, hfits]
  rfl

/-! Files of no message are found when the request is not narrowed. -/

private def anywhere : Request := { base := "ab" }

private def unlinkedFile : Database := { linkedFile "ab" (.integer 1) midday with messages := {} }

private theorem found_anywhere : foundFiles? anywhere unlinkedFile = some ["f1"] := by
  have hcriteria : anywhere.hasCriteria = true := by decide
  have hfiles : anywhere.filesOn unlinkedFile = (lookedUp (unlinkedFile.searchFiles (anywhere.fileLookup none [])) >>=
      anywhere.selected anywhere.datedCondition FileRow.toResult FileRow.fileName) := rfl
  rw [foundFiles?, run_searchFiles, hcriteria, hfiles, Database.searchFiles_eq, Database.foundFiles_eq_insertionSort]
  decide +kernel

/-- Each of the restrictions on an ordinary search of files is needed: without it the only file of a database is missed.
And a request that is not narrowed looks files up, and finds one, although no message has an attachment.  The size of a
byte and a half is what its column keeps of the numeral `1.5`. -/
theorem misses_file_out_of_reach :
    Misses (inGeneral "ab" { exclude := ["c\x00d"] } 50) (linkedFile "ab c" (.integer 1) midday) ∧
    Misses (inGeneral "b" {} 50) (linkedFile "a\x00b" (.integer 1) midday) ∧
    Misses (inGeneral "ab" { before := some nearlyTenThousand } 50) (linkedFile "ab" (.integer 1) midday) ∧
    Misses (inGeneral "ab" { after := some midday } 50) (linkedFile "ab" (.integer 1) nearlyTenThousand) ∧
    Misses (inGeneral "ab" {} 50) (linkedFile "ab" (.real 1.5) midday) ∧
    Misses (inGeneral "ab" {} (2 ^ (64 : Nat) - 1)) (linkedFile "ab" (.integer 1) midday) ∧
    Misses (inGeneral "ab" manyTerms 50) (linkedFile "ab" (.integer 1) midday) ∧
    (unlinkedFile.Keyed ∧ unlinkedFile.Anchored ∧
      unlinkedFile.resolveChannelIds anywhere.operators.channels = .ok [] ∧ (∀ m, ¬anywhere.Carries unlinkedFile [] m) ∧
      .searchFiles (anywhere.fileLookup none []) ∈ (searchFiles anywhere).trace Database.answer unlinkedFile ∧
      foundFiles? anywhere unlinkedFile = some ["f1"]) := by
  obtain ⟨excludedNul, nul, lateBound, lateFile, plain, wide⟩ := seeksSole
  obtain ⟨found_excludedNul, found_nul, found_lateBound, found_lateFile, found_size, found_wide⟩ := found_sole
  refine ⟨excludedNul.misses found_excludedNul ?_, nul.misses found_nul ?_, lateBound.misses found_lateBound ?_,
    lateFile.misses found_lateFile ?_, plain.misses found_size nofun, wide.misses found_wide nofun,
    seeks_manyTerms.misses found_manyTerms nofun,
    ⟨⟨by decide, by decide, by decide, by decide, by decide, by decide, by decide⟩, ⟨nofun, nofun⟩, rfl,
      fun m hm => List.not_mem_nil hm.stored, ?_, found_anywhere⟩⟩
  any_goals
    rintro ids hids
    obtain rfl := Option.some.inj hids
    exact List.not_mem_nil
  exact mem_trace_searchFiles (by decide) rfl rfl rfl

end Request

end WorkspaceSearch
