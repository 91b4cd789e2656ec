import WorkspaceSearch.Proofs.Search.Access
import WorkspaceSearch.Proofs.Search.Found
import WorkspaceSearch.Proofs.Search.Wanted

/-!
# Operators and filters together

A search of messages is narrowed twice, by the operators of its query and by the filters of its caller.  Every message
shown meets each of them, taken alone (`search_meetsEach`), whatever the database holds; so where an operator and a
filter contradict each other nothing is shown.  One pair is an exception: a filter for messages without an attachment
gives way to an operator that asks for one (`attachment_filter_overridden`).
-/

namespace WorkspaceSearch

open Query (names infix_of_mem_names)

/-- A result shows a message of the database. -/
structure SearchResult.Shows (result : SearchResult) (m : Stored.Message) : Prop where
  id : result.id = m.id
  content : result.content = m.content
  channel : result.channel.map (·.id) = some m.channelId
  author : result.author.map (·.id) = some m.senderId
  details : ∃ reactions, result.details = .message m.messageType m.attachmentId reactions
  time : m.createdAt.instant? = some result.timestamp

/-- The query asks for messages with an attachment. -/
def Operators.AsksAttachment (ops : Operators) : Prop := .file ∈ ops.has ∨ .attachment ∈ ops.has

/-- A message of some time meets the query and the filters of a search, each operator and each filter taken alone, the
filter for messages without an attachment aside.  Names that stand for nobody restrict nothing. -/
structure MeetsEach (db : Database) (p : ParsedQuery) (o : SearchOptions) (m : Stored.Message) (t : Instant) :
    Prop where
  text : Text.isBlank p.base = false → ∃ text ∈ p.texts,
    Like.isMatch (Like.containing text) m.content = true ∨
      Like.isMatch (Like.containing text) (m.formattedContent.getD "") = true
  inChannels : ∀ ids, db.resolveChannelIds p.operators.channels = .ok ids → ids ≠ [] → m.channelId ∈ ids
  fromSenders : ∀ ids, db.resolveUserIds p.operators.senders = .ok ids → ids ≠ [] → m.senderId ∈ ids
  hasAttachment : p.operators.AsksAttachment → m.attachmentId ≠ none
  hasLink : .link ∈ p.operators.has → Text.Occurs "http" m.content
  hasReaction : .reaction ∈ p.operators.has → ∃ reaction ∈ db.reactions.toList, reaction.messageId = m.id
  after : ∀ bound ∈ p.operators.after, bound ≤ t
  before : ∀ bound ∈ p.operators.before, t ≤ bound
  exclude : ∀ term ∈ p.operators.exclude, ¬Chars.lower term.toList <:+: Chars.lower m.content.toList
  visible : ∀ ids ∈ o.userChannelIds, m.channelId ∈ ids
  channelFilter : ∀ id ∈ o.filters.channelId, m.channelId = id
  userFilter : ∀ id ∈ o.filters.userId, m.senderId = id
  typeFilter : ∀ name ∈ o.filters.messageType, m.messageType = name
  attachmentFilter : o.filters.hasAttachment = some true → m.attachmentId ≠ none
  dateFrom : ∀ bound ∈ o.filters.dateFrom, bound ≤ t
  dateTo : ∀ bound ∈ o.filters.dateTo, t ≤ bound

/-- The filter for messages without an attachment is met unless the query asks for one. -/
def UnattachedUnlessAsked (p : ParsedQuery) (o : SearchOptions) (m : Stored.Message) : Prop :=
  o.filters.hasAttachment = some false → (m.attachmentId = none ↔ ¬p.operators.AsksAttachment)

/-! ### Rows -/

/-- The result of a row shows its message. -/
theorem Request.shows_of_annotate {r : Request} {db : Database} {m : Stored.Message} {c : Stored.Channel}
    {u : Stored.User} {row : MessageRow} (hrow : db.messageRow m c u = .ok row) {primary : String}
    {result : SearchResult} (h : r.annotate primary row.toResult = some result) : result.Shows m := by
  obtain ⟨t, ht, rfl⟩ := Database.messageRow_eq_ok hrow
  obtain ⟨score, highlights, context, rfl⟩ := Request.exists_of_annotate h
  exact ⟨rfl, rfl, rfl, rfl, ⟨_, rfl⟩, ht⟩

/-! ### Restrictions -/

namespace SearchService

variable {settings : SearchSettings} {o : SearchOptions} {db : Database} {channelIds senderIds : List String}
  {m : Stored.Message} {t : Instant}

private theorem isMatch_of_findsIn
    (h : (request settings o).textMatch.findsIn [m.content, m.formattedContent.getD ""] = true)
    (hblank : Text.isBlank (ParsedQuery.ofText o.query).base = false) :
    ∃ text ∈ (ParsedQuery.ofText o.query).texts, Like.isMatch (Like.containing text) m.content = true ∨
      Like.isMatch (Like.containing text) (m.formattedContent.getD "") = true := by
  rw [TextMatch.findsIn, needles_request, hblank, if_neg Bool.false_ne_true, Bool.or_eq_true, List.isEmpty_iff,
    List.any_eq_true] at h
  rcases h with hnone | ⟨text, htext, hfound⟩
  · -- a query that is not blank has texts to look for
    unfold ParsedQuery.texts ParsedQuery.terms at hnone
    split at hnone
    · exact absurd (Text.words_eq_nil_iff.1 hnone) (by rw [hblank]; exact Bool.false_ne_true)
    · cases hnone
  · simp only [List.any_cons, List.any_nil, Bool.or_false, Bool.or_eq_true] at hfound
    exact ⟨text, htext, hfound⟩

private theorem excluded_of_holds (h : (request settings o).datedCondition.holdsOf m.content t = true) :
    (∀ term ∈ (ParsedQuery.ofText o.query).operators.exclude,
      ¬Chars.lower term.toList <:+: Chars.lower m.content.toList) ∧
    Condition.isWithin (request settings o).after (request settings o).before t = true := by
  rw [Request.datedCondition, Condition.holdsOf_between, Condition.holdsOf_excluding, Condition.holdsOf, Bool.true_and,
    Bool.and_eq_true, Bool.not_eq_true'] at h
  refine ⟨fun term hterm => ?_, h.2⟩
  have hname : term ∈ names (ParsedQuery.ofText o.query).operators := List.mem_append_right _ hterm
  obtain ⟨hne, hsolid, -⟩ := infix_of_mem_names hname
  exact Condition.not_infix_of_mentionsAny h.1 hterm ⟨hne, hsolid⟩

/-- A message that passes the lookup and the condition on its result meets each restriction. -/
private theorem meetsEach_of_fits (hchannels : db.resolveChannelIds (ParsedQuery.ofText o.query).operators.channels =
      .ok channelIds) (hsenders : db.resolveUserIds (ParsedQuery.ofText o.query).operators.senders = .ok senderIds)
    (hfits : db.messageFits ((request settings o).messageLookup channelIds senderIds) m = true)
    (hholds : (request settings o).datedCondition.holdsOf m.content t = true) :
    MeetsEach db (ParsedQuery.ofText o.query) o m t ∧ UnattachedUnlessAsked (ParsedQuery.ofText o.query) o m := by
  have hasked : ((request settings o).messageLookup channelIds senderIds).requireAttachment = true ↔
      (ParsedQuery.ofText o.query).operators.AsksAttachment := wantsAttachment_iff
  -- the lookup takes care of all restrictions but the excluded terms and the exact dates
  rw [Database.messageFits_iff, Database.attachmentFits_iff, hasked] at hfits
  obtain ⟨⟨hnamed, hvisible, hchannel⟩, ⟨hfrom, huser⟩, ⟨hfound, -⟩, htype, ⟨hattached, hunattached⟩, hlink,
    hreaction, -⟩ := hfits
  obtain ⟨hexclude, hwithin⟩ := excluded_of_holds hholds
  obtain ⟨⟨hafter, hfirst⟩, hbefore, hlast⟩ := (isWithin_request_iff settings).1 hwithin
  refine ⟨?_, fun hnone => ⟨fun hm hasks => hattached (.inl hasks) hm, fun hasks => hunattached hasks hnone⟩⟩
  exact {
    text := isMatch_of_findsIn hfound
    inChannels := fun ids hids hne => by
      obtain rfl := Except.ok.inj (hchannels.symm.trans hids)
      exact hnamed.resolve_left hne
    fromSenders := fun ids hids hne => by
      obtain rfl := Except.ok.inj (hsenders.symm.trans hids)
      exact hfrom.resolve_left hne
    hasAttachment := fun hasks => hattached (.inl hasks)
    hasLink := fun hasks => Database.occurs_of_hasLink (hlink (List.contains_iff_mem.2 hasks))
    hasReaction := fun hasks => hreaction (List.contains_iff_mem.2 hasks)
    after := hafter
    before := hbefore
    exclude := hexclude
    visible := hvisible
    channelFilter := hchannel
    userFilter := huser
    typeFilter := htype
    attachmentFilter := fun hasks => hattached (.inr hasks)
    dateFrom := hfirst
    dateTo := hlast }

/-- Every message that is found meets each restriction. -/
private theorem exists_shown {found : List SearchResult}
    (h : ((searchMessages (request settings o)).run Database.answer db).1 = .ok found) {result : SearchResult}
    (hresult : result ∈ found) :
    ∃ m ∈ db.messages.toList, result.Shows m ∧ MeetsEach db (ParsedQuery.ofText o.query) o m result.timestamp ∧
      UnattachedUnlessAsked (ParsedQuery.ofText o.query) o m := by
  rw [Request.run_searchMessages] at h
  split at h
  · obtain rfl := Except.ok.inj h
    cases hresult
  · obtain ⟨q, hq, hlooked⟩ := Outcome.bind_eq_ok.1 h
    obtain ⟨channelIds, hchannels, hq⟩ := Outcome.bind_eq_ok.1 hq
    obtain ⟨senderIds, hsenders, hq⟩ := Outcome.bind_eq_ok.1 hq
    obtain rfl := Except.ok.inj hq
    obtain ⟨rows, hrows, hselected⟩ := Outcome.bind_eq_ok.1 hlooked
    rw [Request.channelIds_on] at hchannels
    rw [Request.senderIds_on] at hsenders
    obtain ⟨row, hrow, hannotate⟩ := Request.exists_row_of_mem_selected hselected hresult
    obtain ⟨m, hm, hfits, c, u, hread⟩ := Database.exists_of_mem_searchMessages (eq_ok_of_lookedUp hrows) hrow
    have hshows := Request.shows_of_annotate hread hannotate
    have hholds := Request.holds_of_mem_selected hselected hresult
    rw [Condition.holds, hshows.content] at hholds
    exact ⟨m, hm, hshows,
      meetsEach_of_fits (eq_ok_of_lookedUp hchannels) (eq_ok_of_lookedUp hsenders) hfits hholds⟩

/-- Every result of a search of messages shows a message that meets each operator of the query and each filter, taken
alone; only a filter for messages without an attachment gives way to an operator that asks for one.  So a search shows
and counts nothing when no message meets them all. -/
theorem search_meetsEach (hscope : o.scope = .only .messages) (settings : SearchSettings) (cancelled : Bool) (id : Uuid)
    (now : Instant) {response : SearchResponse} (h : outcomeOn settings o cancelled id now db = .ok response) :
    (∀ result ∈ response.results, ∃ m ∈ db.messages.toList, result.Shows m ∧
      MeetsEach db (ParsedQuery.ofText o.query) o m result.timestamp ∧
      UnattachedUnlessAsked (ParsedQuery.ofText o.query) o m) ∧
    ((∀ m ∈ db.messages.toList, ∀ t, m.createdAt.instant? = some t →
        ¬MeetsEach db (ParsedQuery.ofText o.query) o m t) →
      response.results = [] ∧ response.total = 0) := by
  obtain ⟨found, hfound, rfl⟩ := exists_page hscope h
  have hshown : ∀ result ∈ found, ∃ m ∈ db.messages.toList, result.Shows m ∧
      MeetsEach db (ParsedQuery.ofText o.query) o m result.timestamp ∧
      UnattachedUnlessAsked (ParsedQuery.ofText o.query) o m :=
    fun result hresult => exists_shown (eq_ok_of_degrade hfound hresult) hresult
  refine ⟨fun result hresult => hshown result (mem_of_mem_page hresult), fun hnone => ?_⟩
  have hempty : found = [] := by
    refine List.eq_nil_iff_forall_not_mem.2 fun result hresult => ?_
    obtain ⟨m, hm, hshows, hmeets, -⟩ := hshown result hresult
    exact hnone m hm _ hshows.time hmeets
  rw [hempty]
  exact ⟨by simp [page, sortResults], rfl⟩

/-! ### Contradictions -/

/-- Two users, and a message of the first with an attachment. -/
private def attachedRows : Database where
  users := ⟨[⟨1, ⟨"u1", "ann", "", "", "", none, .integer 0, .text "2024-01-01 00:00:00"⟩⟩,
    ⟨2, ⟨"u2", "bob", "", "", "", none, .integer 0, .text "2024-01-01 00:00:00"⟩⟩]⟩
  channels := ⟨[⟨1, ⟨"c1", "general", none, none, "public", .text "2024-01-01 00:00:00"⟩⟩]⟩
  messages := ⟨[⟨1, ⟨"m1", "c1", "u1", "report", none, "text", some "f1", .text "2024-01-02 00:00:00"⟩⟩]⟩

private def fromAnnOfBob : SearchOptions where
  query := "report from:ann"
  filters := { userId := some "u2" }
  scope := .only .messages
  userId := "u1"

private def fileWithoutAttachment : SearchOptions where
  query := "report has:file"
  filters := { hasAttachment := some false }
  scope := .only .messages
  userId := "u1"

private theorem parsed_fromAnn :
    ParsedQuery.ofText "report from:ann" = { base := "report", operators := { senders := ["ann"] } } := by
  decide_cbv

private def summary (o : SearchOptions) : Option (List Details × Nat) :=
  ((outcomeOn {} o false default .epoch attachedRows).map fun response =>
    (response.results.map (·.details), response.total)).toOption

private theorem exists_of_summary {o : SearchOptions} {details : List Details} {total : Nat}
    (h : summary o = some (details, total)) :
    ∃ response, outcomeOn {} o false default .epoch attachedRows = .ok response ∧
      response.results.map (·.details) = details ∧ response.total = total := by
  unfold summary at h
  cases houtcome : outcomeOn {} o false default .epoch attachedRows with
  | error e => rw [houtcome] at h; cases h
  | ok response =>
    rw [houtcome] at h
    cases h
    exact ⟨response, rfl, rfl, rfl⟩

private theorem summary_attached :
    summary fromAnnOfBob = some ([], 0) ∧
      summary fileWithoutAttachment = some ([.message "text" (some "f1") 0], 1) := by
  decide +kernel

/-- Messages from one user, with a filter for another: nothing is shown. -/
theorem search_meetsEach_two_senders :
    ∃ response, outcomeOn {} fromAnnOfBob false default .epoch attachedRows = .ok response ∧
      response.results = [] ∧ response.total = 0 := by
  obtain ⟨response, hresponse, -, -⟩ := exists_of_summary summary_attached.1
  refine ⟨response, hresponse, (search_meetsEach rfl {} false default .epoch hresponse).2 fun m _ t _ hmeets => ?_⟩
  have hsenders : attachedRows.resolveUserIds ["ann"] = .ok ["u1"] := by decide_cbv
  have hsender := hmeets.fromSenders ["u1"] (by rw [fromAnnOfBob, parsed_fromAnn]; exact hsenders) (by decide)
  have huser := hmeets.userFilter "u2" rfl
  rw [huser] at hsender
  revert hsender
  decide

/-- A search for messages with a file shows one, although its filter asks for messages without an attachment. -/
theorem attachment_filter_overridden :
    fileWithoutAttachment.filters.hasAttachment = some false ∧
    ∃ response, outcomeOn {} fileWithoutAttachment false default .epoch attachedRows = .ok response ∧
      response.results.map (·.details) = [.message "text" (some "f1") 0] ∧ response.total = 1 :=
  ⟨rfl, exists_of_summary summary_attached.2⟩

end SearchService

end WorkspaceSearch
