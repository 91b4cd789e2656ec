import Mathlib.Data.List.Perm.Subperm
import WorkspaceSearch.Proofs.Relevance.Annotation
import WorkspaceSearch.Proofs.Search.Access
import WorkspaceSearch.Proofs.Search.Found
import WorkspaceSearch.Proofs.Search.Wanted

/-!
# A search of messages is complete

A search of messages that asks for something, on a page that has room for all messages, finds the wanted messages and
no others, each of them once (`SearchService.findsWanted`).  The messages are plain texts with timestamps, and the
search keeps to the limits of the database (`SearchService.Ordinary`, `SearchService.InReach`).
-/

namespace WorkspaceSearch

/-! ### Searches -/

/-- Messages of plain texts, with timestamps. -/
structure Database.PlainMessages (db : Database) : Prop where
  content : ∀ m ∈ db.messages.toList, Text.Plain m.content
  formatted : ∀ m ∈ db.messages.toList, ∀ text ∈ m.formattedContent, Text.Plain text
  stamped : ∀ m ∈ db.messages.toList, ∃ t, m.createdAt.Stamps t

namespace SearchService

/-- A search of plain messages that asks for something, on a page that has room for all of them; its patterns and the
number of its values stay within the limits of the database.  The names of channels and senders in the query stand for
some identifiers. -/
structure Ordinary (settings : SearchSettings) (o : SearchOptions) (db : Database)
    (channelIds senderIds : List String) : Prop where
  keyed : db.Keyed
  anchored : db.Anchored
  messages : db.PlainMessages
  valid : o.validate = .ok ()
  scope : o.scope = .only .messages
  offset : o.offset = 0
  limit : db.messages.toList.length ≤ o.limit
  ascii : ∀ c ∈ o.query.toList, Chars.isAscii c = true
  bounds : ∀ bound ∈ o.dateBounds, bound.Regular
  channels : db.resolveChannelIds (ParsedQuery.ofText o.query).operators.channels = .ok channelIds
  senders : db.resolveUserIds (ParsedQuery.ofText o.query).operators.senders = .ok senderIds
  patterns : ((request settings o).messageLookup channelIds senderIds).text.hasLongPattern = false
  values : ((request settings o).messageLookup channelIds senderIds).shape.values ≤ StatementShape.valueLimit
  asked : Text.isBlank (ParsedQuery.ofText o.query).base = false ∨
    (ParsedQuery.ofText o.query).operators.isUnrestricted = false

/-- What such a search has to keep to besides: no NUL in the texts looked for, a statement that is not too deep, dates
that are not rounded out of the scale of Julian days where dates are compared, and messages that can all be fetched and
leave room for the context around a match. -/
structure InReach (settings : SearchSettings) (o : SearchOptions) (db : Database)
    (channelIds senderIds : List String) : Prop where
  base : '\x00' ∉ (ParsedQuery.ofText o.query).base.toList
  exclude : ∀ term ∈ (ParsedQuery.ofText o.query).operators.exclude, '\x00' ∉ term.toList
  depth : ((request settings o).messageLookup channelIds senderIds).shape.depth ≤ StatementShape.depthLimit
  bounds : ∀ bound ∈ o.dateBounds, bound.Storable
  stamps : o.dateBounds ≠ [] → ∀ m ∈ db.messages.toList, ∀ t, m.createdAt.Stamps t → t.Storable
  window : db.messages.toList.length ≤ largestWindow
  room : ∀ m ∈ db.messages.toList, m.content.toList.length + settings.contextRadius.toNat < Relevance.wordSize

/-- A search finds the messages that are wanted and no others, each of them once. -/
def FindsWanted (settings : SearchSettings) (o : SearchOptions) (db : Database) (channelIds senderIds : List String)
    (id : Uuid) (now : Instant) : Prop :=
  ∃ response, outcomeOn settings o false id now db = .ok response ∧ response.total = response.results.length ∧
    (response.results.map (·.id)).Nodup ∧ ∀ messageId, messageId ∈ response.results.map (·.id) ↔
      ∃ m ∈ db.messages.toList, m.id = messageId ∧ Wanted db (ParsedQuery.ofText o.query) o channelIds senderIds m

variable {settings : SearchSettings} {o : SearchOptions} {db : Database} {channelIds senderIds : List String}

/-- The first page holds all results. -/
private theorem results_page {merged : List SearchResult} (hoffset : o.offset = 0) (hlimit : merged.length ≤ o.limit) :
    (page o merged).results = sortResults o.sortBy o.sortOrder merged := by
  rw [page, hoffset, Int.toNat_zero, List.drop_zero, List.take_of_length_le]
  rw [sortResults, List.length_mergeSort]
  omega

namespace Ordinary

variable (h : Ordinary settings o db channelIds senderIds)

include h

private theorem hasCriteria : (request settings o).hasCriteria = true := by
  have hcriteria : (request settings o).hasCriteria = (!Text.isBlank (ParsedQuery.ofText o.query).base ||
    !(ParsedQuery.ofText o.query).operators.isUnrestricted) := rfl
  rw [hcriteria, Bool.or_eq_true, Bool.not_eq_true', Bool.not_eq_true']
  exact h.asked

private theorem messageLookupOn_eq :
    (request settings o).messageLookupOn db = .ok ((request settings o).messageLookup channelIds senderIds) := by
  have hchannels : (request settings o).channelIds.on db = .ok channelIds :=
    ((request settings o).channelIds_on db).trans (congrArg lookedUp h.channels)
  have hsenders : (request settings o).senderIds.on db = .ok senderIds :=
    ((request settings o).senderIds_on db).trans (congrArg lookedUp h.senders)
  rw [Request.messageLookupOn, hchannels, hsenders]
  rfl

/-- The search comes to what is found of messages. -/
private theorem outcomeOn_eq (id : Uuid) (now : Instant) :
    outcomeOn settings o false id now db = (degrade ((request settings o).foundOn db .messages)).map (page o) := by
  rw [outcomeOn_only h.scope, h.valid, Request.run_searcher]
  rfl

variable (hreach : InReach settings o db channelIds senderIds)

include hreach

private theorem accepted : ((request settings o).messageLookup channelIds senderIds).Accepted where
  shape := Bool.and_eq_true_iff.2 ⟨decide_eq_true hreach.depth, decide_eq_true h.values⟩
  patterns := h.patterns

private theorem length_le_limit :
    db.messages.toList.length ≤ ((request settings o).messageLookup channelIds senderIds).limit := by
  have hlimit := h.limit
  have hoffset := h.offset
  have hwindow := hreach.window
  show _ ≤ fetchLimit settings o
  simp only [fetchLimit]
  omega

/-- What is found of messages are the wanted ones. -/
private theorem exists_messagesOn (hvisible : o.userChannelIds ≠ some []) :
    ∃ results, (request settings o).messagesOn db = .ok results ∧ ∀ id, id ∈ results.map (·.id) ↔
      ∃ m ∈ db.messages.toList, m.id = id ∧
        Wanted db (ParsedQuery.ofText o.query) o channelIds senderIds m := by
  have hread : ∀ m ∈ db.messages.toList, ∃ t, m.createdAt.instant? = some t := fun m hm =>
    (h.messages.stamped m hm).imp fun t ht => ht.instant?_eq
  obtain ⟨rows, hrows, hsound, hcomplete⟩ := Database.exists_searchMessages h.keyed h.anchored (h.accepted hreach)
    hvisible rfl (h.length_le_limit hreach) hread
  have hannotated : ∀ row ∈ rows, ∃ s, (request settings o).annotate row.content row.toResult = some s := by
    intro row hrow
    obtain ⟨m, hm, -, hof⟩ := hsound row hrow
    rw [hof.content]
    exact Request.annotate_isSome (fun c hc => (h.messages.content m hm c hc).1) (hreach.room m hm) _
  obtain ⟨results, hresults, hids⟩ := Request.exists_selected (request settings o).datedCondition hannotated
  -- lookup and condition together let a message through exactly if it is wanted
  have hwanted : ∀ m ∈ db.messages.toList, ∀ t, m.createdAt.Stamps t →
      (Wanted db (ParsedQuery.ofText o.query) o channelIds senderIds m ↔
        db.messageFits ((request settings o).messageLookup channelIds senderIds) m = true ∧
          (request settings o).datedCondition.holdsOf m.content t = true) := fun m hm t ht =>
    wanted_iff ⟨h.ascii, hreach.base, hreach.exclude⟩ hreach.bounds (h.messages.content m hm)
      (h.messages.formatted m hm) ht fun hne => hreach.stamps hne m hm t ht
  refine ⟨results, ?_, fun id => (hids id).trans ⟨?_, ?_⟩⟩
  · rw [Request.messagesOn, h.messageLookupOn_eq, Outcome.ok_bind, hrows, lookedUp_ok, Outcome.ok_bind]
    exact hresults
  · rintro ⟨row, hrow, rfl, hholds⟩
    obtain ⟨m, hm, hfits, hof⟩ := hsound row hrow
    obtain ⟨t, ht⟩ := h.messages.stamped m hm
    exact ⟨m, hm, hof.id.symm, (hwanted m hm t ht).2 ⟨hfits, (hof.holds_toResult ht _).symm.trans hholds⟩⟩
  · rintro ⟨m, hm, rfl, hw⟩
    obtain ⟨t, ht⟩ := h.messages.stamped m hm
    obtain ⟨hfits, hholds⟩ := (hwanted m hm t ht).1 hw
    obtain ⟨row, hrow, hof⟩ := hcomplete m hm hfits
    exact ⟨row, hrow, hof.id, (hof.holds_toResult ht _).trans hholds⟩

/-- What the searcher of messages comes to are the wanted ones, also for a user without any channel. -/
private theorem exists_foundOn :
    ∃ results, (request settings o).foundOn db .messages = .ok results ∧ ∀ id, id ∈ results.map (·.id) ↔
      ∃ m ∈ db.messages.toList, m.id = id ∧
        Wanted db (ParsedQuery.ofText o.query) o channelIds senderIds m := by
  have hchannels : (request settings o).userChannelIds = o.userChannelIds := rfl
  rw [Request.foundOn, h.hasCriteria, hchannels]
  by_cases hvisible : o.userChannelIds = some []
  · refine ⟨[], if_pos (by simp [hvisible]), fun id => iff_of_false List.not_mem_nil ?_⟩
    rintro ⟨m, -, -, hw⟩
    exact List.not_mem_nil (hw.visible [] hvisible)
  · rw [if_neg (by simp [hvisible])]
    exact h.exists_messagesOn hreach hvisible

end Ordinary

/-- An ordinary search in reach of the database finds exactly the wanted messages. -/
theorem findsWanted (h : Ordinary settings o db channelIds senderIds)
    (hreach : InReach settings o db channelIds senderIds) (id : Uuid) (now : Instant) :
    FindsWanted settings o db channelIds senderIds id now := by
  obtain ⟨merged, hmerged, hids⟩ := h.exists_foundOn hreach
  have hnodup := (Request.foundOn_distinct h.keyed hmerged).ids
  have hlength : merged.length ≤ db.messages.toList.length := by
    have hsubset : merged.map (·.id) ⊆ db.messages.toList.map (·.id) := by
      intro messageId hmem
      obtain ⟨m, hm, rfl, -⟩ := (hids messageId).1 hmem
      exact List.mem_map_of_mem hm
    simpa using (List.subperm_of_subset hnodup hsubset).length_le
  have hlimit := h.limit
  have hpage := results_page h.offset (by omega : (merged.length : Int) ≤ o.limit)
  have hperm : ((page o merged).results.map (·.id)).Perm (merged.map (·.id)) := by
    rw [hpage]
    exact (List.mergeSort_perm _ _).map _
  refine ⟨page o merged, ?_, ?_, hperm.nodup_iff.2 hnodup, fun messageId => hperm.mem_iff.trans (hids messageId)⟩
  · rw [h.outcomeOn_eq, hmerged]
    rfl
  · have hsame := hperm.length_eq
    rw [List.length_map, List.length_map] at hsame
    exact hsame.symm

/-! ### A search with many conditions -/

private def instantOf (seconds : Int) (nanos : Nat)
    (h : -8334601228800 ≤ seconds ∧ seconds ≤ 8210266876799 ∧ nanos < 2000000000 ∧
      (1000000000 ≤ nanos → seconds % 60 = 59)) : Instant :=
  ⟨seconds, nanos, h.2.2.1, h.2.2.2, h.1, h.2.1⟩

private def newYear : Instant := instantOf 1704067200 0 (by decide)

private def february : Instant := instantOf 1706745600 250000000 (by decide)

/-- The first moment that is rounded into the year 10000. -/
private def nearlyOver : Instant := instantOf 253402300799 999500000 (by decide)

private theorem years : newYear.date.year = 2024 ∧ february.date.year = 2024 ∧ nearlyOver.date.year = 9999 := by
  decide +kernel

private theorem newYear_storable : newYear.Storable :=
  ⟨⟨years.1 ▸ by decide, years.1 ▸ by decide, by decide⟩, by decide⟩

private theorem february_storable : february.Storable :=
  ⟨⟨years.2.1 ▸ by decide, years.2.1 ▸ by decide, by decide⟩, by decide⟩

private def reportRows : Database where
  users := ⟨[⟨1, ⟨"u1", "ann", "", "", "", none, .integer 0, .text newYear.toDefaultStamp⟩⟩,
    ⟨2, ⟨"u2", "bob", "", "", "", none, .integer 0, .text newYear.toDefaultStamp⟩⟩]⟩
  channels := ⟨[⟨1, ⟨"c1", "general", none, none, "public", .text newYear.toDefaultStamp⟩⟩,
    ⟨2, ⟨"c2", "random", none, none, "public", .text newYear.toDefaultStamp⟩⟩]⟩
  messages := ⟨[⟨1, ⟨"m1", "c1", "u1", "Quarterly numbers", none, "text", some "f1", .text february.toStored⟩⟩,
    ⟨2, ⟨"m2", "c1", "u1", "a draft report", none, "text", some "f2", .text february.toStored⟩⟩,
    ⟨3, ⟨"m3", "c2", "u2", "the report", some "<b>the report</b>", "text", none, .text newYear.toDefaultStamp⟩⟩]⟩

private def reportOptions : SearchOptions where
  query := "quarterly OR report from:ann in:general has:file -draft after:2024-01-01"
  filters := { messageType := some "text", dateTo := some february }
  scope := .only .messages
  userId := "u1"
  userChannelIds := some ["c1", "c2"]

private theorem parsed_report :
    ParsedQuery.ofText reportOptions.query =
      { base := "quarterly report"
        operators := { senders := ["ann"], channels := ["general"], has := [.file], after := some newYear
                       exclude := ["draft"], matchAny := true } } := by
  decide +kernel

private theorem request_report :
    request {} reportOptions =
      { base := "quarterly report"
        operators := { senders := ["ann"], channels := ["general"], has := [.file], after := some newYear
                       exclude := ["draft"], matchAny := true }
        filters := { messageType := some "text", dateTo := some february }
        userId := "u1"
        userChannelIds := some ["c1", "c2"] } := by
  simp only [request, parsed_report]
  rfl

private theorem stamped_report : ∀ m ∈ reportRows.messages.toList, ∃ t, m.createdAt.Stamps t ∧ t.Storable := by
  intro m hm
  simp only [reportRows, Rows.toList, List.map_cons, List.map_nil, List.mem_cons, List.not_mem_nil, or_false] at hm
  rcases hm with rfl | rfl | rfl
  · exact ⟨february, ⟨february_storable.toRegular, .inl rfl⟩, february_storable⟩
  · exact ⟨february, ⟨february_storable.toRegular, .inl rfl⟩, february_storable⟩
  · exact ⟨newYear, ⟨newYear_storable.toRegular, .inr ⟨rfl, rfl⟩⟩, newYear_storable⟩

private theorem dateBounds_report : ∀ bound ∈ reportOptions.dateBounds, bound.Storable := by
  have hbounds : reportOptions.dateBounds = [newYear, february] := by
    rw [SearchOptions.dateBounds, parsed_report]
    rfl
  rw [hbounds]
  simpa using ⟨newYear_storable, february_storable⟩

private theorem ordinary_report : Ordinary {} reportOptions reportRows ["c1"] ["u1"] where
  keyed := ⟨by decide, by decide, by decide, by decide, by decide, by decide, by decide⟩
  anchored := ⟨by decide, by decide⟩
  messages := {
    content := by decide
    formatted := by decide
    stamped := fun m hm => (stamped_report m hm).imp fun t ht => ht.1 }
  valid := rfl
  scope := rfl
  offset := rfl
  limit := by decide
  ascii := List.all_eq_true.1 (by decide)
  bounds bound hb := (dateBounds_report bound hb).toRegular
  channels := by
    rw [parsed_report]
    decide_cbv
  senders := by
    rw [parsed_report]
    decide_cbv
  patterns := by
    rw [request_report]
    decide_cbv
  values := by
    rw [request_report]
    decide_cbv
  asked := by
    rw [parsed_report]
    exact .inr rfl

private theorem inReach_report : InReach {} reportOptions reportRows ["c1"] ["u1"] where
  base := by
    rw [parsed_report]
    decide
  exclude := by
    rw [parsed_report]
    decide
  depth := by
    rw [request_report]
    decide_cbv
  bounds := dateBounds_report
  stamps _ m hm t ht := by
    obtain ⟨u, hu, hstorable⟩ := stamped_report m hm
    exact ht.unique hu ▸ hstorable
  window := by decide
  room := by decide

/-- Two messages of the channel asked for have one of the words, and one of them is a draft. -/
theorem findsWanted_report : Ordinary {} reportOptions reportRows ["c1"] ["u1"] ∧
    InReach {} reportOptions reportRows ["c1"] ["u1"] ∧
    FindsWanted {} reportOptions reportRows ["c1"] ["u1"] default .epoch :=
  ⟨ordinary_report, inReach_report, findsWanted ordinary_report inReach_report default .epoch⟩

/-! ### Out of reach -/

/-- The only message of a database. -/
private def soleMessage (content : String) (t : Instant) : Stored.Message :=
  ⟨"m1", "c1", "u1", content, none, "text", none, .text t.toStored⟩

private def soleRows (content : String) (t : Instant) : Database where
  users := ⟨[⟨1, ⟨"u1", "ann", "", "", "", none, .integer 0, .text newYear.toStored⟩⟩]⟩
  channels := ⟨[⟨1, ⟨"c1", "general", none, none, "public", .text newYear.toStored⟩⟩]⟩
  messages := ⟨[⟨1, soleMessage content t⟩]⟩

private def soleOptions (query : String) : SearchOptions := { query, scope := .only .messages, userId := "u1" }

private theorem mem_soleRows {content : String} {t : Instant} {m : Stored.Message} :
    m ∈ (soleRows content t).messages.toList ↔ m = soleMessage content t := by
  simp [soleRows, Rows.toList]

/-- What the searcher is asked when the query has been read. -/
private def soleRequest (settings : SearchSettings) (p : ParsedQuery) : Request where
  base := p.base
  operators := p.operators
  userId := "u1"
  limit := fetchLimit settings (soleOptions "")
  contextRadius := settings.contextRadius.toNat

/-- What is found of the only message, if the search does not break down. -/
private def soleFound (settings : SearchSettings) (p : ParsedQuery) (content : String) (t : Instant) :
    Option (List String) :=
  ((degrade ((soleRequest settings p).foundOn (soleRows content t) .messages)).map
    fun results => results.map (·.id)).toOption

/-- A query that wants the only message if a text occurs in it: its other conditions hold. -/
private structure SoleQuery (settings : SearchSettings) (query content : String) (t : Instant) (p : ParsedQuery) :
    Prop where
  parsed : ParsedQuery.ofText query = p
  operators : p.operators = { before := p.operators.before, after := p.operators.after
                              exclude := p.operators.exclude, matchAny := p.operators.matchAny }
  asked : Text.isBlank p.base = false
  ascii : query.toList.all Chars.isAscii = true
  plain : Text.Plain content
  regular : t.Regular
  before : ∀ bound ∈ p.operators.before, bound.Regular ∧ t ≤ bound
  after : ∀ bound ∈ p.operators.after, bound.Regular ∧ bound ≤ t
  spared : ∀ term ∈ p.operators.exclude, ¬Text.Occurs term content
  patterns : ((soleRequest settings p).messageLookup [] []).text.hasLongPattern = false
  values : ((soleRequest settings p).messageLookup [] []).shape.values ≤ StatementShape.valueLimit

namespace SoleQuery

variable {settings : SearchSettings} {query content : String} {t : Instant} {p : ParsedQuery}

private theorem request_eq (h : SoleQuery settings query content t p) :
    request settings (soleOptions query) = soleRequest settings p := by
  rw [← h.parsed]
  rfl

private theorem ordinary (h : SoleQuery settings query content t p) :
    Ordinary settings (soleOptions query) (soleRows content t) [] [] where
  keyed := by constructor <;> simp [soleRows, Rows.toList]
  anchored := by
    constructor <;> simp [soleRows, Rows.toList, Database.hasChannel, Database.hasUser, Rows.any, soleMessage]
  messages := {
    content := fun m hm => mem_soleRows.1 hm ▸ h.plain
    formatted := fun m hm => by
      rw [mem_soleRows.1 hm]
      simp [soleMessage]
    stamped := fun m hm => ⟨t, mem_soleRows.1 hm ▸ ⟨h.regular, .inl rfl⟩⟩ }
  valid := validate_eq_ok_iff.2
    ⟨by simp [soleOptions], by simp [soleOptions], (by decide : Text.isBlank "u1" = false)⟩
  scope := rfl
  offset := rfl
  limit := by simp [soleRows, Rows.toList, soleOptions]
  ascii := List.all_eq_true.1 h.ascii
  bounds bound hbound := by
    simp only [SearchOptions.dateBounds, soleOptions, h.parsed, List.mem_append, Option.mem_toList, reduceCtorEq,
      or_false] at hbound
    rcases hbound with hbound | hbound
    · exact (h.after bound hbound).1
    · exact (h.before bound hbound).1
  channels := by
    simp only [soleOptions, h.parsed]
    rw [h.operators]
    rfl
  senders := by
    simp only [soleOptions, h.parsed]
    rw [h.operators]
    rfl
  patterns := h.request_eq ▸ h.patterns
  values := h.request_eq ▸ h.values
  asked := by
    simp only [soleOptions, h.parsed]
    exact .inl h.asked

private theorem wanted_iff_text (h : SoleQuery settings query content t p) :
    Wanted (soleRows content t) (ParsedQuery.ofText query) (soleOptions query) [] [] (soleMessage content t) ↔
      ∃ text ∈ p.texts, Text.Occurs text content := by
  rw [h.parsed]
  constructor
  · intro hw
    obtain ⟨text, htext, hoccurs | ⟨formatted, hformatted, -⟩⟩ := hw.text h.asked
    · exact ⟨text, htext, hoccurs⟩
    · cases hformatted
  · rintro ⟨text, htext, hoccurs⟩
    have hhas : p.operators.has = [] := by rw [h.operators]
    exact {
      visible := by simp [soleOptions]
      text := fun _ => ⟨text, htext, .inl hoccurs⟩
      channel := .inl rfl
      sender := .inl rfl
      channelFilter := by simp [soleOptions]
      userFilter := by simp [soleOptions]
      typeFilter := by simp [soleOptions]
      attached := by simp [hhas, soleOptions]
      unattached := fun _ _ _ => rfl
      link := by simp [hhas]
      reaction := by simp [hhas]
      dated := ⟨t, ⟨h.regular, .inl rfl⟩, ⟨fun bound hb => (h.after bound hb).2, by simp [soleOptions]⟩,
        fun bound hb => (h.before bound hb).2, by simp [soleOptions]⟩
      spared := h.spared }

/-- The search breaks its promise when what it finds does not tell whether the text occurs. -/
private theorem not_findsWanted (h : SoleQuery settings query content t p) {found : Option (List String)}
    (hfound : soleFound settings p content t = found)
    (hbroken : ∀ ids ∈ found, ¬("m1" ∈ ids ↔ ∃ text ∈ p.texts, Text.Occurs text content)) :
    ¬FindsWanted settings (soleOptions query) (soleRows content t) [] [] default .epoch := by
  rintro ⟨response, hresponse, htotal, -, hiff⟩
  rw [h.ordinary.outcomeOn_eq, h.request_eq] at hresponse
  unfold soleFound at hfound
  cases hresults : degrade ((soleRequest settings p).foundOn (soleRows content t) .messages) with
  | error e => rw [hresults] at hresponse; cases hresponse
  | ok results =>
    rw [hresults] at hresponse hfound
    obtain rfl := Except.ok.inj hresponse
    have hlength : (results.length : Int) ≤ (soleOptions query).limit := by
      simp only [page, sortResults, soleOptions, List.length_take, List.length_drop, List.length_mergeSort] at htotal ⊢
      omega
    have hids : ((page (soleOptions query) results).results.map (·.id)).Perm (results.map (·.id)) := by
      rw [results_page rfl hlength]
      exact (List.mergeSort_perm _ _).map _
    refine hbroken (results.map (·.id)) (hfound ▸ rfl) ?_
    rw [← hids.mem_iff, hiff, ← h.wanted_iff_text]
    constructor
    · rintro ⟨m, hm, -, hw⟩
      exact mem_soleRows.1 hm ▸ hw
    · exact fun hw => ⟨_, mem_soleRows.2 rfl, rfl, hw⟩

end SoleQuery

/-! A pattern ends at NUL. -/

private abbrev withNul : ParsedQuery := { base := "ab\x00c" }

private abbrev excludingNul : ParsedQuery := { base := "ab", operators := { exclude := ["c\x00d"] } }

/-! The last half millisecond of the year 9999 is rounded into the year 10000. -/

private theorem nearlyOver_regular : nearlyOver.Regular :=
  ⟨years.2.2 ▸ by decide, years.2.2 ▸ by decide, by decide⟩

private abbrev untilNearlyOver : ParsedQuery := { base := "ab", operators := { before := some nearlyOver } }

private abbrev sinceNewYear : ParsedQuery := { base := "ab", operators := { after := some newYear } }

/-! The context around a match overflows. -/

private def wideSettings : SearchSettings := { contextRadius := ⟨2 ^ (64 : Nat) - 1, by decide⟩ }

private theorem parsed_sole :
    ParsedQuery.ofText "ab\x00c" = withNul ∧ ParsedQuery.ofText "ab -c\x00d" = excludingNul ∧
      ParsedQuery.ofText "ab before:9999-12-31T23:59:59.9995Z" = untilNearlyOver ∧
      ParsedQuery.ofText "ab after:2024-01-01" = sinceNewYear ∧ ParsedQuery.ofText "ab" = { base := "ab" } := by
  decide +kernel

private theorem soleQuery_nul : SoleQuery {} "ab\x00c" "ab" newYear withNul :=
  ⟨parsed_sole.1, rfl, by decide, by decide, by decide, newYear_storable.toRegular, by simp, by simp, by decide,
    by decide, by decide⟩

private theorem soleQuery_excludedNul : SoleQuery {} "ab -c\x00d" "ab c" newYear excludingNul :=
  ⟨parsed_sole.2.1, rfl, by decide, by decide, by decide, newYear_storable.toRegular, by simp, by simp, by decide,
    by decide, by decide⟩

private theorem soleQuery_lateBound :
    SoleQuery {} "ab before:9999-12-31T23:59:59.9995Z" "ab" newYear untilNearlyOver := by
  refine ⟨parsed_sole.2.2.1, rfl, by decide, by decide, by decide, newYear_storable.toRegular, fun bound hb => ?_,
    by simp, by decide, by decide, by decide⟩
  obtain rfl : nearlyOver = bound := Option.some.inj hb
  exact ⟨nearlyOver_regular, by decide⟩

private theorem soleQuery_lateMessage : SoleQuery {} "ab after:2024-01-01" "ab" nearlyOver sinceNewYear := by
  refine ⟨parsed_sole.2.2.2.1, rfl, by decide, by decide, by decide, nearlyOver_regular, by simp, fun bound hb => ?_,
    by decide, by decide, by decide⟩
  obtain rfl : newYear = bound := Option.some.inj hb
  exact ⟨newYear_storable.toRegular, by decide⟩

private theorem soleQuery_wide : SoleQuery wideSettings "ab" "ab" newYear { base := "ab" } :=
  ⟨parsed_sole.2.2.2.2, rfl, by decide, by decide, by decide, newYear_storable.toRegular, by simp, by simp,
    by decide, by decide, by decide⟩

private theorem found_sole :
    soleFound {} withNul "ab" newYear = some ["m1"] ∧ soleFound {} excludingNul "ab c" newYear = some [] ∧
      soleFound {} untilNearlyOver "ab" newYear = some [] ∧ soleFound {} sinceNewYear "ab" nearlyOver = some [] ∧
      soleFound wideSettings { base := "ab" } "ab" newYear = none := by
  simp only [soleFound, Request.foundOn, Request.messagesOn, Database.searchMessages_eq,
    Database.foundMessages_eq_insertionSort]
  decide +kernel

/-! A statement that asks for any of many words is too deep. -/

private def manyWords : List Char := 'O' :: 'R' :: (List.replicate 498 [' ', 'a']).flatten

private def manyBase : String := .ofList (Chars.unwords (List.replicate 498 ['a']))

private def letter : Query.PlainWord where
  chars := ['a']

private def anyLetter (n : Nat) : Query.Sentence where
  spaced := (⟨[], Chars.Blank.nil⟩, .connector true) :: List.replicate n (⟨[' '], Chars.Blank.space⟩, .word letter)
  trail := ⟨[], Chars.Blank.nil⟩
  gaps p hp := by
    obtain rfl := List.eq_of_mem_replicate hp
    exact List.cons_ne_nil _ _
  calm := List.Pairwise.isChain (List.pairwise_cons.2
    ⟨fun p hp h => by simp [List.eq_of_mem_replicate hp, Query.Item.isConnector] at h,
      List.pairwise_replicate.2 (.inr fun h => by simp [Query.Item.isConnector] at h)⟩)
  oneBefore := by simp [Query.Item.before?]
  oneAfter := by simp [Query.Item.after?]

private theorem ofText_anyLetter (n : Nat) :
    ParsedQuery.ofText (.ofList ('O' :: 'R' :: (List.replicate n [' ', 'a']).flatten)) =
      { base := .ofList (Chars.unwords (List.replicate n ['a'])), operators := { matchAny := true } } := by
  have htext : (anyLetter n).text = .ofList ('O' :: 'R' :: (List.replicate n [' ', 'a']).flatten) := by
    simp [Query.Sentence.text, anyLetter, Query.Item.text, letter, List.flatMap_replicate]
  have hbase : (anyLetter n).items.flatMap Query.Item.words = List.replicate n ['a'] := by
    simp [Query.Sentence.items, anyLetter, Query.Item.words, letter, List.flatMap_replicate]
  -- neither the connector nor the letter is one of the other operators
  have hnone : ∀ {α : Type} (f : Query.Item → Option α), f (.connector true) = none → f (.word letter) = none →
      (anyLetter n).items.filterMap f = [] ∧ (anyLetter n).items.findSome? f = none := by
    intro α f hconnector hword
    have hall : ∀ i ∈ (anyLetter n).items, f i = none := by
      simp [Query.Sentence.items, anyLetter, hconnector, hword]
    exact ⟨List.filterMap_eq_nil_iff.2 hall, List.findSome?_eq_none_iff.2 hall⟩
  have hoperators : (anyLetter n).operators = { matchAny := true } := by
    simp only [Query.Sentence.operators, hnone Query.Item.sender? rfl rfl, hnone Query.Item.channel? rfl rfl,
      hnone Query.Item.tag? rfl rfl, hnone Query.Item.before? rfl rfl, hnone Query.Item.after? rfl rfl,
      hnone Query.Item.negated? rfl rfl, hnone Query.Item.dashed? rfl rfl]
    simp [Query.Sentence.items, anyLetter, Query.Item.isQuoted, Query.Item.isOr]
  obtain ⟨hwords, hfindings⟩ := (anyLetter n).applyRules_text
  simp only [← htext, ParsedQuery.ofText, hwords, hfindings, (anyLetter n).foldl_findings, hbase, hoperators]

private theorem parsed_manyWords :
    ParsedQuery.ofText (.ofList manyWords) = { base := manyBase, operators := { matchAny := true } } :=
  ofText_anyLetter 498

private theorem words_manyBase : Text.words manyBase = List.replicate 498 "a" := by
  have hwords : Chars.AreWords (List.replicate 498 ['a']) := by
    intro w hw
    obtain rfl := List.eq_of_mem_replicate hw
    exact ⟨by simp [Chars.Solid, Chars.isBlank], List.cons_ne_nil _ _⟩
  rw [Text.words, manyBase, String.toList_ofList, Chars.words_unwords hwords, List.map_replicate]

private theorem isBlank_manyBase : Text.isBlank manyBase = false := by
  have hwords : Text.words manyBase ≠ [] := by
    rw [words_manyBase]
    exact List.cons_ne_nil _ _
  exact Bool.eq_false_iff.2 (mt Text.words_eq_nil_iff.2 hwords)

/-- What the searcher is asked when the query asks for any of the words of a text. -/
private def anyOf (base : String) : Request := soleRequest {} { base, operators := { matchAny := true } }

private theorem shape_anyOf (base : String) :
    ((anyOf base).messageLookup [] []).shape =
      ⟨alwaysClause, (anyOf base).textMatch.clauses [columnDepth, columnDepth] columnDepth ++ [.test, .test],
        false⟩ := by
  have hafter : (anyOf base).after = none := rfl
  have hbefore : (anyOf base).before = none := rfl
  have hattachment : (anyOf base).operators.wantsAttachment = false := rfl
  have hlink : (anyOf base).operators.wantsLink = false := rfl
  have hreaction : (anyOf base).operators.wantsReaction = false := rfl
  have hchannels : (anyOf base).userChannelIds = none := rfl
  have hfilters : (anyOf base).filters = {} := rfl
  simp [MessageLookup.shape, Request.messageLookup, hafter, hbefore, hattachment, hlink, hreaction, hchannels, hfilters,
    listClauses, valueClauses, clauseIf, timeClauses]

private theorem needles_manyWords : (anyOf manyBase).textMatch.needles = List.replicate 498 "a" := by
  have htext : (anyOf manyBase).textMatch = { anyOf := Text.words manyBase } := rfl
  rw [htext, words_manyBase]
  rfl

private theorem tests_replicate (n : Nat) :
    ((List.replicate n "a").flatMap fun _ => [columnDepth, columnDepth].map (· + 2)) = List.replicate (2 * n) 4 := by
  induction n with
  | zero => rfl
  | succ n ih =>
    rw [List.replicate_succ, List.flatMap_cons, ih]
    rfl

private theorem joinDepth_replicate (n : Nat) : Clause.joinDepth 4 (List.replicate n 4) = 4 + n := by
  induction n with
  | zero => rfl
  | succ n ih =>
    rw [Clause.joinDepth] at ih
    rw [Clause.joinDepth, List.replicate_succ', List.foldl_append, ih, List.foldl_cons, List.foldl_nil]
    omega

private theorem shape_manyWords :
    ((anyOf manyBase).messageLookup [] []).shape = ⟨alwaysClause, [⟨999, 996⟩, .test, .test], false⟩ := by
  have hexcluded : (anyOf manyBase).textMatch.excluded = [] := rfl
  have hclauses : (anyOf manyBase).textMatch.clauses [columnDepth, columnDepth] columnDepth = [⟨999, 996⟩] := by
    rw [TextMatch.clauses, needles_manyWords, hexcluded, tests_replicate, List.replicate_succ]
    simp only [joinDepth_replicate, List.length_cons, List.length_replicate, List.map_nil, List.append_nil]
  rw [shape_anyOf, hclauses]
  rfl

private theorem soleQuery_manyWords :
    SoleQuery {} (.ofList manyWords) "a" newYear { base := manyBase, operators := { matchAny := true } } where
  parsed := parsed_manyWords
  operators := rfl
  asked := isBlank_manyBase
  plain := by decide
  regular := newYear_storable.toRegular
  before := by simp
  after := by simp
  spared := by decide
  ascii := by
    have hwords : (List.replicate 498 [' ', 'a']).flatten.all Chars.isAscii = true := by
      rw [List.all_flatten, List.all_replicate]
      decide
    rw [String.toList_ofList, manyWords, List.all_cons, List.all_cons, hwords]
    decide
  patterns := by
    have htext : ((anyOf manyBase).messageLookup [] []).text = (anyOf manyBase).textMatch := rfl
    have hexcluded : (anyOf manyBase).textMatch.excluded = [] := rfl
    have hshort : Like.isTooLong (Like.containing "a") = false := by decide
    show ((anyOf manyBase).messageLookup [] []).text.hasLongPattern = false
    rw [htext, TextMatch.hasLongPattern, needles_manyWords, hexcluded, List.append_nil, List.any_replicate, hshort]
    rfl
  values := by
    show ((anyOf manyBase).messageLookup [] []).shape.values ≤ _
    rw [shape_manyWords]
    decide

private theorem found_manyWords :
    soleFound {} { base := manyBase, operators := { matchAny := true } } "a" newYear = some [] := by
  have hrequest : request {} (soleOptions (.ofList manyWords)) = anyOf manyBase := soleQuery_manyWords.request_eq
  have hcriteria := soleQuery_manyWords.ordinary.hasCriteria
  have hlookup := soleQuery_manyWords.ordinary.messageLookupOn_eq
  rw [hrequest] at hcriteria hlookup
  have hvisible : (anyOf manyBase).userChannelIds = none := rfl
  have hsearch : (soleRows "a" newYear).searchMessages ((anyOf manyBase).messageLookup [] []) =
      .error .tooComplex := by
    have haccess : ((anyOf manyBase).messageLookup [] []).accessibleChannelIds = none := rfl
    have hfits : StatementShape.fits ⟨alwaysClause, [⟨999, 996⟩, .test, .test], false⟩ = false := by decide
    rw [Database.searchMessages_eq, shape_manyWords, haccess, hfits]
    rfl
  show ((degrade ((anyOf manyBase).foundOn _ .messages)).map _).toOption = _
  rw [Request.foundOn, hcriteria, hvisible, Request.messagesOn, hlookup, Outcome.ok_bind,
    hsearch]
  rfl

/-! More messages than can be fetched are not all found. -/

private theorem length_le_of_degrade {r : Request} {db : Database} {results : List SearchResult}
    (h : degrade (r.foundOn db .messages) = .ok results) : results.length ≤ r.limit := by
  simp only [Request.foundOn] at h
  split at h
  · obtain rfl := Except.ok.inj h
    exact Nat.zero_le _
  · cases hfound : r.messagesOn db with
    | ok found =>
      rw [hfound] at h
      obtain rfl := Except.ok.inj h
      exact Request.length_messagesOn_le hfound
    | error e =>
      rw [hfound] at h
      cases e with
      | crashed => cases h
      | _ =>
        obtain rfl := Except.ok.inj h
        exact Nat.zero_le _

private theorem not_findsWanted_of_lt (h : Ordinary settings o db channelIds senderIds)
    (hwanted : ∀ m ∈ db.messages.toList, Wanted db (ParsedQuery.ofText o.query) o channelIds senderIds m)
    (hmany : largestWindow < db.messages.toList.length) (id : Uuid) (now : Instant) :
    ¬FindsWanted settings o db channelIds senderIds id now := by
  rintro ⟨response, hresponse, -, -, hiff⟩
  have hsubset : db.messages.toList.map (·.id) ⊆ response.results.map (·.id) := by
    intro messageId hmem
    obtain ⟨m, hm, rfl⟩ := List.mem_map.1 hmem
    exact (hiff m.id).2 ⟨m, hm, rfl, hwanted m hm⟩
  have hall := (List.subperm_of_subset h.keyed.messages hsubset).length_le
  rw [List.length_map, List.length_map] at hall
  rw [h.outcomeOn_eq] at hresponse
  cases hresults : degrade ((request settings o).foundOn db .messages) with
  | error e => rw [hresults] at hresponse; cases hresponse
  | ok results =>
    rw [hresults] at hresponse
    obtain rfl := Except.ok.inj hresponse
    have hpage : (page o results).results.length ≤ results.length := by
      simp only [page, sortResults, List.length_take, List.length_drop, List.length_mergeSort]
      omega
    have hfound : results.length ≤ fetchLimit settings o := length_le_of_degrade hresults
    have hlimit := fetchLimit_le_largestWindow settings o
    omega

private def BreaksOn (settings : SearchSettings) (query content : String) (t : Instant) : Prop :=
  Ordinary settings (soleOptions query) (soleRows content t) [] [] ∧
    ¬FindsWanted settings (soleOptions query) (soleRows content t) [] [] default .epoch

/-- Each of the restrictions on an ordinary search is needed: without it an ordinary search of a single message does not
find exactly what is wanted, and neither does one of more messages than can be fetched. -/
theorem not_findsWanted_out_of_reach :
    BreaksOn {} "ab\x00c" "ab" newYear ∧ BreaksOn {} "ab -c\x00d" "ab c" newYear ∧
    BreaksOn {} (.ofList manyWords) "a" newYear ∧
    BreaksOn {} "ab before:9999-12-31T23:59:59.9995Z" "ab" newYear ∧ BreaksOn {} "ab after:2024-01-01" "ab" nearlyOver ∧
    BreaksOn wideSettings "ab" "ab" newYear ∧
    ∀ settings o db channelIds senderIds, Ordinary settings o db channelIds senderIds →
      (∀ m ∈ db.messages.toList, Wanted db (ParsedQuery.ofText o.query) o channelIds senderIds m) →
      largestWindow < db.messages.toList.length → ∀ id now, ¬FindsWanted settings o db channelIds senderIds id now := by
  obtain ⟨found_nul, found_excludedNul, found_lateBound, found_lateMessage, found_wide⟩ := found_sole
  refine ⟨⟨soleQuery_nul.ordinary, soleQuery_nul.not_findsWanted found_nul fun ids hids => ?_⟩,
    ⟨soleQuery_excludedNul.ordinary, soleQuery_excludedNul.not_findsWanted found_excludedNul fun ids hids => ?_⟩,
    ⟨soleQuery_manyWords.ordinary, soleQuery_manyWords.not_findsWanted found_manyWords fun ids hids hiff => ?_⟩,
    ⟨soleQuery_lateBound.ordinary, soleQuery_lateBound.not_findsWanted found_lateBound fun ids hids => ?_⟩,
    ⟨soleQuery_lateMessage.ordinary, soleQuery_lateMessage.not_findsWanted found_lateMessage fun ids hids => ?_⟩,
    ⟨soleQuery_wide.ordinary, soleQuery_wide.not_findsWanted found_wide nofun⟩,
    fun settings o db channelIds senderIds h => not_findsWanted_of_lt h⟩
  · obtain rfl := Option.some.inj hids
    decide
  · obtain rfl := Option.some.inj hids
    decide
  · obtain rfl := Option.some.inj hids
    have htexts : ParsedQuery.texts { base := manyBase, operators := { matchAny := true } } = List.replicate 498 "a" :=
      words_manyBase
    rw [htexts] at hiff
    exact List.not_mem_nil (hiff.2 ⟨"a", List.mem_replicate.2 ⟨by decide, rfl⟩, by decide⟩)
  · obtain rfl := Option.some.inj hids
    decide
  · obtain rfl := Option.some.inj hids
    decide

end SearchService

end WorkspaceSearch
