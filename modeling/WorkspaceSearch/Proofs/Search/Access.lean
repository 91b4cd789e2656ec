import Mathlib
import WorkspaceSearch.Proofs.Database.Visible
import WorkspaceSearch.Proofs.Query.Reading
import WorkspaceSearch.Proofs.Search.Results
import WorkspaceSearch.Proofs.Search.Window

/-!
# Access

A search of messages sees the channels of the user, and a search of direct messages those of the user, and nothing
else: the outcome is the same on databases that agree in what the user may see, and every result is a row that the user
may see (`search_confined`).  There is one exception.  Messages of other channels may be tested as well, by the plan of
the database, and one that comes to a pattern that is too long makes the lookup fail, so that the search comes to
nothing.  So the outcome may differ when there is such a pattern.
-/

namespace WorkspaceSearch

open Database (SamePeople SameMessages SameDirectMessages directMessagesOf)

/-! ### Results of rows -/

/-- A result is a message in one of some channels. -/
def SearchResult.IsMessageIn (db : Database) (channelIds : List String) (result : SearchResult) : Prop :=
  result.domain = .messages ∧
    ∃ m ∈ db.messages.toList, m.id = result.id ∧ m.channelId ∈ channelIds ∧
      result.channel.map (·.id) = some m.channelId

/-- A result is a direct message that a user has sent or received. -/
def SearchResult.IsDirectMessageOf (db : Database) (userId : String) (result : SearchResult) : Prop :=
  result.domain = .directMessages ∧
    ∃ m ∈ db.directMessages.toList, m.id = result.id ∧ (m.senderId = userId ∨ m.receiverId = userId)

namespace Request

variable {r : Request} {db db' : Database}

theorem channelIds_on_eq (hpeople : SamePeople db db') (hkeyed : db.Keyed) :
    r.channelIds.on db = r.channelIds.on db' := by
  unfold channelIds
  split
  · rfl
  · rw [Attempt.on_ask (c := .resolveChannelIds _) rfl, Attempt.on_ask (c := .resolveChannelIds _) rfl,
      Database.resolveChannelIds_eq hpeople hkeyed]

theorem senderIds_on_eq (hpeople : SamePeople db db') (hkeyed : db.Keyed) :
    r.senderIds.on db = r.senderIds.on db' := by
  unfold senderIds
  split
  · rfl
  · rw [Attempt.on_ask (c := .resolveUserIds _) rfl, Attempt.on_ask (c := .resolveUserIds _) rfl,
      Database.resolveUserIds_eq hpeople hkeyed]

/-! ### Messages in the channels of the user -/

section

variable {channelIds : List String} (hchannels : r.userChannelIds = some channelIds)

theorem messageLookupOn_eq (hpeople : SamePeople db db') (hkeyed : db.Keyed) :
    r.messageLookupOn db = r.messageLookupOn db' := by
  rw [messageLookupOn, messageLookupOn, channelIds_on_eq hpeople hkeyed, senderIds_on_eq hpeople hkeyed]

private theorem text_of_messageLookupOn {q : MessageLookup} (h : r.messageLookupOn db = .ok q) :
    q.text = r.textMatch := by
  obtain ⟨named, -, h⟩ := Outcome.bind_eq_ok.1 h
  obtain ⟨senders, -, h⟩ := Outcome.bind_eq_ok.1 h
  obtain rfl := Except.ok.inj h
  rfl

include hchannels

private theorem accessible_of_messageLookupOn {q : MessageLookup} (h : r.messageLookupOn db = .ok q) :
    q.accessibleChannelIds = some channelIds := by
  obtain ⟨named, -, h⟩ := Outcome.bind_eq_ok.1 h
  obtain ⟨senders, -, h⟩ := Outcome.bind_eq_ok.1 h
  obtain rfl := Except.ok.inj h
  exact hchannels

/-- The messages are the same on both databases, or a pattern is too long and one of the lookups fails over it. -/
private theorem messagesOn_eq_or (hpeople : SamePeople db db') (h : SameMessages channelIds db db')
    (hkeyed : db.Keyed) : r.messagesOn db = r.messagesOn db' ∨
      r.textMatch.hasLongPattern = true ∧
        (r.messagesOn db = .error (.failed (.database .tooComplex)) ∨
          r.messagesOn db' = .error (.failed (.database .tooComplex))) := by
  rw [messagesOn, messagesOn, ← messageLookupOn_eq hpeople hkeyed]
  cases hq : r.messageLookupOn db with
  | error e => exact .inl rfl
  | ok q =>
    simp only [Outcome.ok_bind]
    rcases Database.searchMessages_eq_or_tooComplex hpeople h hkeyed (accessible_of_messageLookupOn hchannels hq) with
      heq | ⟨hlong, hfailed | hfailed⟩
    · rw [heq]
      exact .inl rfl
    · rw [hfailed]
      exact .inr ⟨text_of_messageLookupOn hq ▸ hlong, .inl rfl⟩
    · rw [hfailed]
      exact .inr ⟨text_of_messageLookupOn hq ▸ hlong, .inr rfl⟩

private theorem isMessageIn_of_mem {results : List SearchResult} (h : r.messagesOn db = .ok results)
    {result : SearchResult} (hresult : result ∈ results) : result.IsMessageIn db channelIds := by
  obtain ⟨q, hq, h⟩ := Outcome.bind_eq_ok.1 h
  obtain ⟨rows, hrows, h⟩ := Outcome.bind_eq_ok.1 h
  obtain ⟨row, hrow, hannotate⟩ := exists_row_of_mem_selected h hresult
  obtain ⟨hid, hdetails, hchannel⟩ := annotate_eq_some hannotate
  obtain ⟨m, hm, hmid, hmchannel, hmem⟩ :=
    Database.mem_searchMessages (accessible_of_messageLookupOn hchannels hq) (eq_ok_of_lookedUp hrows) hrow
  refine ⟨?_, m, hm, hmid.trans hid.symm, hmem, ?_⟩
  · rw [SearchResult.domain, hdetails]
    rfl
  · rw [hchannel, hmchannel]
    rfl

end

/-! ### Direct messages of the user -/

theorem directMessagesOn_eq (hplan : db.plan = db'.plan) (hpeople : SamePeople db db')
    (h : SameDirectMessages r.userId db db') (hkeyed : db.Keyed) : r.directMessagesOn db = r.directMessagesOn db' := by
  rw [directMessagesOn, directMessagesOn, ← senderIds_on_eq hpeople hkeyed]
  refine bind_congr fun senderIds => ?_
  rw [Database.searchDirectMessages_eq_of_same (q := r.directMessageLookup senderIds) hplan hpeople h hkeyed]

private theorem isDirectMessageOf_of_mem {results : List SearchResult} (h : r.directMessagesOn db = .ok results)
    {result : SearchResult} (hresult : result ∈ results) : result.IsDirectMessageOf db r.userId := by
  obtain ⟨senders, -, h⟩ := Outcome.bind_eq_ok.1 h
  obtain ⟨rows, hrows, h⟩ := Outcome.bind_eq_ok.1 h
  obtain ⟨row, hrow, hannotate⟩ := exists_row_of_mem_selected h hresult
  obtain ⟨hid, hdetails, -⟩ := annotate_eq_some hannotate
  obtain ⟨m, hm, hmid, -, -⟩ :=
    Database.mem_searchDirectMessages (eq_ok_of_lookedUp hrows) (List.mem_of_mem_filter hrow)
  refine ⟨?_, m, List.mem_of_mem_filter hm, hmid.trans hid.symm, ?_⟩
  · rw [SearchResult.domain, hdetails]
    rfl
  · have hbetween := List.of_mem_filter hm
    simpa [Database.isBetween, directMessageLookup] using hbetween

end Request

namespace SearchService

/-- What a search comes to on a database. -/
def outcomeOn (settings : SearchSettings) (o : SearchOptions) (cancelled : Bool) (id : Uuid) (now : Instant)
    (db : Database) : Except Mishap SearchResponse :=
  ((search { settings } o cancelled id now).run Database.answer db).1

variable {settings : SearchSettings} {o : SearchOptions} {cancelled : Bool} {id : Uuid} {now : Instant}
  {db db' : Database} {d : Domain}

/-- A search of one domain asks its searcher. -/
theorem outcomeOn_only (hscope : o.scope = .only d) :
    outcomeOn settings o cancelled id now db =
      match o.validate with
      | .error e => .error (.failed e)
      | .ok () =>
        if cancelled then .error (.failed .cancelled)
        else (degrade ((d.searcher (request settings o)).run Database.answer db).1).map (page o) := by
  unfold outcomeOn
  cases hvalid : o.validate with
  | error e => rw [search, hvalid]; rfl
  | ok =>
    cases cancelled with
    | true => rw [search, hvalid]; rfl
    | false =>
      rw [search_eq_map_gather _ _ hvalid, hscope]
      exact congrArg _ (gather_singleton _ _ _ d db)

private theorem outcomeOn_congr (hscope : o.scope = .only d)
    (h : ((d.searcher (request settings o)).run Database.answer db).1 =
      ((d.searcher (request settings o)).run Database.answer db').1) :
    outcomeOn settings o cancelled id now db = outcomeOn settings o cancelled id now db' := by
  rw [outcomeOn_only hscope, outcomeOn_only hscope, h]

/-- A response is the page of what is found. -/
theorem exists_page (hscope : o.scope = .only d) {response : SearchResponse}
    (h : outcomeOn settings o cancelled id now db = .ok response) :
    ∃ found, degrade ((d.searcher (request settings o)).run Database.answer db).1 = .ok found ∧
      response = page o found := by
  rw [outcomeOn_only hscope] at h
  split at h
  · cases h
  · split at h
    · cases h
    · cases hfound : degrade ((d.searcher (request settings o)).run Database.answer db).1 with
      | error e => rw [hfound] at h; cases h
      | ok found =>
        rw [hfound] at h
        exact ⟨found, rfl, (Except.ok.inj h).symm⟩

/-- What is shown has been found by the searcher. -/
theorem eq_ok_of_degrade {reply : Except Mishap (List SearchResult)} {found : List SearchResult}
    (h : degrade reply = .ok found) {result : SearchResult} (hresult : result ∈ found) : reply = .ok found := by
  rcases reply with (_ | _ | _) | _
  · obtain rfl := Except.ok.inj h
    cases hresult
  · obtain rfl := Except.ok.inj h
    cases hresult
  · cases h
  · exact h

theorem mem_of_mem_page {found : List SearchResult} {result : SearchResult} (h : result ∈ (page o found).results) :
    result ∈ found :=
  List.mem_mergeSort.1 (List.mem_of_mem_drop (List.mem_of_mem_take h))

/-- The results on a page are results of the searcher. -/
private theorem exists_of_mem_results (hscope : o.scope = .only d) {response : SearchResponse}
    (h : outcomeOn settings o cancelled id now db = .ok response) {result : SearchResult}
    (hresult : result ∈ response.results) :
    ∃ found, ((d.searcher (request settings o)).run Database.answer db).1 = .ok found ∧ result ∈ found := by
  obtain ⟨found, hfound, rfl⟩ := exists_page hscope h
  have hmem := mem_of_mem_page hresult
  exact ⟨found, eq_ok_of_degrade hfound hmem, hmem⟩

/-- A searcher that fails leaves nothing to show. -/
private theorem page_of_failed (o : SearchOptions) (e : Error) :
    (degrade (.error (.failed e))).map (page o) = .ok ⟨[], 0⟩ := by
  simp [degrade, Except.map, page, sortResults]

private theorem outcomeOn_eq_or (hscope : o.scope = .only d) {P : Prop} {e : Error}
    (h : ((d.searcher (request settings o)).run Database.answer db).1 =
        ((d.searcher (request settings o)).run Database.answer db').1 ∨
      P ∧ (((d.searcher (request settings o)).run Database.answer db).1 = .error (.failed e) ∨
        ((d.searcher (request settings o)).run Database.answer db').1 = .error (.failed e))) :
    outcomeOn settings o cancelled id now db = outcomeOn settings o cancelled id now db' ∨
      P ∧ (outcomeOn settings o cancelled id now db = .ok ⟨[], 0⟩ ∨
        outcomeOn settings o cancelled id now db' = .ok ⟨[], 0⟩) := by
  rw [outcomeOn_only hscope, outcomeOn_only hscope]
  cases o.validate with
  | error e => exact .inl rfl
  | ok =>
    cases cancelled with
    | true => exact .inl rfl
    | false =>
      rcases h with heq | ⟨hP, hfailed | hfailed⟩
      · rw [heq]
        exact .inl rfl
      · rw [hfailed]
        exact .inr ⟨hP, .inl (page_of_failed o e)⟩
      · rw [hfailed]
        exact .inr ⟨hP, .inr (page_of_failed o e)⟩

/-- The searcher of messages finds the same on both databases, or fails over a pattern that is too long. -/
private theorem run_messages_eq_or {r : Request} {channelIds : List String}
    (hchannels : r.userChannelIds = some channelIds) (hpeople : SamePeople db db')
    (h : SameMessages channelIds db db') (hkeyed : db.Keyed) :
    ((searchMessages r).run Database.answer db).1 = ((searchMessages r).run Database.answer db').1 ∨
      r.textMatch.hasLongPattern = true ∧
        (((searchMessages r).run Database.answer db).1 = .error (.failed (.database .tooComplex)) ∨
          ((searchMessages r).run Database.answer db').1 = .error (.failed (.database .tooComplex))) := by
  rw [Request.run_searchMessages, Request.run_searchMessages]
  split
  · exact .inl rfl
  · exact Request.messagesOn_eq_or hchannels hpeople h hkeyed

/-- A search of messages or of direct messages is confined to what the user may see; all that messages of other channels
can do is make a search come to nothing, by whatever plan, when one of its patterns is too long.  One plan tests the same
direct messages on both databases. -/
theorem search_confined (hpeople : SamePeople db db') (hkeyed : db.Keyed) (settings : SearchSettings)
    (o : SearchOptions) (cancelled : Bool) (id : Uuid) (now : Instant) :
    (∀ channelIds, o.scope = .only .messages → o.userChannelIds = some channelIds →
      (SameMessages channelIds db db' →
        outcomeOn settings o cancelled id now db = outcomeOn settings o cancelled id now db' ∨
          (request settings o).textMatch.hasLongPattern = true ∧
            (outcomeOn settings o cancelled id now db = .ok ⟨[], 0⟩ ∨
              outcomeOn settings o cancelled id now db' = .ok ⟨[], 0⟩)) ∧
      ∀ response, outcomeOn settings o cancelled id now db = .ok response →
        ∀ result ∈ response.results, result.IsMessageIn db channelIds) ∧
    (o.scope = .only .directMessages →
      (db.plan = db'.plan → SameDirectMessages o.userId db db' →
        outcomeOn settings o cancelled id now db = outcomeOn settings o cancelled id now db') ∧
      ∀ response, outcomeOn settings o cancelled id now db = .ok response →
        ∀ result ∈ response.results, result.IsDirectMessageOf db o.userId) := by
  refine ⟨fun channelIds hscope hchannels => ⟨fun h => ?_, fun response hresponse result hresult => ?_⟩,
    fun hscope => ⟨fun hplan h => ?_, fun response hresponse result hresult => ?_⟩⟩
  · exact outcomeOn_eq_or hscope (run_messages_eq_or (r := request settings o) hchannels hpeople h hkeyed)
  · obtain ⟨found, hfound, hmem⟩ := exists_of_mem_results hscope hresponse hresult
    rw [show Domain.searcher .messages = searchMessages from rfl, Request.run_searchMessages] at hfound
    split at hfound
    · obtain rfl := Except.ok.inj hfound
      cases hmem
    · exact Request.isMessageIn_of_mem (r := request settings o) hchannels hfound hmem
  · refine outcomeOn_congr hscope ?_
    show ((searchDirectMessages _).run _ _).1 = ((searchDirectMessages _).run _ _).1
    rw [Request.run_searchDirectMessages, Request.run_searchDirectMessages,
      Request.directMessagesOn_eq (r := request settings o) hplan hpeople h hkeyed]
  · obtain ⟨found, hfound, hmem⟩ := exists_of_mem_results hscope hresponse hresult
    rw [show Domain.searcher .directMessages = searchDirectMessages from rfl,
      Request.run_searchDirectMessages] at hfound
    split at hfound
    · obtain rfl := Except.ok.inj hfound
      cases hmem
    · exact Request.isDirectMessageOf_of_mem (r := request settings o) hfound hmem

end SearchService

/-! ### Two databases -/

private def person (id name : String) : Stored.User :=
  ⟨id, name, "", "", "", none, .integer 0, .text "2024-01-01 00:00:00"⟩

private def place (id name : String) : Stored.Channel := ⟨id, name, none, none, "public", .text "2024-01-01 00:00:00"⟩

private def post (id channelId senderId content : String) : Stored.Message :=
  ⟨id, channelId, senderId, content, none, "text", none, .text "2024-01-02 00:00:00"⟩

private def note (id senderId receiverId content : String) : Stored.DirectMessage :=
  ⟨id, senderId, receiverId, content, none, none, .text "2024-01-02 00:00:00"⟩

private def like (messageId userId : String) : Stored.Reaction := ⟨messageId, userId, "+1", .text "2024-01-03 00:00:00"⟩

/-- Two messages in a channel of the user, and a direct message. -/
private def ownRows : Database where
  users := ⟨[⟨1, person "u1" "ann"⟩, ⟨2, person "u2" "bob"⟩]⟩
  channels := ⟨[⟨1, place "c1" "general"⟩, ⟨2, place "c2" "secret"⟩]⟩
  messages := ⟨[⟨1, post "m1" "c1" "u2" "alpha"⟩, ⟨2, post "m2" "c1" "u1" "some alpha"⟩]⟩
  reactions := ⟨[⟨1, like "m1" "u1"⟩]⟩
  directMessages := ⟨[⟨1, note "d1" "u1" "u2" "alpha"⟩]⟩

/-- The same rows in another order, and rows that the user may not see. -/
private def moreRows : Database where
  users := ⟨[⟨1, person "u2" "bob"⟩, ⟨2, person "u1" "ann"⟩]⟩
  channels := ⟨[⟨1, place "c2" "secret"⟩, ⟨2, place "c1" "general"⟩]⟩
  messages := ⟨[⟨1, post "m2" "c1" "u1" "some alpha"⟩, ⟨2, post "x" "c2" "u2" "alpha"⟩,
    ⟨3, post "m1" "c1" "u2" "alpha"⟩]⟩
  reactions := ⟨[⟨1, like "x" "u2"⟩, ⟨2, like "m1" "u1"⟩]⟩
  directMessages := ⟨[⟨1, note "y" "u2" "u2" "alpha"⟩, ⟨2, note "d1" "u1" "u2" "alpha"⟩]⟩

private theorem samePeople_rows : SamePeople ownRows moreRows := ⟨by decide, by decide⟩

private theorem keyed_ownRows : ownRows.Keyed :=
  ⟨by decide, by decide, by decide, by decide, by decide, by decide, by decide⟩

private theorem sameMessages_rows : SameMessages ["c1"] ownRows moreRows := ⟨by decide, by decide⟩

private theorem sameDirectMessages_rows : SameDirectMessages "u1" ownRows moreRows := by
  unfold SameDirectMessages
  decide

private def ownOptions (d : Domain) : SearchOptions :=
  { query := "alpha", scope := .only d, userId := "u1", userChannelIds := some ["c1"] }

private theorem short_ownOptions :
    (SearchService.request {} (ownOptions .messages)).textMatch.hasLongPattern = false := by
  have hparsed : ParsedQuery.ofText "alpha" = { base := "alpha" } := by decide_cbv
  simp only [SearchService.request, ownOptions, hparsed]
  decide_cbv

/-- Rows in another order and rows of others change nothing for a user of one channel. -/
theorem search_confined_two_databases :
    (SearchService.outcomeOn {} (ownOptions .messages) false default .epoch ownRows =
        SearchService.outcomeOn {} (ownOptions .messages) false default .epoch moreRows ∧
      ∀ response, SearchService.outcomeOn {} (ownOptions .messages) false default .epoch ownRows = .ok response →
        ∀ result ∈ response.results, result.IsMessageIn ownRows ["c1"]) ∧
    (SearchService.outcomeOn {} (ownOptions .directMessages) false default .epoch ownRows =
        SearchService.outcomeOn {} (ownOptions .directMessages) false default .epoch moreRows ∧
      ∀ response, SearchService.outcomeOn {} (ownOptions .directMessages) false default .epoch ownRows = .ok response →
        ∀ result ∈ response.results, result.IsDirectMessageOf ownRows "u1") := by
  have hmessages := (SearchService.search_confined samePeople_rows keyed_ownRows {} (ownOptions .messages) false default
    .epoch).1 ["c1"] rfl rfl
  have hdirect := (SearchService.search_confined samePeople_rows keyed_ownRows {} (ownOptions .directMessages) false
    default .epoch).2 rfl
  refine ⟨⟨(hmessages.1 sameMessages_rows).resolve_right ?_, hmessages.2⟩,
    hdirect.1 rfl sameDirectMessages_rows, hdirect.2⟩
  rintro ⟨hlong, -⟩
  rw [short_ownOptions] at hlong
  cases hlong

/-! ### A pattern that is too long -/

private theorem length_le_utf8ByteSize (cs : List Char) : cs.length ≤ (String.ofList cs).utf8ByteSize := by
  induction cs with
  | nil => simp
  | cons c cs ih =>
    have hc := Char.utf8Size_pos c
    have hsplit : String.ofList (c :: cs) = String.singleton c ++ String.ofList cs := by
      rw [← List.singleton_append, String.ofList_append]
      rfl
    rw [hsplit, String.utf8ByteSize_append, String.utf8ByteSize_singleton, List.length_cons]
    omega

private theorem length_le_escape (cs : List Char) : cs.length ≤ (Like.escape cs).length := by
  induction cs with
  | nil => simp
  | cons c cs ih =>
    rw [Like.escape]
    split <;> simp only [List.length_cons] <;> omega

private theorem isTooLong_containing {needle : String} (h : Like.byteLimit < needle.toList.length + 2) :
    Like.isTooLong (Like.containing needle) = true := by
  have hbytes := length_le_utf8ByteSize ('%' :: Like.escape needle.toList ++ ['%'])
  have hescape := length_le_escape needle.toList
  rw [List.length_append, List.length_cons, List.length_singleton] at hbytes
  rw [Like.isTooLong, decide_eq_true_iff, Like.containing]
  omega

open Query (PlainWord)

private def alpha : PlainWord where
  chars := ['a', 'l', 'p', 'h', 'a']

/-- A long plain word. -/
private def longWord (n : Nat) : PlainWord where
  chars := List.replicate (n + 1) 'z'
  ne_nil := by simp
  solid := by simp [Chars.Solid, List.mem_replicate]; decide
  noQuote := by simp [List.mem_replicate]
  noAsterisk := by simp [List.mem_replicate]
  noDash := by simp [List.replicate_succ]
  notAnd := by simp [List.replicate_succ]
  notOr := by simp [List.replicate_succ]
  notNot := by
    rw [← Query.afterKeyword_eq_some_nil_iff, List.replicate_succ]
    nofun
  noKeyword := by
    intro ρ hρ
    rw [← Query.afterKeyword_eq_none_iff, List.replicate_succ]
    revert hρ
    cases ρ <;> first | exact fun _ => rfl | exact fun h => absurd h (by decide)

/-- Two words of which one is enough. -/
private def eitherWord (w : PlainWord) : Query.Sentence where
  spaced := [(⟨[], by decide⟩, .word alpha), (⟨[' '], by decide⟩, .connector true), (⟨[' '], by decide⟩, .word w)]
  trail := ⟨[], by decide⟩
  gaps := by simp [Query.Spaced]
  calm := by simp [Query.Calm, Query.Item.isConnector]
  oneBefore := by simp [Query.Item.before?]
  oneAfter := by simp [Query.Item.after?]

private theorem ofText_eitherWord (w : PlainWord) :
    ParsedQuery.ofText (eitherWord w).text =
      { base := .ofList (alpha.chars ++ ' ' :: w.chars), operators := { matchAny := true } } := by
  obtain ⟨hwords, hfindings⟩ := (eitherWord w).applyRules_text
  have hbase : Chars.unwords ((eitherWord w).items.flatMap Query.Item.words) = alpha.chars ++ ' ' :: w.chars := by
    simp [eitherWord, Query.Sentence.items, Query.Item.words, Chars.unwords]
  have hoperators : (eitherWord w).operators = { matchAny := true } := rfl
  simp only [ParsedQuery.ofText, hwords, hfindings, (eitherWord w).foldl_findings, hbase, hoperators]

private def senderOptions (w : PlainWord) : SearchOptions where
  query := (eitherWord w).text
  filters := { userId := some "u2" }
  scope := .only .messages
  userId := "u1"
  userChannelIds := some ["c1"]

private theorem validate_senderOptions (w : PlainWord) : (senderOptions w).validate = .ok () := by
  refine SearchService.validate_eq_ok_iff.2 ⟨by simp [senderOptions], by simp [senderOptions], ?_⟩
  simp only [senderOptions]
  decide

/-- The lookup that these options make. -/
private def senderLookup (w : PlainWord) : MessageLookup where
  text := { anyOf := ["alpha", .ofList w.chars] }
  accessibleChannelIds := some ["c1"]
  filters := { userId := some "u2" }
  limit := 100

/-- What the searcher is asked. -/
private def senderRequest (w : PlainWord) : Request where
  base := .ofList (alpha.chars ++ ' ' :: w.chars)
  operators := { matchAny := true }
  filters := { userId := some "u2" }
  userId := "u1"
  userChannelIds := some ["c1"]

private theorem messageLookupOn_senderOptions (w : PlainWord) (db : Database) :
    (SearchService.request {} (senderOptions w)).messageLookupOn db = .ok (senderLookup w) := by
  have hwords : Text.words (.ofList (alpha.chars ++ ' ' :: w.chars)) = ["alpha", .ofList w.chars] := by
    have hbreak : Chars.IsBreak (' ' :: w.chars) := Chars.isBreak_cons.2 (by decide)
    have halpha := Chars.words_append_of_solid alpha.solid alpha.ne_nil hbreak
    have hword := Chars.words_append_of_solid w.solid w.ne_nil Chars.IsBreak.nil
    rw [List.append_nil] at hword
    rw [Text.words, String.toList_ofList, halpha, Chars.words_cons_of_isBlank (by decide), hword]
    rfl
  have hrequest : SearchService.request {} (senderOptions w) = senderRequest w := by
    simp only [SearchService.request, senderOptions, ofText_eitherWord]
    rfl
  have hchannels : (senderRequest w).channelIds.on db = .ok [] := rfl
  have hsenders : (senderRequest w).senderIds.on db = .ok [] := rfl
  rw [hrequest, Request.messageLookupOn, hchannels, hsenders, Outcome.ok_bind, Outcome.ok_bind]
  refine congrArg Except.ok ?_
  simp only [Request.messageLookup, Request.textMatch, senderRequest, hwords, if_true]
  rfl

/-- One message of the sender asked for, in the channel of the user. -/
private def quietRows : Database where
  users := ⟨[⟨1, person "u1" "ann"⟩, ⟨2, person "u2" "bob"⟩]⟩
  channels := ⟨[⟨1, place "c1" "general"⟩, ⟨2, place "c2" "secret"⟩]⟩
  messages := ⟨[⟨1, post "m1" "c1" "u2" "alpha"⟩]⟩

/-- The same, and a message of that sender in another channel. -/
private def loudRows : Database :=
  { quietRows with messages := ⟨[⟨1, post "m1" "c1" "u2" "alpha"⟩, ⟨2, post "x" "c2" "u2" "beta"⟩]⟩ }

private theorem test?_alpha :
    Like.test? (Like.containing "alpha") "alpha" = some true ∧
      Like.test? (Like.containing "alpha") "beta" = some false ∧
      Like.test? (Like.containing "alpha") "" = some false := by
  decide_cbv

private theorem test?_long {w : PlainWord} (hw : Like.isTooLong (Like.containing (.ofList w.chars)) = true)
    (text : String) : Like.test? (Like.containing (.ofList w.chars)) text = none := by
  rw [Like.test?, if_pos hw]

private theorem loud_fails {w : PlainWord} (hw : Like.isTooLong (Like.containing (.ofList w.chars)) = true) :
    loudRows.searchMessages (senderLookup w) = .error .tooComplex := by
  have hlong : (senderLookup w).text.hasLongPattern = true := by
    simp [senderLookup, TextMatch.hasLongPattern, TextMatch.needles, hw]
  -- the first word does not occur, so the second is tried
  have htest : (senderLookup w).text.test? ["beta", ""] "beta" = none := by
    simp [senderLookup, TextMatch.test?, TextMatch.finds?, TextMatch.needles, test?_alpha, test?_long hw]
  have hover : loudRows.messageOverruns (senderLookup w) (post "x" "c2" "u2" "beta") = true := by
    rw [Database.messageOverruns, TextMatch.overruns, hlong]
    simp only [post, Option.getD_none, htest]
    rfl
  have hany : (0 < (senderLookup w).limit && loudRows.messages.any (loudRows.messageOverruns (senderLookup w))) =
      true := by
    have hlimit : 0 < (senderLookup w).limit := by simp [senderLookup]
    have hmem : post "x" "c2" "u2" "beta" ∈ loudRows.messages.toList := by decide
    rw [decide_eq_true hlimit, Bool.true_and]
    exact List.any_eq_true.2 ⟨_, hmem, hover⟩
  rw [Database.searchMessages_eq, hany, Database.guardLookup, Bool.or_true]
  rfl

private theorem quiet_fits (w : PlainWord) :
    quietRows.messageFits (senderLookup w) (post "m1" "c1" "u2" "alpha") = true := by
  have htext : (senderLookup w).text.holds ["alpha", ""] "alpha" = true := by
    have hmatch : Like.isMatch (Like.containing "alpha") "alpha" = true := by decide_cbv
    simp [senderLookup, TextMatch.holds, TextMatch.findsIn, TextMatch.sparesText, TextMatch.needles, TextMatch.excluded,
      hmatch]
  simp only [Database.messageFits, post, Option.getD_none, htext]
  rfl

private theorem quiet_found (w : PlainWord) : ∃ row, quietRows.searchMessages (senderLookup w) = .ok [row] := by
  -- the first word occurs, so the second is never tried
  have htest : (senderLookup w).text.test? ["alpha", ""] "alpha" = some true := by
    simp [senderLookup, TextMatch.test?, TextMatch.finds?, TextMatch.needles, test?_alpha, TextMatch.spares?,
      TextMatch.excluded]
  have hover : quietRows.messageOverruns (senderLookup w) (post "m1" "c1" "u2" "alpha") = false := by
    rw [Database.messageOverruns, TextMatch.overruns]
    simp only [post, Option.getD_none, htest]
    simp
  have hany : (0 < (senderLookup w).limit && quietRows.messages.any (quietRows.messageOverruns (senderLookup w))) =
      false := by
    have hrows : quietRows.messages.toList = [post "m1" "c1" "u2" "alpha"] := rfl
    rw [Rows.any, hrows, List.any_cons, hover, List.any_nil, Bool.or_self, Bool.and_false]
  have hplaced : quietRows.messagesInPlace =
      [((post "m1" "c1" "u2" "alpha", place "c1" "general"), person "u2" "bob")] := by decide
  have hfound : quietRows.foundMessages (senderLookup w) =
      [((post "m1" "c1" "u2" "alpha", place "c1" "general"), person "u2" "bob")] := by
    simp [Database.foundMessages, hplaced, quiet_fits]
  have hshape : (senderLookup w).shape.fits = true := by
    have htests : (senderLookup w).text.clauses [columnDepth, columnDepth] columnDepth = [⟨7, 4⟩] := by
      simp [senderLookup, TextMatch.clauses, TextMatch.needles, TextMatch.excluded]
      decide
    have hshape : (senderLookup w).shape =
        ⟨alwaysClause, [⟨7, 4⟩, .membership ["c1"], .comparison, .test, .test], false⟩ := by
      rw [MessageLookup.shape, htests]
      rfl
    rw [hshape]
    decide
  have htime : (Database.readTime (.text "2024-01-02 00:00:00")).toOption.isSome = true := by decide_cbv
  have hread : ∃ row, quietRows.messageRow (post "m1" "c1" "u2" "alpha") (place "c1" "general") (person "u2" "bob") =
      .ok row := by
    cases ht : Database.readTime (.text "2024-01-02 00:00:00") with
    | error e => rw [ht] at htime; cases htime
    | ok t => exact ⟨_, by simp only [Database.messageRow, post, ht]; rfl⟩
  obtain ⟨row, hrow⟩ := hread
  refine ⟨row, ?_⟩
  rw [Database.searchMessages_eq, hany, hfound, hshape]
  simp [Database.guardLookup, senderLookup, Database.cutPage, hrow]

private theorem outcomeOn_senderOptions (w : PlainWord) (db : Database) :
    SearchService.outcomeOn {} (senderOptions w) false default .epoch db =
      (SearchService.degrade do
        let rows ← lookedUp (db.searchMessages (senderLookup w))
        (SearchService.request {} (senderOptions w)).selected
          (SearchService.request {} (senderOptions w)).datedCondition MessageRow.toResult MessageRow.content rows).map
        (SearchService.page (senderOptions w)) := by
  have hcriteria : (SearchService.request {} (senderOptions w)).hasCriteria = true := by
    simp [SearchService.request, senderOptions, ofText_eitherWord, Request.hasCriteria, Request.hasText, Text.isBlank,
      alpha, Chars.isBlank]
  have hrun := (SearchService.request {} (senderOptions w)).run_searchMessages db
  have hchannels : (SearchService.request {} (senderOptions w)).userChannelIds = some ["c1"] := rfl
  rw [hcriteria, hchannels, if_neg (by decide), Request.messagesOn, messageLookupOn_senderOptions,
    Outcome.ok_bind] at hrun
  rw [SearchService.outcomeOn_only (d := .messages) rfl, validate_senderOptions]
  show (SearchService.degrade ((searchMessages _).run _ _).1).map _ = _
  rw [hrun]

/-- The search comes to the message of the user, or breaks down over it. -/
private theorem quiet_outcome (w : PlainWord) :
    SearchService.outcomeOn {} (senderOptions w) false default .epoch quietRows = .error .crashed ∨
      ∃ response, SearchService.outcomeOn {} (senderOptions w) false default .epoch quietRows = .ok response ∧
        response.total = 1 := by
  obtain ⟨row, hrow⟩ := quiet_found w
  have hcondition : (SearchService.request {} (senderOptions w)).datedCondition = .always := by
    simp only [SearchService.request, senderOptions, ofText_eitherWord]
    rfl
  rw [outcomeOn_senderOptions, hrow, hcondition, lookedUp_ok, Outcome.ok_bind, Request.selected]
  cases h : [row].mapM fun row => (SearchService.request {} (senderOptions w)).annotate row.content row.toResult with
  | none => exact .inl rfl
  | some results =>
    simp only [List.mapM_cons, List.mapM_nil, Option.bind_eq_bind, Option.bind_eq_some_iff, Option.pure_def,
      Option.bind_some, Option.some.injEq] at h
    obtain ⟨result, -, rfl⟩ := h
    exact .inr ⟨_, rfl, rfl⟩

/-- A message of a stranger makes the search come to nothing. -/
private theorem loud_outcome {w : PlainWord} (hw : Like.isTooLong (Like.containing (.ofList w.chars)) = true) :
    SearchService.outcomeOn {} (senderOptions w) false default .epoch loudRows = .ok ⟨[], 0⟩ := by
  rw [outcomeOn_senderOptions, loud_fails hw, lookedUp_error]
  show Except.ok (SearchService.page _ []) = _
  simp [SearchService.page, SearchService.sortResults]

private theorem quiet_outcome_ne_loud {w : PlainWord}
    (hw : Like.isTooLong (Like.containing (.ofList w.chars)) = true) :
    SearchService.outcomeOn {} (senderOptions w) false default .epoch quietRows ≠
      SearchService.outcomeOn {} (senderOptions w) false default .epoch loudRows := by
  intro heq
  rw [loud_outcome hw] at heq
  rcases quiet_outcome w with hcrashed | ⟨response, hresponse, htotal⟩
  · rw [hcrashed] at heq
    cases heq
  · rw [hresponse] at heq
    obtain rfl := Except.ok.inj heq
    cases htotal

private theorem isTooLong_longWord {n : Nat} (h : Like.byteLimit < n + 3) :
    Like.isTooLong (Like.containing (.ofList (longWord n).chars)) = true := by
  refine isTooLong_containing ?_
  rw [String.toList_ofList, longWord, List.length_replicate]
  exact h

/-- The exception is needed: here a message of another channel is tested against a word that is too long, and the search
of the user comes to nothing. -/
theorem not_confined_with_long_pattern :
    ¬∀ (db db' : Database) (o : SearchOptions) (channelIds : List String), db.Keyed → db'.Keyed → SamePeople db db' →
      db.plan = db'.plan → SameMessages channelIds db db' → o.validate = .ok () → o.scope = .only .messages →
      o.userChannelIds = some channelIds →
      SearchService.outcomeOn {} o false default .epoch db = SearchService.outcomeOn {} o false default .epoch db' := by
  have hlong := isTooLong_longWord (n := 49998) (by decide)
  have hquiet : quietRows.Keyed := ⟨by decide, by decide, by decide, by decide, by decide, by decide, by decide⟩
  have hloud : loudRows.Keyed := ⟨by decide, by decide, by decide, by decide, by decide, by decide, by decide⟩
  intro h
  exact quiet_outcome_ne_loud hlong (h quietRows loudRows (senderOptions (longWord 49998)) ["c1"] hquiet hloud
    ⟨by decide, by decide⟩ rfl ⟨by decide, by decide⟩ (validate_senderOptions _) rfl rfl)

end WorkspaceSearch
