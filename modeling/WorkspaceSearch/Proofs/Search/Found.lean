import WorkspaceSearch.Proofs.Database.Anchored
import WorkspaceSearch.Proofs.Database.Visible
import WorkspaceSearch.Proofs.Search.Results
import WorkspaceSearch.Proofs.Time.JulianScale

/-!
# Messages that are found

A lookup that has room for all messages answers for exactly the messages that it lets through
(`Database.exists_searchMessages`), and the results are those of the rows of which the condition holds
(`Request.exists_selected`).  In any case there are no more results than rows to fetch.
-/

namespace WorkspaceSearch

/-! ### Rows -/

/-- A lookup within the limits of statements and patterns. -/
structure MessageLookup.Accepted (q : MessageLookup) : Prop where
  shape : q.shape.fits = true
  patterns : q.text.hasLongPattern = false

/-- A row is the answer for a message. -/
structure MessageRow.IsOf (row : MessageRow) (m : Stored.Message) : Prop where
  id : row.id = m.id
  content : row.content = m.content
  time : m.createdAt.instant? = some row.createdAt

/-- A condition on the result of a row is one on its message. -/
theorem MessageRow.IsOf.holds_toResult {row : MessageRow} {m : Stored.Message} (h : row.IsOf m) {t : Instant}
    (ht : m.createdAt.Stamps t) (condition : Condition) :
    condition.holds row.toResult = condition.holdsOf m.content t := by
  obtain rfl := Option.some.inj (ht.instant?_eq.symm.trans h.time)
  rw [← h.content]
  rfl

namespace Database

variable {db : Database} {q : MessageLookup} {m : Stored.Message}

/-- The answer for a message has its fields, and its time if that can be read. -/
theorem messageRow_eq_ok {c : Stored.Channel} {u : Stored.User} {row : MessageRow}
    (h : db.messageRow m c u = .ok row) :
    ∃ t, m.createdAt.instant? = some t ∧
      row = { id := m.id, channelId := m.channelId, channelName := c.name, senderId := m.senderId
              senderName := u.displayName, content := m.content, formattedContent := m.formattedContent
              messageType := m.messageType, attachmentId := m.attachmentId, reactionCount := db.reactionCount m.id
              createdAt := t } := by
  obtain ⟨t, ht, h⟩ := Outcome.bind_eq_ok.1 h
  exact ⟨t, instant?_of_readTime ht, (Except.ok.inj h).symm⟩

private theorem isOf_of_messageRow {c : Stored.Channel} {u : Stored.User} {row : MessageRow}
    (h : db.messageRow m c u = .ok row) : row.IsOf m := by
  obtain ⟨t, ht, rfl⟩ := messageRow_eq_ok h
  exact ⟨rfl, rfl, ht⟩

private theorem exists_messageRow {t : Instant} (h : m.createdAt.instant? = some t) (c : Stored.Channel)
    (u : Stored.User) : ∃ row, db.messageRow m c u = .ok row := by
  rw [messageRow, readTime, h]
  exact ⟨_, rfl⟩

/-- A row that is found is the answer for a message that the lookup lets through. -/
theorem exists_of_mem_searchMessages {rows : List MessageRow} (h : db.searchMessages q = .ok rows) {row : MessageRow}
    (hrow : row ∈ rows) :
    ∃ m ∈ db.messages.toList, db.messageFits q m = true ∧ ∃ c u, db.messageRow m c u = .ok row := by
  rw [searchMessages_eq] at h
  obtain ⟨x, hx, hread⟩ := (Outcome.mem_of_mapM (mem_of_guardLookup h hrow)).1 hrow
  obtain ⟨hplaced, hfits⟩ := List.mem_filter.1 (List.mem_mergeSort.1 (mem_of_mem_cutPage hx))
  exact ⟨x.1.1, (mem_join.1 (mem_join.1 hplaced).1).1, hfits, _, _, hread⟩

/-- A lookup answers no more rows than it is asked for. -/
private theorem length_searchMessages_le {rows : List MessageRow} (h : db.searchMessages q = .ok rows) :
    rows.length ≤ q.limit := by
  rw [searchMessages_eq, guardLookup] at h
  split at h
  · obtain rfl := Except.ok.inj h
    exact Nat.zero_le _
  · split at h
    · cases h
    · rw [Outcome.length_of_mapM h, cutPage]
      exact List.length_take_le _ _

variable (hkeyed : db.Keyed) (hanchored : db.Anchored)

include hkeyed hanchored

private theorem mem_messages_iff : m ∈ db.messages.toList ↔ ∃ x ∈ db.messagesInPlace, x.1.1 = m := by
  rw [← map_message_messagesInPlace hkeyed hanchored, List.mem_map]

private theorem length_foundMessages_le (q : MessageLookup) :
    (db.foundMessages q).length ≤ db.messages.toList.length := by
  have hplaced := congrArg List.length (map_message_messagesInPlace hkeyed hanchored)
  rw [List.length_map] at hplaced
  rw [foundMessages, List.length_mergeSort, ← hplaced]
  exact List.length_filter_le _ _

/-- A lookup that has room for all messages answers for the messages that it lets through. -/
theorem exists_searchMessages (hq : q.Accepted) (hchannels : q.accessibleChannelIds ≠ some []) (hoffset : q.offset = 0)
    (hlimit : db.messages.toList.length ≤ q.limit)
    (hread : ∀ m ∈ db.messages.toList, ∃ t, m.createdAt.instant? = some t) :
    ∃ rows, db.searchMessages q = .ok rows ∧
      (∀ row ∈ rows, ∃ m ∈ db.messages.toList, db.messageFits q m = true ∧ row.IsOf m) ∧
      ∀ m ∈ db.messages.toList, db.messageFits q m = true → ∃ row ∈ rows, row.IsOf m := by
  have hnone : (0 < q.limit && db.messages.any (db.messageOverruns q)) = false := by
    rw [any_eq_false (messageOverruns_eq_false hq.patterns), Bool.and_false]
  have hmem : ∀ x, x ∈ db.foundMessages q ↔ x ∈ db.messagesInPlace ∧ db.messageFits q x.1.1 = true := by
    intro x
    rw [foundMessages, List.mem_mergeSort, List.mem_filter]
  have hreadable : ∀ x ∈ db.foundMessages q, ∃ row, db.messageRow x.1.1 x.1.2 x.2 = .ok row := by
    intro x hx
    obtain ⟨t, ht⟩ := hread x.1.1 ((mem_messages_iff hkeyed hanchored).2 ⟨x, ((hmem x).1 hx).1, rfl⟩)
    exact exists_messageRow ht _ _
  obtain ⟨rows, hrows, hiff⟩ := exists_guardLookup (decide_eq_false hchannels) hq.shape hnone
    ((length_foundMessages_le hkeyed hanchored q).trans hlimit) hreadable
  refine ⟨rows, by rw [searchMessages_eq, hoffset]; exact hrows, ?_, ?_⟩
  · intro row hrow
    obtain ⟨x, hx, hxrow⟩ := (hiff row).1 hrow
    obtain ⟨hplaced, hfits⟩ := (hmem x).1 hx
    exact ⟨x.1.1, (mem_messages_iff hkeyed hanchored).2 ⟨x, hplaced, rfl⟩, hfits, isOf_of_messageRow hxrow⟩
  · intro m hm hfits
    obtain ⟨x, hplaced, rfl⟩ := (mem_messages_iff hkeyed hanchored).1 hm
    obtain ⟨t, ht⟩ := hread x.1.1 hm
    obtain ⟨row, hxrow⟩ := exists_messageRow ht x.1.2 x.2
    exact ⟨row, (hiff row).2 ⟨x, (hmem x).2 ⟨hplaced, hfits⟩, hxrow⟩, isOf_of_messageRow hxrow⟩

end Database

/-! ### Results -/

namespace Request

variable {r : Request} {db : Database}

theorem channelIds_on (r : Request) (db : Database) :
    r.channelIds.on db = lookedUp (db.resolveChannelIds r.operators.channels) := by
  unfold channelIds
  split
  · next h =>
    rw [Database.resolveChannelIds, h]
    rfl
  · exact Attempt.on_ask (c := .resolveChannelIds _) rfl

theorem senderIds_on (r : Request) (db : Database) :
    r.senderIds.on db = lookedUp (db.resolveUserIds r.operators.senders) := by
  unfold senderIds
  split
  · next h =>
    rw [Database.resolveUserIds, h]
    rfl
  · exact Attempt.on_ask (c := .resolveUserIds _) rfl

/-- Annotating leaves what a condition checks. -/
private theorem holds_of_annotate {primary : String} {result annotated : SearchResult}
    (h : r.annotate primary result = some annotated) (condition : Condition) :
    condition.holds annotated = condition.holds result := by
  obtain ⟨score, highlights, context, rfl⟩ := exists_of_annotate h
  rfl

/-- The results of rows that can be annotated are those of which the condition holds. -/
theorem exists_selected {Row : Type} (condition : Condition) {ofRow : Row → SearchResult} {primary : Row → String}
    {rows : List Row} (h : ∀ row ∈ rows, ∃ s, r.annotate (primary row) (ofRow row) = some s) :
    ∃ results, r.selected condition ofRow primary rows = .ok results ∧
      ∀ id, id ∈ results.map (·.id) ↔ ∃ row ∈ rows, (ofRow row).id = id ∧ condition.holds (ofRow row) = true := by
  obtain ⟨annotated, hannotated⟩ := Outcome.exists_mapM_some h
  refine ⟨condition.select annotated, by rw [selected, hannotated], fun id => ?_⟩
  simp only [Condition.select, List.mem_map, List.mem_filter, Outcome.mem_of_mapM_some hannotated]
  constructor
  · rintro ⟨s, ⟨⟨row, hrow, hs⟩, hholds⟩, rfl⟩
    exact ⟨row, hrow, (annotate_eq_some hs).1.symm, holds_of_annotate hs condition ▸ hholds⟩
  · rintro ⟨row, hrow, rfl, hholds⟩
    obtain ⟨s, hs⟩ := h row hrow
    exact ⟨s, ⟨⟨row, hrow, hs⟩, (holds_of_annotate hs condition).trans hholds⟩, (annotate_eq_some hs).1⟩

/-- No more messages are found than there are rows to fetch. -/
theorem length_messagesOn_le {results : List SearchResult} (h : r.messagesOn db = .ok results) :
    results.length ≤ r.limit := by
  obtain ⟨q, hq, h⟩ := Outcome.bind_eq_ok.1 h
  obtain ⟨rows, hrows, h⟩ := Outcome.bind_eq_ok.1 h
  have hlimit : q.limit = r.limit := by
    obtain ⟨channelIds, -, hq⟩ := Outcome.bind_eq_ok.1 hq
    obtain ⟨senderIds, -, hq⟩ := Outcome.bind_eq_ok.1 hq
    rw [← Except.ok.inj hq]
    rfl
  have hfetched := Database.length_searchMessages_le (eq_ok_of_lookedUp hrows)
  unfold selected at h
  split at h
  · next annotated hannotated =>
    obtain rfl := Except.ok.inj h
    have hannotated := Outcome.length_of_mapM_some hannotated
    have hselected : (r.datedCondition.select annotated).length ≤ annotated.length := List.length_filter_le _ _
    omega
  · cases h

end Request

end WorkspaceSearch
