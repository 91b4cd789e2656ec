import WorkspaceSearch.Proofs.Database.Names
import WorkspaceSearch.Proofs.Query.Reading
import WorkspaceSearch.Proofs.Search.Found
import WorkspaceSearch.Proofs.Search.Wanted

/-!
# Searches that name channels

A query that names a channel narrows the search of messages to the channels that its names stand for
(`Request.channelIds_of_mem_trace`); where they stand for none, the search is not narrowed at all.
-/

namespace WorkspaceSearch

open Query (Sentence Item)

namespace Request

variable {r : Request} {db : Database} {q : MessageLookup}

/-- The only lookup of messages is the one for the channels and senders that the query names. -/
private theorem messageLookupOn_of_mem_trace (h : .searchMessages q ∈ (searchMessages r).trace Database.answer db) :
    r.messageLookupOn db = .ok q := by
  unfold searchMessages at h
  split at h
  · cases h
  rcases Attempt.mem_calls_of_bind (r.looks_channelIds db) h with hcall | ⟨channelIds, hchannels, h⟩
  · unfold channelIds at hcall
    split at hcall
    · cases hcall
    · cases List.mem_singleton.1 hcall
  rcases Attempt.mem_calls_of_bind (r.looks_senderIds db) h with hcall | ⟨senderIds, hsenders, h⟩
  · unfold senderIds at hcall
    split at hcall
    · cases hcall
    · cases List.mem_singleton.1 hcall
  have hlooks : (Attempt.ask (.searchMessages (r.messageLookup channelIds senderIds))).Looks db :=
    Attempt.looks_ask (c := .searchMessages _) rfl
  rcases Attempt.mem_calls_of_bind hlooks h with hcall | ⟨rows, -, h⟩
  · obtain rfl := Call.searchMessages.inj (List.mem_singleton.1 hcall)
    rw [messageLookupOn, hchannels, hsenders]
    rfl
  · rw [calls_results] at h
    cases h

/-- A lookup of messages is for the channels that the names in the query stand for. -/
theorem channelIds_of_mem_trace (h : .searchMessages q ∈ (searchMessages r).trace Database.answer db) :
    q.channelIds = db.channelsNamed r.operators.channels := by
  obtain ⟨channelIds, hchannels, hq⟩ := Outcome.bind_eq_ok.1 (messageLookupOn_of_mem_trace h)
  obtain ⟨senderIds, -, hq⟩ := Outcome.bind_eq_ok.1 hq
  rw [channelIds_on, Database.resolveChannelIds_of_names] at hchannels
  split at hchannels
  · cases hchannels
  · rw [← Except.ok.inj hq, ← Except.ok.inj hchannels]
    rfl

end Request

namespace Database

/-- The rows of a lookup for some channels are in these channels. -/
private theorem channelId_of_mem_searchMessages {db : Database} {q : MessageLookup} {rows : List MessageRow}
    (h : db.searchMessages q = .ok rows) (hsome : q.channelIds ≠ []) {row : MessageRow} (hrow : row ∈ rows) :
    row.channelId ∈ q.channelIds := by
  obtain ⟨m, -, hfits, c, u, hread⟩ := exists_of_mem_searchMessages h hrow
  obtain ⟨t, -, rfl⟩ := messageRow_eq_ok hread
  exact (messageFits_iff.1 hfits).1.1.resolve_left hsome

/-- A lookup of messages is for channels with one among them, and answers no message of another channel. -/
structure Restricts (db : Database) (q : MessageLookup) (channelId : String) : Prop where
  mem : channelId ∈ q.channelIds
  rows : ∀ rows, db.searchMessages q = .ok rows → ∀ row ∈ rows, row.channelId ∈ q.channelIds

private theorem restricts_iff {db : Database} {q : MessageLookup} {channelId : String} :
    db.Restricts q channelId ↔ channelId ∈ q.channelIds :=
  ⟨Restricts.mem, fun h => ⟨h, fun _ hrows _ => channelId_of_mem_searchMessages hrows (List.ne_nil_of_mem h)⟩⟩

end Database

namespace Request

variable {r : Request} {db : Database} {c : Stored.Channel}

/-- With a channel and its name among those that the query names, the lookup is restricted to channels with it among
them, if its name leads to it. -/
private theorem restricts_of_mem (hc : c ∈ db.channels.toList) (hname : c.name ∈ r.operators.channels)
    (h : Text.NoForeignCapital c.name ∨ c.name = c.id) {q : MessageLookup}
    (hq : .searchMessages q ∈ (searchMessages r).trace Database.answer db) : db.Restricts q c.id := by
  rw [Database.restricts_iff, channelIds_of_mem_trace hq, Database.mem_channelsNamed]
  exact ⟨c, hc, rfl, c.name, hname, h.imp_left Text.foldsTo_self_iff.2⟩

/-- The name of a channel alone restricts the lookup to channels with it among them only if it leads to it. -/
private theorem restricts_iff_of_singleton (hkeyed : db.Keyed) (hc : c ∈ db.channels.toList)
    (hname : r.operators.channels = [c.name]) {q : MessageLookup}
    (hq : .searchMessages q ∈ (searchMessages r).trace Database.answer db) :
    db.Restricts q c.id ↔ Text.NoForeignCapital c.name ∨ c.name = c.id := by
  refine ⟨fun h => ?_, fun h => restricts_of_mem hc (hname ▸ List.mem_singleton_self _) h hq⟩
  rw [Database.restricts_iff, channelIds_of_mem_trace hq, hname, Database.mem_channelsNamed] at h
  obtain ⟨d, hd, hsame, name, hmem, hleads⟩ := h
  rw [List.mem_singleton.1 hmem, List.inj_on_of_nodup_map hkeyed.channels hd hc hsame] at hleads
  exact hleads.imp_left Text.foldsTo_self_iff.1

/-- Messages are looked up when the query does not name too many channels and senders. -/
private theorem exists_searchMessages_mem_trace (hcriteria : r.hasCriteria = true) (huser : r.userChannelIds ≠ some [])
    (hchannels : 2 * r.operators.channels.length ≤ StatementShape.valueLimit)
    (hsenders : 3 * r.operators.senders.length ≤ StatementShape.valueLimit) :
    ∃ q, .searchMessages q ∈ (searchMessages r).trace Database.answer db := by
  have hlookup : r.messageLookupOn db = .ok (r.messageLookup (db.channelsNamed r.operators.channels)
      (db.usersNamed r.operators.senders)) := by
    rw [messageLookupOn, channelIds_on, senderIds_on, Database.resolveChannelIds_of_names,
      Database.resolveUserIds_of_names, if_neg (Nat.not_lt.2 hchannels), if_neg (Nat.not_lt.2 hsenders)]
    rfl
  exact ⟨_, mem_trace_searchMessages hcriteria huser hlookup⟩

end Request

namespace SearchService

variable {db : Database}

/-- A stored name leads to its own bearer when it has no capital letter outside ASCII or is the identifier as well, and
the address of a user likewise.  A query with the name of such a channel looks for messages in channels with it among
them; with no other name in the query that is the only case.  Too many names come to a fault. -/
theorem names_lead_home (hkeyed : db.Keyed) :
    (∀ c ∈ db.channels.toList, db.LeadsToChannel c.name c.id ↔ Text.NoForeignCapital c.name ∨ c.name = c.id) ∧
    (∀ u ∈ db.users.toList,
      (db.LeadsToUser u.username u.id ↔
        Text.NoForeignCapital u.username ∨ Text.FoldsTo u.username u.email ∨ u.username = u.id) ∧
      (db.LeadsToUser u.email u.id ↔
        Text.NoForeignCapital u.email ∨ Text.FoldsTo u.email u.username ∨ u.email = u.id)) ∧
    (∀ names : List String,
      (StatementShape.valueLimit < 2 * names.length →
        Database.answer (.resolveChannelIds names) db = (.error (.database .tooComplex), db)) ∧
      (StatementShape.valueLimit < 3 * names.length →
        Database.answer (.resolveUserIds names) db = (.error (.database .tooComplex), db))) ∧
    (∀ (s : Sentence) keyword sigils name, .channel keyword sigils name ∈ s.items →
      .ofList name.chars ∈ (ParsedQuery.ofText s.text).operators.channels) ∧
    ∀ (settings : SearchSettings) (o : SearchOptions), ∀ c ∈ db.channels.toList,
      c.name ∈ (ParsedQuery.ofText o.query).operators.channels →
      (o.userChannelIds ≠ some [] →
        2 * (ParsedQuery.ofText o.query).operators.channels.length ≤ StatementShape.valueLimit →
        3 * (ParsedQuery.ofText o.query).operators.senders.length ≤ StatementShape.valueLimit →
        ∃ q, .searchMessages q ∈ (searchMessages (request settings o)).trace Database.answer db) ∧
      ∀ q, .searchMessages q ∈ (searchMessages (request settings o)).trace Database.answer db →
        (Text.NoForeignCapital c.name ∨ c.name = c.id → db.Restricts q c.id) ∧
        ((ParsedQuery.ofText o.query).operators.channels = [c.name] →
          (db.Restricts q c.id ↔ Text.NoForeignCapital c.name ∨ c.name = c.id)) := by
  refine ⟨fun c hc => ?_, fun u hu => ⟨?_, ?_⟩, fun names => ⟨fun h => ?_, fun h => ?_⟩,
    fun s keyword sigils name hitem => ?_, fun settings o c hc hname => ⟨fun huser => ?_, fun q hq => ⟨?_, ?_⟩⟩⟩
  · rw [Database.leadsToChannel_iff hkeyed hc, Text.foldsTo_self_iff]
  · rw [Database.leadsToUser_iff hkeyed hu, Text.foldsTo_self_iff]
  · rw [Database.leadsToUser_iff hkeyed hu, Text.foldsTo_self_iff, or_left_comm]
  · rw [Database.answer, Database.resolveChannelIds_of_names, if_pos h]
    rfl
  · rw [Database.answer, Database.resolveUserIds_of_names, if_pos h]
    rfl
  · rw [ParsedQuery.ofText_text]
    exact List.mem_filterMap.2 ⟨_, hitem, rfl⟩
  · -- a query that names a channel asks for something, so the lookup is made
    have hne : (ParsedQuery.ofText o.query).operators.channels ≠ [] := List.ne_nil_of_mem hname
    have hcriteria : (request settings o).hasCriteria = true := by
      simp [Request.hasCriteria, request, Operators.isUnrestricted, hne]
    exact Request.exists_searchMessages_mem_trace hcriteria huser
  · exact fun h => Request.restricts_of_mem hc hname h hq
  · exact fun hsole => Request.restricts_iff_of_singleton hkeyed hc hsole hq

private def channelRows (name : String) : Database where
  users := ⟨[⟨1, ⟨"u1", "ann", "", "", "ann@example.org", none, .integer 0, .text "2024-01-01 00:00:00"⟩⟩]⟩
  channels := ⟨[⟨1, ⟨"c1", name, none, none, "public", .text "2024-01-01 00:00:00"⟩⟩,
    ⟨2, ⟨"c2", "general", none, none, "public", .text "2024-01-01 00:00:00"⟩⟩]⟩
  messages := ⟨[⟨1, ⟨"m1", "c2", "u1", "ab", none, "text", none, .text "2024-01-02 00:00:00"⟩⟩]⟩

private def inSales : SearchOptions where
  query := "ab in:#Sales"
  scope := .only .messages
  userId := "u1"

/-- Every channel, user and address leads home, and a search in a channel looks for messages there. -/
theorem names_lead_home_sales :
    (channelRows "Sales").LeadsToChannel "Sales" "c1" ∧ (channelRows "Sales").LeadsToUser "ann" "u1" ∧
      (channelRows "Sales").LeadsToUser "ann@example.org" "u1" ∧
      ∃ q, .searchMessages q ∈ (searchMessages (request {} inSales)).trace Database.answer (channelRows "Sales") ∧
        (channelRows "Sales").Restricts q "c1" := by
  have hkeyed : (channelRows "Sales").Keyed :=
    ⟨by decide, by decide, by decide, by decide, by decide, by decide, by decide⟩
  have hparsed : (ParsedQuery.ofText inSales.query).operators = { channels := ["Sales"] } := by decide_cbv
  obtain ⟨hchannels, husers, -, -, hsearch⟩ := names_lead_home hkeyed
  obtain ⟨hname, hemail⟩ := husers _ List.mem_cons_self
  obtain ⟨hlooks, hrestricts⟩ := hsearch {} inSales _ List.mem_cons_self (by rw [hparsed]; exact List.mem_cons_self)
  obtain ⟨q, hq⟩ := hlooks (by decide) (by rw [hparsed]; decide) (by rw [hparsed]; decide)
  exact ⟨(hchannels _ List.mem_cons_self).2 (.inl (by decide)), hname.2 (.inl (by decide)),
    hemail.2 (.inl (by decide)), q, hq, (hrestricts q hq).1 (.inl (by decide))⟩

private def inAccented : SearchOptions where
  query := "ab in:#É"
  scope := .only .messages
  userId := "u1"

private def placesFound (o : SearchOptions) (db : Database) : Option (List (String × Option String)) :=
  (((searchMessages (request {} o)).run Database.answer db).1.map fun results =>
    results.map fun result => (result.id, result.channel.map (·.id))).toOption

/-- A channel whose name has a capital letter outside ASCII is not found by its name, and a search in it shows a message
of another channel. -/
theorem foreign_capital_leads_astray :
    (∃ c ∈ (channelRows "É").channels.toList, c.id = "c1" ∧ c.name = "É") ∧
      Database.answer (.resolveChannelIds ["É"]) (channelRows "É") = (.ok [], channelRows "É") ∧
      (ParsedQuery.ofText inAccented.query).operators.channels = ["É"] ∧
      placesFound inAccented (channelRows "É") = some [("m1", some "c2")] := by
  refine ⟨⟨_, List.mem_cons_self, rfl, rfl⟩, ?_, by decide_cbv, by decide +kernel⟩
  have hnone : (channelRows "É").channelsNamed ["É"] = [] := by decide +kernel
  rw [Database.answer_resolveChannelIds (by decide), hnone]

end SearchService

end WorkspaceSearch
