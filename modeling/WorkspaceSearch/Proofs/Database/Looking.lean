import WorkspaceSearch.Database.Answer
import WorkspaceSearch.Search.Service

/-!
# Programs that only look up

A lookup leaves the database as it is.  So an attempt that makes no other calls comes to an outcome (`Attempt.on`) that
is put together from the outcomes of its parts (`Attempt.on_bind`).  None of the searchers makes other calls
(`run_searcher_snd`), and every one of them comes to what it finds in the database as it is (`run_searcher`).
-/

namespace WorkspaceSearch

/-- What a lookup of the database comes to in a search. -/
def lookedUp {α : Type} (outcome : Except DatabaseFault α) : Except Mishap α :=
  outcome.mapError fun e => .failed (.database e)

section

variable {α : Type}

theorem lookedUp_ok (a : α) : lookedUp (.ok a) = .ok a := rfl

theorem lookedUp_error (e : DatabaseFault) :
    lookedUp (.error e : Except DatabaseFault α) = .error (.failed (.database e)) :=
  rfl

theorem eq_ok_of_lookedUp {outcome : Except DatabaseFault α} {a : α} (h : lookedUp outcome = .ok a) :
    outcome = .ok a := by
  cases outcome with
  | error e => cases h
  | ok b => rw [← Except.ok.inj h]

end

namespace Attempt

variable {α β : Type} {db : Database}

/-- What an attempt comes to on a database. -/
def on (db : Database) (p : Attempt α) : Except Mishap α := (p.run.run Database.answer db).1

/-- An attempt leaves a database as it is. -/
def Looks (db : Database) (p : Attempt α) : Prop := (p.run.run Database.answer db).2 = db

/-- A call that looks something up comes to what is found. -/
theorem on_ask {c : Call} {outcome : Except DatabaseFault c.Answer} (h : Database.answer c db = db.found outcome) :
    (ask c).on db = lookedUp outcome := by
  have hon : (ask c).on db = (Database.answer c db).1.mapError .failed := rfl
  rw [hon, h]
  cases outcome <;> rfl

theorem looks_ask {c : Call} {outcome : Except DatabaseFault c.Answer} (h : Database.answer c db = db.found outcome) :
    (ask c).Looks db := by
  have hlooks : (ask c).Looks db ↔ (Database.answer c db).2 = db := Iff.rfl
  rw [hlooks, h]
  rfl

/-- An attempt that goes on after looking comes to what its parts come to. -/
theorem on_bind {p : Attempt α} (hp : p.Looks db) (f : α → Attempt β) :
    (p >>= f).on db = p.on db >>= fun a => (f a).on db := by
  unfold on Looks at *
  rw [Program.run_bind]
  rcases h : p.run.run Database.answer db with ⟨a | a, db'⟩ <;> rw [h] at hp <;> subst hp <;> rfl

private theorem on_ask_bind {c : Call} {outcome : Except DatabaseFault c.Answer}
    (h : Database.answer c db = db.found outcome)
    (f : c.Answer → Attempt β) : (ask c >>= f).on db = lookedUp outcome >>= fun a => (f a).on db := by
  rw [on_bind (looks_ask h), on_ask h]

private theorem looks_bind {p : Attempt α} {f : α → Attempt β} (hp : p.Looks db) (hf : ∀ a, (f a).Looks db) :
    (p >>= f).Looks db := by
  unfold Looks at *
  rw [Program.run_bind]
  rcases h : p.run.run Database.answer db with ⟨a | a, db'⟩ <;> rw [h] at hp <;> subst hp
  · rfl
  · exact hf a

/-! ### Calls -/

/-- The calls that an attempt makes on a database, in order. -/
def calls (db : Database) (p : Attempt α) : List Call := p.run.trace Database.answer db

theorem mem_calls_ask_bind (c : Call) (f : c.Answer → Attempt β) : c ∈ (ask c >>= f).calls db := List.mem_cons_self

/-- The calls after some looking are made once it comes to something. -/
theorem mem_calls_bind {p : Attempt α} (hp : p.Looks db) {a : α} (ha : p.on db = .ok a) {f : α → Attempt β} {c : Call}
    (h : c ∈ (f a).calls db) : c ∈ (p >>= f).calls db := by
  have hrun : (p >>= f).run = p.run.andThen (ExceptT.bindCont f) := rfl
  rw [calls, hrun, Program.trace_andThen, hp]
  refine List.mem_append_right _ ?_
  unfold on at ha
  rw [ha]
  exact h

/-- A call is made by some looking or after it has come to something. -/
theorem mem_calls_of_bind {p : Attempt α} (hp : p.Looks db) {f : α → Attempt β} {c : Call}
    (h : c ∈ (p >>= f).calls db) : c ∈ p.calls db ∨ ∃ a, p.on db = .ok a ∧ c ∈ (f a).calls db := by
  have hrun : (p >>= f).run = p.run.andThen (ExceptT.bindCont f) := rfl
  rw [calls, hrun, Program.trace_andThen, hp] at h
  refine (List.mem_append.1 h).imp_right fun hlater => ?_
  unfold on
  cases hout : (p.run.run Database.answer db).1 with
  | error e =>
    rw [hout] at hlater
    cases hlater
  | ok a =>
    rw [hout] at hlater
    exact ⟨a, rfl, hlater⟩

end Attempt

namespace Request

variable (r : Request) (db : Database)

theorem looks_channelIds : r.channelIds.Looks db := by
  unfold channelIds
  split
  · rfl
  · exact Attempt.looks_ask (c := .resolveChannelIds _) rfl

theorem looks_senderIds : r.senderIds.Looks db := by
  unfold senderIds
  split
  · rfl
  · exact Attempt.looks_ask (c := .resolveUserIds _) rfl

/-- The results of some rows of which a condition holds; the search breaks down where one cannot be annotated. -/
def selected {Row : Type} (condition : Condition) (ofRow : Row → SearchResult) (primary : Row → String)
    (rows : List Row) : Except Mishap (List SearchResult) :=
  match rows.mapM fun row => r.annotate (primary row) (ofRow row) with
  | some results => .ok (condition.select results)
  | none => .error .crashed

theorem run_results {Row : Type} (condition : Condition) (ofRow : Row → SearchResult) (primary : Row → String)
    (rows : List Row) :
    (r.results condition ofRow primary rows).run = .done (r.selected condition ofRow primary rows) := by
  unfold results selected
  cases rows.mapM fun row => r.annotate (primary row) (ofRow row) <;> rfl

private theorem on_results {Row : Type} (condition : Condition) (ofRow : Row → SearchResult) (primary : Row → String)
    (rows : List Row) :
    (r.results condition ofRow primary rows).on db = r.selected condition ofRow primary rows := by
  rw [Attempt.on, run_results]
  rfl

private theorem looks_results {Row : Type} (condition : Condition) (ofRow : Row → SearchResult) (primary : Row → String)
    (rows : List Row) : (r.results condition ofRow primary rows).Looks db := by
  rw [Attempt.Looks, run_results]
  rfl

theorem calls_results {Row : Type} (condition : Condition) (ofRow : Row → SearchResult) (primary : Row → String)
    (rows : List Row) : (r.results condition ofRow primary rows).calls db = [] := by
  rw [Attempt.calls, run_results]
  rfl

/-! ### Messages -/

/-- The lookup of messages, when the names of channels and senders can be resolved. -/
def messageLookupOn : Except Mishap MessageLookup := do
  let channelIds ← r.channelIds.on db
  let senderIds ← r.senderIds.on db
  pure (r.messageLookup channelIds senderIds)

/-- Messages are looked up when there is something to search for and a channel to search in. -/
theorem mem_trace_searchMessages {r : Request} {db : Database} (hcriteria : r.hasCriteria = true)
    (hchannels : r.userChannelIds ≠ some []) {q : MessageLookup} (h : r.messageLookupOn db = .ok q) :
    .searchMessages q ∈ (searchMessages r).trace Database.answer db := by
  unfold messageLookupOn at h
  cases hnamed : r.channelIds.on db with
  | error e =>
    rw [hnamed] at h
    cases h
  | ok channelIds =>
    cases hsenders : r.senderIds.on db with
    | error e =>
      rw [hnamed, hsenders] at h
      cases h
    | ok senderIds =>
      rw [hnamed, hsenders] at h
      obtain rfl := Except.ok.inj h
      unfold searchMessages
      rw [if_neg (by simp [hcriteria, hchannels])]
      exact Attempt.mem_calls_bind (r.looks_channelIds db) hnamed
        (Attempt.mem_calls_bind (r.looks_senderIds db) hsenders (Attempt.mem_calls_ask_bind _ _))

/-- What is found of messages in a database. -/
def messagesOn : Except Mishap (List SearchResult) := do
  let lookup ← r.messageLookupOn db
  let rows ← lookedUp (db.searchMessages lookup)
  r.selected r.datedCondition MessageRow.toResult MessageRow.content rows

/-- What is found of direct messages in a database. -/
def directMessagesOn : Except Mishap (List SearchResult) := do
  let senderIds ← r.senderIds.on db
  let rows ← lookedUp (db.searchDirectMessages (r.directMessageLookup senderIds))
  r.selected r.datedCondition DirectMessageRow.toResult DirectMessageRow.content
    (rows.filter fun row => row.isOf r.userId)

/-- The searcher of messages finds nothing where there is nothing to search for or no channel to search in. -/
theorem run_searchMessages :
    ((searchMessages r).run Database.answer db).1 =
      if !r.hasCriteria || r.userChannelIds = some [] then .ok [] else r.messagesOn db := by
  unfold searchMessages
  split
  · rfl
  · show Attempt.on db _ = _
    rw [Attempt.on_bind (r.looks_channelIds db), messagesOn, messageLookupOn, bind_assoc]
    refine bind_congr fun channelIds => ?_
    rw [Attempt.on_bind (r.looks_senderIds db), bind_assoc]
    refine bind_congr fun senderIds => ?_
    rw [Attempt.on_ask_bind (c := .searchMessages _) rfl, pure_bind]
    exact bind_congr fun rows => r.on_results db _ _ _ _

/-- The searcher of direct messages finds nothing where there is nothing to search for. -/
theorem run_searchDirectMessages :
    ((searchDirectMessages r).run Database.answer db).1 =
      if !r.hasCriteria then .ok [] else r.directMessagesOn db := by
  unfold searchDirectMessages
  split
  · rfl
  · show Attempt.on db _ = _
    rw [Attempt.on_bind (r.looks_senderIds db), directMessagesOn]
    refine bind_congr fun senderIds => ?_
    rw [Attempt.on_ask_bind (c := .searchDirectMessages _) rfl]
    exact bind_congr fun rows => r.on_results db _ _ _ _

/-! ### Files -/

/-- What is found of files in a database, among those that belong to some messages or among all. -/
def filesOfOn (messageIds : Option (List String)) : Except Mishap (List SearchResult) := do
  let uploaderIds ← r.senderIds.on db
  let rows ← lookedUp (db.searchFiles (r.fileLookup messageIds uploaderIds))
  r.selected r.datedCondition FileRow.toResult FileRow.fileName rows

/-- What is found of files in a database, given the channels that the query names. -/
def filesIn (named : List String) : Except Mishap (List SearchResult) :=
  match r.channelRestriction named with
  | none => r.filesOfOn db none
  | some [] => .ok []
  | some channelIds => do
    let messageIds ← lookedUp (db.attachmentMessageIds channelIds)
    if messageIds.isEmpty then .ok [] else r.filesOfOn db (some messageIds)

/-- What is found of files in a database. -/
def filesOn : Except Mishap (List SearchResult) := r.channelIds.on db >>= r.filesIn db

private theorem on_searchFilesOf (messageIds : Option (List String)) :
    (searchFilesOf r messageIds).on db = r.filesOfOn db messageIds := by
  rw [searchFilesOf, Attempt.on_bind (r.looks_senderIds db), filesOfOn]
  refine bind_congr fun uploaderIds => ?_
  rw [Attempt.on_ask_bind (c := .searchFiles _) rfl]
  exact bind_congr fun rows => r.on_results db _ _ _ _

private theorem looks_searchFilesOf (messageIds : Option (List String)) : (searchFilesOf r messageIds).Looks db :=
  Attempt.looks_bind (r.looks_senderIds db) fun _ =>
    Attempt.looks_bind (Attempt.looks_ask (c := .searchFiles _) rfl) fun rows => r.looks_results db _ _ _ rows

/-- The searcher of files finds nothing where there is nothing to search for. -/
theorem run_searchFiles :
    ((searchFiles r).run Database.answer db).1 = if !r.hasCriteria then .ok [] else r.filesOn db := by
  unfold searchFiles
  split
  · rfl
  · show Attempt.on db _ = _
    rw [Attempt.on_bind (r.looks_channelIds db), filesOn]
    refine bind_congr fun named => ?_
    unfold filesIn
    generalize r.channelRestriction named = restriction
    rcases restriction with _ | _ | ⟨channelId, channelIds⟩
    · exact on_searchFilesOf r db none
    · rfl
    · show Attempt.on db (Attempt.ask _ >>= _) = _
      rw [Attempt.on_ask_bind (c := .attachmentMessageIds _) rfl]
      refine bind_congr fun messageIds => ?_
      split
      · rfl
      · exact on_searchFilesOf r db (some messageIds)

theorem mem_calls_searchFilesOf {r : Request} {db : Database} (messageIds : Option (List String))
    {uploaderIds : List String} (h : r.senderIds.on db = .ok uploaderIds) :
    .searchFiles (r.fileLookup messageIds uploaderIds) ∈ (searchFilesOf r messageIds).calls db :=
  Attempt.mem_calls_bind (r.looks_senderIds db) h (Attempt.mem_calls_ask_bind _ _)

/-- Files are looked up when there is something to search for and no restriction to channels. -/
theorem mem_trace_searchFiles {r : Request} {db : Database} (hcriteria : r.hasCriteria = true) {named : List String}
    (hnamed : r.channelIds.on db = .ok named) (hall : r.channelRestriction named = none) {uploaderIds : List String}
    (h : r.senderIds.on db = .ok uploaderIds) :
    .searchFiles (r.fileLookup none uploaderIds) ∈ (searchFiles r).trace Database.answer db := by
  unfold searchFiles
  rw [if_neg (by simp [hcriteria])]
  refine Attempt.mem_calls_bind (r.looks_channelIds db) hnamed ?_
  rw [hall]
  exact mem_calls_searchFilesOf none h

/-! ### Channels and users -/

/-- What is found of channels in a database. -/
def channelsOn : Except Mishap (List SearchResult) :=
  lookedUp (db.searchChannels r.channelLookup) >>=
    r.selected r.undatedCondition ChannelRow.toResult ChannelRow.name

/-- What is found of users in a database. -/
def usersOn : Except Mishap (List SearchResult) :=
  lookedUp (db.searchUsers r.userLookup) >>= r.selected r.undatedCondition UserRow.toResult UserRow.fullName

/-- The searcher of channels finds nothing where there is no text to search for. -/
private theorem run_searchChannels :
    ((searchChannels r).run Database.answer db).1 = if !r.hasText then .ok [] else r.channelsOn db := by
  unfold searchChannels
  split
  · rfl
  · show Attempt.on db _ = _
    rw [Attempt.on_ask_bind (c := .searchChannels _) rfl]
    exact bind_congr fun rows => r.on_results db _ _ _ _

/-- The searcher of users finds nothing where there is no text to search for. -/
private theorem run_searchUsers :
    ((searchUsers r).run Database.answer db).1 = if !r.hasText then .ok [] else r.usersOn db := by
  unfold searchUsers
  split
  · rfl
  · show Attempt.on db _ = _
    rw [Attempt.on_ask_bind (c := .searchUsers _) rfl]
    exact bind_congr fun rows => r.on_results db _ _ _ _

/-! ### Searchers -/

/-- What is found of a domain in a database. -/
def foundOn : Domain → Except Mishap (List SearchResult)
  | .messages => if !r.hasCriteria || r.userChannelIds = some [] then .ok [] else r.messagesOn db
  | .directMessages => if !r.hasCriteria then .ok [] else r.directMessagesOn db
  | .files => if !r.hasCriteria then .ok [] else r.filesOn db
  | .channels => if !r.hasText then .ok [] else r.channelsOn db
  | .users => if !r.hasText then .ok [] else r.usersOn db

/-- Every searcher comes to what is found of its domain. -/
theorem run_searcher (d : Domain) : ((d.searcher r).run Database.answer db).1 = r.foundOn db d := by
  cases d with
  | messages => exact r.run_searchMessages db
  | directMessages => exact r.run_searchDirectMessages db
  | files => exact r.run_searchFiles db
  | channels => exact r.run_searchChannels db
  | users => exact r.run_searchUsers db

private theorem looks_searchMessages : Attempt.Looks db (searchMessages r) := by
  unfold searchMessages
  split
  · rfl
  · exact Attempt.looks_bind (r.looks_channelIds db) fun _ => Attempt.looks_bind (r.looks_senderIds db) fun _ =>
      Attempt.looks_bind (Attempt.looks_ask (c := .searchMessages _) rfl) fun rows => r.looks_results db _ _ _ rows

private theorem looks_searchDirectMessages : Attempt.Looks db (searchDirectMessages r) := by
  unfold searchDirectMessages
  split
  · rfl
  · exact Attempt.looks_bind (r.looks_senderIds db) fun _ =>
      Attempt.looks_bind (Attempt.looks_ask (c := .searchDirectMessages _) rfl) fun rows => r.looks_results db _ _ _ _

private theorem looks_searchFiles : Attempt.Looks db (searchFiles r) := by
  unfold searchFiles
  split
  · rfl
  · refine Attempt.looks_bind (r.looks_channelIds db) fun named => ?_
    split
    · exact looks_searchFilesOf r db none
    · rfl
    · refine Attempt.looks_bind (Attempt.looks_ask (c := .attachmentMessageIds _) rfl) fun messageIds => ?_
      split
      · rfl
      · exact looks_searchFilesOf r db (some messageIds)

private theorem looks_searchChannels : Attempt.Looks db (searchChannels r) := by
  unfold searchChannels
  split
  · rfl
  · exact Attempt.looks_bind (Attempt.looks_ask (c := .searchChannels _) rfl) fun rows => r.looks_results db _ _ _ rows

private theorem looks_searchUsers : Attempt.Looks db (searchUsers r) := by
  unfold searchUsers
  split
  · rfl
  · exact Attempt.looks_bind (Attempt.looks_ask (c := .searchUsers _) rfl) fun rows => r.looks_results db _ _ _ rows

/-- No searcher changes the database. -/
theorem run_searcher_snd (d : Domain) : ((d.searcher r).run Database.answer db).2 = db := by
  cases d with
  | messages => exact looks_searchMessages r db
  | directMessages => exact looks_searchDirectMessages r db
  | files => exact looks_searchFiles r db
  | channels => exact looks_searchChannels r db
  | users => exact looks_searchUsers r db

end Request

end WorkspaceSearch
