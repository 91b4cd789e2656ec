import WorkspaceSearch.Proofs.Database.Rearranged
import WorkspaceSearch.Proofs.Search.Access

/-!
# Searching rows in another order

What is found of a domain does not depend on the order in which the rows were put into their tables
(`Request.foundOn_rearranged`).  The domains are gathered in a fixed order and sorted with ties left in place, so a
search has the same total and the same results in the same order (`SearchService.outcomeOn_rearranged`).
-/

namespace WorkspaceSearch

namespace Request

variable {r : Request} {db db' : Database} (h : db.Rearranged db') (hkeyed : db.Keyed)

include h hkeyed

private theorem messagesOn_rearranged : r.messagesOn db = r.messagesOn db' := by
  rw [messagesOn, messagesOn, messageLookupOn_eq h.people hkeyed]
  refine bind_congr fun q => ?_
  rw [h.searchMessages hkeyed]

private theorem directMessagesOn_rearranged : r.directMessagesOn db = r.directMessagesOn db' :=
  directMessagesOn_eq h.plan h.people (h.directMessages.filter _) hkeyed

private theorem filesOfOn_rearranged : r.filesOfOn db none = r.filesOfOn db' none := by
  rw [filesOfOn, filesOfOn, senderIds_on_eq h.people hkeyed]
  refine bind_congr fun uploaderIds => ?_
  rw [h.searchFiles hkeyed]

private theorem filesOfOn_perm {ids ids' : List String} (hids : ids.Perm ids') :
    r.filesOfOn db (some ids) = r.filesOfOn db' (some ids') := by
  rw [filesOfOn, filesOfOn, senderIds_on_eq h.people hkeyed]
  refine bind_congr fun uploaderIds => ?_
  have hrows := h.searchFiles_of hkeyed (r.fileLookup none uploaderIds) hids
  exact congrArg (fun rows => lookedUp rows >>= _) hrows

private theorem filesIn_rearranged (named : List String) : r.filesIn db named = r.filesIn db' named := by
  unfold filesIn
  split
  · exact filesOfOn_rearranged h hkeyed
  · rfl
  · next channelIds _ _ =>
    rcases h.attachmentMessageIds channelIds with heq | ⟨ids, ids', hids, hdb, hdb'⟩
    · rw [heq]
      refine bind_congr fun ids => ?_
      split
      · rfl
      · exact filesOfOn_perm h hkeyed (.refl ids)
    · rw [hdb, hdb', lookedUp_ok, lookedUp_ok, Outcome.ok_bind, Outcome.ok_bind, hids.isEmpty_eq]
      split
      · rfl
      · exact filesOfOn_perm h hkeyed hids

/-- What is found of a domain does not depend on how the rows are arranged. -/
theorem foundOn_rearranged (d : Domain) : r.foundOn db d = r.foundOn db' d := by
  cases d with
  | messages => rw [foundOn, foundOn, messagesOn_rearranged h hkeyed]
  | directMessages => rw [foundOn, foundOn, directMessagesOn_rearranged h hkeyed]
  | files =>
    rw [foundOn, foundOn, filesOn, filesOn, channelIds_on_eq h.people hkeyed]
    exact congrArg _ (bind_congr fun named => filesIn_rearranged h hkeyed named)
  | channels => rw [foundOn, foundOn, channelsOn, channelsOn, h.searchChannels hkeyed]
  | users => rw [foundOn, foundOn, usersOn, usersOn, h.searchUsers hkeyed]

end Request

namespace SearchService

variable {db db' : Database}

/-- A search gathers the same on databases on which every domain finds the same. -/
private theorem gather_eq_of_foundOn {r : Request} (h : ∀ d, r.foundOn db d = r.foundOn db' d)
    (settings : SearchSettings) (ds : List Domain) :
    ((gather { settings } r ds).run Database.answer db).1 = ((gather { settings } r ds).run Database.answer db').1 := by
  induction ds with
  | nil => rfl
  | cons d ds ih =>
    simp only [gather, Program.run_andThen, Program.run, Request.run_searcher, Request.run_searcher_snd, h d, ih]

/-- A search has the same outcome on two databases with the same rows, in whatever order they were inserted. -/
theorem outcomeOn_rearranged (h : db.Rearranged db') (hkeyed : db.Keyed) (settings : SearchSettings)
    (o : SearchOptions) (cancelled : Bool) (id : Uuid) (now : Instant) :
    outcomeOn settings o cancelled id now db = outcomeOn settings o cancelled id now db' := by
  unfold outcomeOn
  cases hvalid : o.validate with
  | error e => rw [search, hvalid]; rfl
  | ok =>
    cases cancelled with
    | true => rw [search, hvalid]; rfl
    | false =>
      rw [search_eq_map_gather _ _ hvalid, search_eq_map_gather _ _ hvalid]
      exact congrArg _ (gather_eq_of_foundOn (Request.foundOn_rearranged h hkeyed) settings o.scope.domains)

/-! ### Rows that share a name and a time -/

private def namesake (id username : String) : Stored.User :=
  ⟨id, username, "Ann", "Lee", "", none, .integer 0, .text "2024-01-01 00:00:00"⟩

private def attached (id : String) : Stored.Message :=
  ⟨id, "c1", "u1", "alpha", none, "text", some "a", .text "2024-01-02 00:00:00"⟩

private def attachment (id messageId : String) : Stored.File :=
  ⟨id, some messageId, some "u1", "alpha", "pdf", .integer 1, none, .text "2024-01-03 00:00:00"⟩

private def firstRows : Database where
  users := ⟨[⟨1, namesake "u1" "ann"⟩, ⟨2, namesake "u2" "lee"⟩]⟩
  channels := ⟨[⟨1, ⟨"c1", "general", none, none, "public", .text "2024-01-01 00:00:00"⟩⟩]⟩
  messages := ⟨[⟨1, attached "m1"⟩, ⟨2, attached "m2"⟩]⟩
  files := ⟨[⟨1, attachment "f1" "m1"⟩, ⟨2, attachment "f2" "m2"⟩]⟩

private def swappedRows : Database where
  users := ⟨[⟨1, namesake "u2" "lee"⟩, ⟨2, namesake "u1" "ann"⟩]⟩
  channels := ⟨[⟨1, ⟨"c1", "general", none, none, "public", .text "2024-01-01 00:00:00"⟩⟩]⟩
  messages := ⟨[⟨1, attached "m2"⟩, ⟨2, attached "m1"⟩]⟩
  files := ⟨[⟨1, attachment "f2" "m2"⟩, ⟨2, attachment "f1" "m1"⟩]⟩

/-- Two users of one name, two messages of one time and their two files are inserted in two orders. -/
theorem outcomeOn_rearranged_namesakes :
    firstRows ≠ swappedRows ∧
      outcomeOn {} channelQuery false default .epoch firstRows =
        outcomeOn {} channelQuery false default .epoch swappedRows := by
  have hkeyed : firstRows.Keyed := ⟨by decide, by decide, by decide, by decide, by decide, by decide, by decide⟩
  have hrows : firstRows.Rearranged swappedRows :=
    ⟨by decide, by decide, by decide, by decide, by decide, by decide, by decide, rfl⟩
  have hother : firstRows ≠ swappedRows := fun heq => absurd (congrArg (·.users.toList) heq) (by decide)
  exact ⟨hother, outcomeOn_rearranged hrows hkeyed {} channelQuery false default .epoch⟩

end SearchService

end WorkspaceSearch
