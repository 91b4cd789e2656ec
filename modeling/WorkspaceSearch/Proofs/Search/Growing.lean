import WorkspaceSearch.Proofs.Database.Looking
import WorkspaceSearch.Proofs.Database.Wider

/-!
# Wider requests

A searcher that is asked for more rows goes on where it stopped before: whenever it has results for the wider request
it has results for the narrower one, and they begin the others (`foundOn_begins`).
-/

namespace WorkspaceSearch.Request

variable (r : Request) (db : Database)

/-- Annotating and selecting rows goes on with the rows. -/
private theorem selected_begins {Row : Type} (condition : Condition) (ofRow : Row → SearchResult)
    (primary : Row → String) {rows rows' : List Row} (h : rows <+: rows') :
    Begins (r.selected condition ofRow primary rows) (r.selected condition ofRow primary rows') := by
  obtain ⟨later, rfl⟩ := h
  rw [selected, selected, List.mapM_append]
  cases rows.mapM fun row => r.annotate (primary row) (ofRow row) with
  | none => exact Begins.error _ _
  | some front =>
    cases later.mapM fun row => r.annotate (primary row) (ofRow row) with
    | none => exact Begins.error _ _
    | some rest => exact Begins.ok ((List.prefix_append front rest).filter _)

variable {w w' : Nat} (hw : w ≤ w')

include hw

private theorem messagesOn_begins :
    Begins ({ r with limit := w }.messagesOn db) ({ r with limit := w' }.messagesOn db) := by
  simp only [messagesOn, messageLookupOn, bind_assoc, pure_bind]
  refine Begins.bind_right _ fun channelIds => Begins.bind_right _ fun senderIds => ?_
  have hrows := db.searchMessages_begins hw (r.messageLookup channelIds senderIds)
  exact (hrows.mapError _).bind fun _ _ h => selected_begins r _ _ _ h

private theorem directMessagesOn_begins :
    Begins ({ r with limit := w }.directMessagesOn db) ({ r with limit := w' }.directMessagesOn db) := by
  refine Begins.bind_right _ fun senderIds => ?_
  have hrows := db.searchDirectMessages_begins hw (r.directMessageLookup senderIds)
  exact (hrows.mapError _).bind fun _ _ h => selected_begins r _ _ _ (h.filter _)

private theorem filesOfOn_begins (messageIds : Option (List String)) :
    Begins ({ r with limit := w }.filesOfOn db messageIds) ({ r with limit := w' }.filesOfOn db messageIds) := by
  refine Begins.bind_right _ fun uploaderIds => ?_
  have hrows := db.searchFiles_begins hw (r.fileLookup messageIds uploaderIds)
  exact (hrows.mapError _).bind fun _ _ h => selected_begins r _ _ _ h

private theorem filesOn_begins : Begins ({ r with limit := w }.filesOn db) ({ r with limit := w' }.filesOn db) := by
  refine Begins.bind_right _ fun named => ?_
  show Begins (filesIn _ db named) (filesIn _ db named)
  have hrestriction : ∀ w, { r with limit := w }.channelRestriction named = r.channelRestriction named := fun _ => rfl
  simp only [filesIn, hrestriction]
  rcases r.channelRestriction named with _ | _ | ⟨channelId, channelIds⟩
  · exact filesOfOn_begins r db hw none
  · exact Begins.refl _
  · refine Begins.bind_right _ fun messageIds => ?_
    split
    · exact Begins.refl _
    · exact filesOfOn_begins r db hw (some messageIds)

private theorem channelsOn_begins :
    Begins ({ r with limit := w }.channelsOn db) ({ r with limit := w' }.channelsOn db) :=
  ((db.searchChannels_begins hw r.channelLookup).mapError _).bind fun _ _ h => selected_begins r _ _ _ h

private theorem usersOn_begins : Begins ({ r with limit := w }.usersOn db) ({ r with limit := w' }.usersOn db) :=
  ((db.searchUsers_begins hw r.userLookup).mapError _).bind fun _ _ h => selected_begins r _ _ _ h

/-- Every searcher that has results for a wider request begins them with its results for the narrower one. -/
theorem foundOn_begins (d : Domain) :
    Begins ({ r with limit := w }.foundOn db d) ({ r with limit := w' }.foundOn db d) := by
  cases d with
  | messages => exact Begins.ite _ (messagesOn_begins r db hw)
  | directMessages => exact Begins.ite _ (directMessagesOn_begins r db hw)
  | files => exact Begins.ite _ (filesOn_begins r db hw)
  | channels => exact Begins.ite _ (channelsOn_begins r db hw)
  | users => exact Begins.ite _ (usersOn_begins r db hw)

end WorkspaceSearch.Request
