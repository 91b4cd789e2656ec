import Mathlib.Data.List.Nodup
import WorkspaceSearch.Proofs.Database.Keys
import WorkspaceSearch.Proofs.Database.Newest
import WorkspaceSearch.Proofs.Outcome

/-!
# Rows come once

Keys are unique, so a row refers to one row at most and joining does not repeat it (`map_fst_join`,
`map_fst_joinMaybe`).  Hence no two rows that a lookup finds have the same identifier.
-/

namespace WorkspaceSearch.Database

/-! ### Joins -/

section

variable {A B : Type} {refers : A → B → Bool} {bs : List B} {key : B → String}

private theorem filter_eq_nil_or_singleton (hb : (bs.map key).Nodup) {p : B → Bool}
    (hp : ∀ b c, p b = true → p c = true → key b = key c) : bs.filter p = [] ∨ ∃ b, bs.filter p = [b] := by
  have hnodup : ((bs.filter p).map key).Nodup := hb.sublist (List.filter_sublist.map _)
  have hmem : ∀ b ∈ bs.filter p, p b = true := fun b hb => List.of_mem_filter hb
  -- two rows that satisfy the condition would have the same key
  match bs.filter p, hnodup, hmem with
  | [], _, _ => exact .inl rfl
  | [b], _, _ => exact .inr ⟨b, rfl⟩
  | b :: c :: rest, hnodup, hmem =>
    have heq : key b = key c := hp b c (hmem b (by simp)) (hmem c (by simp))
    simp [heq] at hnodup

variable (hb : (bs.map key).Nodup) 
  (hrefers : ∀ a b c, refers a b = true → refers a c = true → key b = key c)

include hb hrefers

theorem map_fst_join (as : List A) : ((join as bs refers).map Prod.fst).Sublist as := by
  induction as with
  | nil => exact .slnil
  | cons a as ih =>
    rw [join, List.flatMap_cons, List.map_append]
    rcases filter_eq_nil_or_singleton hb (hrefers a) with hnone | ⟨b, hone⟩
    · rw [hnone]
      exact ih.cons a
    · rw [hone]
      exact ih.cons_cons a

theorem map_fst_joinMaybe (as : List A) : (joinMaybe as bs refers).map Prod.fst = as := by
  induction as with
  | nil => rfl
  | cons a as ih =>
    rw [joinMaybe, List.flatMap_cons, List.map_append]
    rcases filter_eq_nil_or_singleton hb (hrefers a) with hnone | ⟨b, hone⟩
    · rw [hnone]
      exact congrArg (a :: ·) ih
    · rw [hone]
      exact congrArg (a :: ·) ih

end

private theorem map_fst_joinMaybe_ref {A B : Type} (ref : A → Option String) {bs : List B} {key : B → String}
    (hb : (bs.map key).Nodup) (as : List A) :
    (joinMaybe as bs fun a b => ref a = some (key b)).map Prod.fst = as :=
  map_fst_joinMaybe hb
    (fun _ _ _ h h' => Option.some.inj ((of_decide_eq_true h).symm.trans (of_decide_eq_true h'))) as

/-! ### What is found -/

section

variable {A B C : Type} {as : List A} {bs : List B} {cs : List C} {toB : A → B → Bool} {toC : A × B → C → Bool}
  {keyB : B → String} {keyC : C → String} (hb : (bs.map keyB).Nodup) (hc : (cs.map keyC).Nodup)
  (htoB : ∀ a b c, toB a b = true → toB a c = true → keyB b = keyB c)
  (htoC : ∀ x c d, toC x c = true → toC x d = true → keyC c = keyC d)

include hb hc htoB htoC

private theorem map_fst_join_join : ((join (join as bs toB) cs toC).map (·.1.1)).Sublist as := by
  have hsub := ((map_fst_join hc htoC (join as bs toB)).map Prod.fst).trans (map_fst_join hb htoB as)
  rwa [List.map_map] at hsub

end

private theorem nodup_sorted {Row : Type} {key : Row → String} {rows : List Row} (h : (rows.map key).Nodup)
    (p : Row → Bool) (le : Row → Row → Bool) : (((rows.filter p).mergeSort le).map key).Nodup :=
  ((List.mergeSort_perm _ _).map key).nodup_iff.2 (h.sublist (List.filter_sublist.map _))

/-- The rows that a lookup answers have the keys of the rows that are found. -/
private theorem nodup_of_guardLookup {Row Found : Type} {isEmpty fits overruns : Bool} {found : List Found}
    {w offset : Nat} {read : Found → Except DatabaseFault Row} {key : Found → String} {key' : Row → String}
    {rows : List Row} (h : guardLookup isEmpty fits overruns ((cutPage w offset found).mapM read) = .ok rows)
    (hread : ∀ x row, read x = .ok row → key' row = key x) (hfound : (found.map key).Nodup) :
    (rows.map key').Nodup := by
  unfold guardLookup at h
  split at h
  · obtain rfl := Except.ok.inj h
    exact .nil
  · split at h
    · cases h
    · rw [Outcome.map_eq_of_mapM hread h]
      exact hfound.sublist (((List.take_sublist _ _).trans (List.drop_sublist _ _)).map _)

variable {db : Database} (hkeyed : db.Keyed)

include hkeyed

/-- Every message stands in its place once at most. -/
theorem map_message_messagesInPlace_sublist : (db.messagesInPlace.map (·.1.1)).Sublist db.messages.toList :=
  map_fst_join_join hkeyed.channels hkeyed.users
    (fun _ _ _ h h' => (of_decide_eq_true h).trans (of_decide_eq_true h').symm)
    fun _ _ _ h h' => (of_decide_eq_true h).trans (of_decide_eq_true h').symm

theorem map_message_directMessagesInPlace_sublist :
    (db.directMessagesInPlace.map (·.1.1)).Sublist db.directMessages.toList :=
  map_fst_join_join hkeyed.users hkeyed.users
    (fun _ _ _ h h' => (of_decide_eq_true h).trans (of_decide_eq_true h').symm)
    fun _ _ _ h h' => (of_decide_eq_true h).trans (of_decide_eq_true h').symm

theorem nodup_searchMessages {q : MessageLookup} {rows : List MessageRow} (h : db.searchMessages q = .ok rows) :
    (rows.map (·.id)).Nodup := by
  have hplaced := hkeyed.messages.sublist ((map_message_messagesInPlace_sublist hkeyed).map (·.id))
  rw [List.map_map] at hplaced
  have hread : ∀ (x : (Stored.Message × Stored.Channel) × Stored.User) row,
      db.messageRow x.1.1 x.1.2 x.2 = .ok row → row.id = x.1.1.id := by
    intro x row hx
    obtain ⟨t, -, hx⟩ := Outcome.bind_eq_ok.1 hx
    rw [← Except.ok.inj hx]
  exact nodup_of_guardLookup h hread (nodup_sorted hplaced _ _)

theorem nodup_searchDirectMessages {q : DirectMessageLookup} {rows : List DirectMessageRow}
    (h : db.searchDirectMessages q = .ok rows) : (rows.map (·.id)).Nodup := by
  have hplaced := hkeyed.directMessages.sublist ((map_message_directMessagesInPlace_sublist hkeyed).map (·.id))
  rw [List.map_map] at hplaced
  have hread : ∀ (x : (Stored.DirectMessage × Stored.User) × Stored.User) row,
      directMessageRow x.1.1 x.1.2 x.2 = .ok row → row.id = x.1.1.id := by
    intro x row hx
    obtain ⟨t, -, hx⟩ := Outcome.bind_eq_ok.1 hx
    rw [← Except.ok.inj hx]
  exact nodup_of_guardLookup h hread (nodup_sorted hplaced _ _)

/-- Every file stands in its place once. -/
theorem map_file_filesInPlace : db.filesInPlace.map (·.file) = db.files.toList := by
  have huploaded := map_fst_joinMaybe_ref Stored.File.uploaderId hkeyed.users db.files.toList
  have hattached := map_fst_joinMaybe_ref (fun f => f.1.messageId) hkeyed.messages
    (joinMaybe db.files.toList db.users.toList fun f u => f.uploaderId = some u.id)
  have hplaced := map_fst_joinMaybe_ref (fun f => f.2.map (·.channelId)) hkeyed.channels
    (joinMaybe (joinMaybe db.files.toList db.users.toList fun f u => f.uploaderId = some u.id) db.messages.toList
      fun f m => f.1.messageId = some m.id)
  have hall := congrArg (List.map Prod.fst) (congrArg (List.map Prod.fst) hplaced)
  rw [hattached, huploaded, List.map_map, List.map_map] at hall
  rw [filesInPlace, List.map_map]
  exact hall

theorem nodup_searchFiles {q : FileLookup} {rows : List FileRow} (h : db.searchFiles q = .ok rows) :
    (rows.map (·.id)).Nodup := by
  have hplaced : (db.filesInPlace.map fun p => p.file.id).Nodup := by
    have hids := congrArg (List.map (·.id)) (map_file_filesInPlace hkeyed)
    rw [List.map_map] at hids
    exact hids ▸ hkeyed.files
  have hread : ∀ p row, fileRow p = .ok row → row.id = p.file.id := by
    intro p row hp
    obtain ⟨t, -, hp⟩ := Outcome.bind_eq_ok.1 hp
    obtain ⟨size, -, hp⟩ := Outcome.bind_eq_ok.1 hp
    rw [← Except.ok.inj hp]
  exact nodup_of_guardLookup h hread (nodup_sorted hplaced _ _)

theorem nodup_searchChannels {q : ChannelLookup} {rows : List ChannelRow} (h : db.searchChannels q = .ok rows) :
    (rows.map (·.id)).Nodup := by
  have hsorted : ((db.channels.toList.mergeSort fun c d => c.name ≤ d.name).map (·.id)).Nodup :=
    ((List.mergeSort_perm _ _).map _).nodup_iff.2 hkeyed.channels
  have hread : ∀ c row, db.channelRow c = .ok row → row.id = c.id := by
    intro c row hc
    obtain ⟨t, -, hc⟩ := Outcome.bind_eq_ok.1 hc
    rw [← Except.ok.inj hc]
  exact nodup_of_guardLookup h hread (hsorted.sublist (List.filter_sublist.map _))

theorem nodup_searchUsers {q : UserLookup} {rows : List UserRow} (h : db.searchUsers q = .ok rows) :
    (rows.map (·.id)).Nodup := by
  have hread : ∀ u row, userRow u = .ok row → row.id = u.id := by
    intro u row hu
    obtain ⟨t, -, hu⟩ := Outcome.bind_eq_ok.1 hu
    obtain ⟨isAdmin, -, hu⟩ := Outcome.bind_eq_ok.1 hu
    rw [← Except.ok.inj hu]
  exact nodup_of_guardLookup h hread (nodup_sorted hkeyed.users _ _)

end WorkspaceSearch.Database
