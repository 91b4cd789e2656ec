import WorkspaceSearch.Proofs.Database.Newest
import WorkspaceSearch.Proofs.Outcome

/-!
# Wider windows

A lookup with a wider window goes on where the same lookup with a narrower one stops: whenever the wider one has an
answer the narrower one has, and its answer begins the other (`Begins`).  The converse fails, since only the wider
window may reach a row that cannot be read or a pattern that is too long.
-/

namespace WorkspaceSearch

namespace Database

/-! ### Lookups -/

private theorem cutPage_mono {Row : Type} {w w' : Nat} (hw : w ≤ w') (offset : Nat) (rows : List Row) :
    cutPage w offset rows <+: cutPage w' offset rows :=
  List.take_prefix_take_left hw

/-- A lookup that does not fail with a wider window does not fail with a narrower one. -/
private theorem guardLookup_begins {Row : Type} {isEmpty fits overruns overruns' : Bool}
    (hoverruns : overruns = true → overruns' = true) {rows rows' : Except DatabaseFault (List Row)}
    (h : Begins rows rows') :
    Begins (guardLookup isEmpty fits overruns rows) (guardLookup isEmpty fits overruns' rows') := by
  unfold guardLookup
  cases isEmpty with
  | true => exact Begins.refl _
  | false =>
    cases fits with
    | false => exact Begins.refl _
    | true =>
      cases overruns' with
      | true => exact Begins.error _ _
      | false =>
        have hnot : overruns = false := Bool.eq_false_iff.2 fun ho => Bool.noConfusion (hoverruns ho)
        rw [hnot]
        exact h

private theorem limited_and {w w' : Nat} (hw : w ≤ w') {b : Bool} (h : (0 < w && b) = true) : (0 < w' && b) = true := by
  simp only [Bool.and_eq_true, decide_eq_true_iff] at *
  exact ⟨by omega, h.2⟩

section

variable (db : Database) {w w' : Nat} (hw : w ≤ w')

include hw

theorem searchMessages_begins (q : MessageLookup) :
    Begins (db.searchMessages { q with limit := w }) (db.searchMessages { q with limit := w' }) :=
  guardLookup_begins (limited_and hw) (Begins.mapM _ (cutPage_mono hw _ _))

theorem searchDirectMessages_begins (q : DirectMessageLookup) :
    Begins (db.searchDirectMessages { q with limit := w }) (db.searchDirectMessages { q with limit := w' }) :=
  guardLookup_begins (limited_and hw) (Begins.mapM _ (cutPage_mono hw _ _))

theorem searchFiles_begins (q : FileLookup) :
    Begins (db.searchFiles { q with limit := w }) (db.searchFiles { q with limit := w' }) :=
  guardLookup_begins (limited_and hw) (Begins.mapM _ (cutPage_mono hw _ _))

theorem searchUsers_begins (q : UserLookup) :
    Begins (db.searchUsers { q with limit := w }) (db.searchUsers { q with limit := w' }) :=
  guardLookup_begins (limited_and hw) (Begins.mapM _ (cutPage_mono hw _ _))

end

/-- Channels are tested until enough of them are found, so more are tested when more are wanted. -/
private theorem channelsOverrun_mono {q q' : ChannelLookup} (htest : ∀ c, testChannel? q c = testChannel? q' c)
    {n n' : Nat}
    (hn : n ≤ n') {cs : List Stored.Channel} (h : channelsOverrun q n cs = true) : channelsOverrun q' n' cs = true := by
  induction cs generalizing n n' with
  | nil => cases n <;> cases h
  | cons c cs ih =>
    cases n with
    | zero => cases h
    | succ n =>
      -- a channel that is found counts against both numbers, another one against neither
      obtain ⟨n', rfl⟩ := Nat.exists_eq_add_of_le' (Nat.le_trans (Nat.succ_le_succ (Nat.zero_le n)) hn)
      rw [channelsOverrun] at h ⊢
      rw [← htest]
      cases hc : testChannel? q c with
      | none => rfl
      | some found =>
        rw [hc] at h
        cases found with
        | true => exact ih (by omega) h
        | false => exact ih hn h

theorem searchChannels_begins (db : Database) {w w' : Nat} (hw : w ≤ w') (q : ChannelLookup) :
    Begins (db.searchChannels { q with limit := w }) (db.searchChannels { q with limit := w' }) := by
  refine guardLookup_begins (fun h => ?_) (Begins.mapM _ (cutPage_mono hw _ _))
  have htest : ∀ c, testChannel? { q with limit := w } c = testChannel? { q with limit := w' } c := fun _ => rfl
  simp only [Bool.and_eq_true, decide_eq_true_iff] at *
  obtain ⟨⟨hpos, hlong⟩, hover⟩ := h
  exact ⟨⟨by omega, hlong⟩, channelsOverrun_mono htest (Nat.add_le_add_left hw _) hover⟩

end Database

end WorkspaceSearch
