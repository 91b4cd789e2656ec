import WorkspaceSearch.Database.Lookup
import WorkspaceSearch.Proofs.Search.Merging

/-!
# The order of time

Messages and files are looked up in the order of time and of their identifiers, which is a total order on these keys.  A
lookup reads a page of what is found, in that order (`searchMessages_eq`, `searchDirectMessages_eq`, `searchFiles_eq`).
-/

namespace WorkspaceSearch.Database

private theorem newestFirst_some {s t : Int} {x y : String} :
    newestFirst (some s, x) (some t, y) = true ↔ t < s ∨ s = t ∧ x ≤ y := by
  simp [newestFirst]

private theorem newestFirst_none {x y : String} : newestFirst (none, x) (none, y) = true ↔ x ≤ y := by
  simp [newestFirst]

theorem newestFirst_total (a b : Option Int × String) : (newestFirst a b || newestFirst b a) = true := by
  obtain ⟨_ | s, x⟩ := a <;> obtain ⟨_ | t, y⟩ := b
  · rw [Bool.or_eq_true, newestFirst_none, newestFirst_none]
    exact String.le_total x y
  · rfl
  · rfl
  · rw [Bool.or_eq_true, newestFirst_some, newestFirst_some]
    rcases Int.lt_trichotomy s t with h | rfl | h
    · exact .inr (.inl h)
    · exact (String.le_total x y).imp (fun h => .inr ⟨rfl, h⟩) fun h => .inr ⟨rfl, h⟩
    · exact .inl (.inl h)

theorem newestFirst_trans (a b c : Option Int × String) (h : newestFirst a b = true) (h' : newestFirst b c = true) :
    newestFirst a c = true := by
  obtain ⟨_ | s, x⟩ := a <;> obtain ⟨_ | t, y⟩ := b <;> obtain ⟨_ | u, z⟩ := c
  · rw [newestFirst_none] at *
    exact String.le_trans h h'
  · cases h'
  · cases h
  · cases h
  · rfl
  · cases h'
  · rfl
  · rw [newestFirst_some] at *
    rcases h with h | ⟨h, hxy⟩ <;> rcases h' with h' | ⟨h', hyz⟩
    · omega
    · omega
    · omega
    · exact .inr ⟨h.trans h', String.le_trans hxy hyz⟩

theorem newestFirst_antisymm {a b : Option Int × String} (h : newestFirst a b = true) (h' : newestFirst b a = true) :
    a = b := by
  obtain ⟨_ | s, x⟩ := a <;> obtain ⟨_ | t, y⟩ := b
  · rw [newestFirst_none] at *
    rw [String.le_antisymm h h']
  · cases h
  · cases h'
  · rw [newestFirst_some] at *
    rcases h with h | ⟨h, hxy⟩ <;> rcases h' with h' | ⟨h', hyx⟩
    · omega
    · omega
    · omega
    · rw [h, String.le_antisymm hxy hyx]

/-- A time that is read is the instant of its column. -/
theorem instant?_of_readTime {stored : Scalar} {t : Instant} (h : readTime stored = .ok t) :
    stored.instant? = some t := by
  unfold readTime readable at h
  split at h
  · next s hs => exact hs.trans (congrArg some (Except.ok.inj h))
  · cases h

/-! ### Messages in the order of time -/

/-- Whether a message may stand in front of another in the order of time. -/
def messageOrder (x y : (Stored.Message × Stored.Channel) × Stored.User) : Bool :=
  newestFirst (timeKey x.1.1.createdAt x.1.1.id) (timeKey y.1.1.createdAt y.1.1.id)

theorem messageOrder_total (x y : (Stored.Message × Stored.Channel) × Stored.User) :
    (messageOrder x y || messageOrder y x) = true :=
  newestFirst_total _ _

theorem messageOrder_trans (x y z : (Stored.Message × Stored.Channel) × Stored.User) (h : messageOrder x y = true)
    (h' : messageOrder y z = true) : messageOrder x z = true :=
  newestFirst_trans _ _ _ h h'

/-- The messages that are looked up, in the order of time. -/
def foundMessages (db : Database) (q : MessageLookup) : List ((Stored.Message × Stored.Channel) × Stored.User) :=
  (db.messagesInPlace.filter fun x => db.messageFits q x.1.1).mergeSort messageOrder

theorem searchMessages_eq (db : Database) (q : MessageLookup) :
    db.searchMessages q =
      guardLookup (q.accessibleChannelIds = some []) q.shape.fits (0 < q.limit && db.messages.any (db.messageOverruns q))
        ((cutPage q.limit q.offset (db.foundMessages q)).mapM fun x => db.messageRow x.1.1 x.1.2 x.2) :=
  rfl

theorem foundMessages_eq_insertionSort (db : Database) (q : MessageLookup) :
    db.foundMessages q =
      (db.messagesInPlace.filter fun x => db.messageFits q x.1.1).insertionSort (messageOrder · ·) :=
  Merging.mergeSort_eq_insertionSort messageOrder_trans messageOrder_total _

/-- Whether a direct message may stand in front of another in the order of time. -/
def directMessageOrder (x y : (Stored.DirectMessage × Stored.User) × Stored.User) : Bool :=
  newestFirst (timeKey x.1.1.createdAt x.1.1.id) (timeKey y.1.1.createdAt y.1.1.id)

theorem directMessageOrder_total (x y : (Stored.DirectMessage × Stored.User) × Stored.User) :
    (directMessageOrder x y || directMessageOrder y x) = true :=
  newestFirst_total _ _

theorem directMessageOrder_trans (x y z : (Stored.DirectMessage × Stored.User) × Stored.User)
    (h : directMessageOrder x y = true) (h' : directMessageOrder y z = true) : directMessageOrder x z = true :=
  newestFirst_trans _ _ _ h h'

/-- The direct messages that are looked up, in the order of time. -/
def foundDirectMessages (db : Database) (q : DirectMessageLookup) :
    List ((Stored.DirectMessage × Stored.User) × Stored.User) :=
  (db.directMessagesInPlace.filter fun x => directMessageFits q x.1.1).mergeSort directMessageOrder

theorem searchDirectMessages_eq (db : Database) (q : DirectMessageLookup) :
    db.searchDirectMessages q =
      guardLookup false q.shape.fits (0 < q.limit && db.directMessages.any (db.directMessageOverruns q))
        ((cutPage q.limit q.offset (db.foundDirectMessages q)).mapM fun x => directMessageRow x.1.1 x.1.2 x.2) :=
  rfl

/-- Whether a file may stand in front of another in the order of time. -/
def fileOrder (p r : FilePlace) : Bool :=
  newestFirst (timeKey p.file.createdAt p.file.id) (timeKey r.file.createdAt r.file.id)

theorem fileOrder_total (p r : FilePlace) : (fileOrder p r || fileOrder r p) = true := newestFirst_total _ _

theorem fileOrder_trans (p r s : FilePlace) (h : fileOrder p r = true) (h' : fileOrder r s = true) :
    fileOrder p s = true :=
  newestFirst_trans _ _ _ h h'

/-- The files that are looked up, in the order of time. -/
def foundFiles (db : Database) (q : FileLookup) : List FilePlace :=
  (db.filesInPlace.filter fun p => fileFits q p.file).mergeSort fileOrder

theorem searchFiles_eq (db : Database) (q : FileLookup) :
    db.searchFiles q =
      guardLookup (q.messageIds = some []) q.shape.fits (0 < q.limit && db.files.any (fileOverruns q))
        ((cutPage q.limit q.offset (db.foundFiles q)).mapM fileRow) :=
  rfl

theorem foundFiles_eq_insertionSort (db : Database) (q : FileLookup) :
    db.foundFiles q = (db.filesInPlace.filter fun p => fileFits q p.file).insertionSort (fileOrder · ·) :=
  Merging.mergeSort_eq_insertionSort fileOrder_trans fileOrder_total _

end WorkspaceSearch.Database
