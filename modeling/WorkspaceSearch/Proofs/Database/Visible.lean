import Mathlib.Data.List.Perm.Basic
import WorkspaceSearch.Proofs.Database.Keys
import WorkspaceSearch.Proofs.Database.Newest
import WorkspaceSearch.Proofs.Outcome

/-!
# What a lookup sees

Databases may have the same rows in some part: the same people (`SamePeople`), the same messages in some channels with
the reactions to them (`SameMessages`), or the same direct messages of a user (`SameDirectMessages`).  A lookup that is
narrowed to such a part answers the same on both, however the rows are arranged and whatever the other rows are.

What a join holds is told by membership (`mem_join`, `mem_joinMaybe`), and so every row that is answered comes from a
stored one.
-/

namespace WorkspaceSearch.Database

/-! ### Parts of a database -/

/-- The messages in some channels. -/
def messagesIn (db : Database) (channelIds : List String) : List Stored.Message :=
  db.messages.toList.filter fun m => channelIds.contains m.channelId

/-- The reactions to messages in some channels. -/
def reactionsIn (db : Database) (channelIds : List String) : List Stored.Reaction :=
  db.reactions.toList.filter fun r => (db.messagesIn channelIds).any fun m => m.id = r.messageId

/-- The direct messages that a user has sent or received. -/
def directMessagesOf (db : Database) (userId : String) : List Stored.DirectMessage :=
  db.directMessages.toList.filter (isBetween · userId)

/-- The same users and channels. -/
structure SamePeople (db db' : Database) : Prop where
  users : db.users.toList.Perm db'.users.toList
  channels : db.channels.toList.Perm db'.channels.toList

/-- The same messages in some channels, with the same reactions. -/
structure SameMessages (channelIds : List String) (db db' : Database) : Prop where
  messages : (db.messagesIn channelIds).Perm (db'.messagesIn channelIds)
  reactions : (db.reactionsIn channelIds).Perm (db'.reactionsIn channelIds)

/-- The same direct messages that a user has sent or received. -/
def SameDirectMessages (userId : String) (db db' : Database) : Prop :=
  (db.directMessagesOf userId).Perm (db'.directMessagesOf userId)

/-! ### Joins -/

section

variable {A B : Type} {refers : A → B → Bool}

theorem mem_join {as : List A} {bs : List B} {x : A × B} :
    x ∈ join as bs refers ↔ x.1 ∈ as ∧ x.2 ∈ bs ∧ refers x.1 x.2 = true := by
  obtain ⟨a, b⟩ := x
  simp only [join, List.mem_flatMap, List.mem_map, List.mem_filter, Prod.mk.injEq]
  constructor
  · rintro ⟨a, ha, b, ⟨hb, hr⟩, rfl, rfl⟩
    exact ⟨ha, hb, hr⟩
  · rintro ⟨ha, hb, hr⟩
    exact ⟨a, ha, b, ⟨hb, hr⟩, rfl, rfl⟩

theorem join_perm {as as' : List A} {bs bs' : List B} (ha : as.Perm as') (hb : bs.Perm bs') :
    (join as bs refers).Perm (join as' bs' refers) := by
  have hrows : ∀ a, ((bs.filter (refers a)).map fun b => (a, b)).Perm ((bs'.filter (refers a)).map fun b => (a, b)) :=
    fun a => (hb.filter _).map _
  exact ha.flatMap fun a _ => hrows a

/-- A condition on the rows that are joined may be checked first. -/
private theorem filter_join (p : A → Bool) (as : List A) (bs : List B) :
    (join as bs refers).filter (fun x => p x.1) = join (as.filter p) bs refers := by
  induction as with
  | nil => rfl
  | cons a as ih =>
    simp only [join, List.flatMap_cons, List.filter_append] at ih ⊢
    rw [ih]
    cases hp : p a <;> simp [List.filter_map, Function.comp_def, hp]

/-- What is joined with a row: one that it refers to, or nothing when there is none. -/
def IsJoined (isMeant : B → Bool) (bs : List B) : Option B → Prop
  | some b => b ∈ bs ∧ isMeant b = true
  | none => ∀ b ∈ bs, isMeant b = false

/-- A row is joined with every row that it refers to, or with none. -/
private theorem mem_joinMaybe_singleton {a c : A} {bs : List B} {b : Option B} :
    (a, b) ∈ joinMaybe [c] bs refers ↔ a = c ∧ IsJoined (refers c) bs b := by
  simp only [joinMaybe, List.flatMap_cons, List.flatMap_nil, List.append_nil]
  split
  · next hnone =>
    rw [List.filter_eq_nil_iff] at hnone
    cases b with
    | none => simpa [IsJoined] using fun _ => hnone
    | some b =>
      simp only [List.mem_singleton, Prod.mk.injEq, reduceCtorEq, and_false, IsJoined, false_iff, not_and]
      exact fun _ hb => hnone b hb
  · next hsome =>
    have hmem : ∀ e, e ∈ bs.filter (refers c) ↔ e ∈ bs ∧ refers c e = true := fun e => List.mem_filter
    cases b with
    | none =>
      obtain ⟨e, he⟩ := List.exists_mem_of_ne_nil _ (hsome ·)
      obtain ⟨he, hrefers⟩ := (hmem e).1 he
      simp only [List.mem_map, Prod.mk.injEq, reduceCtorEq, and_false, exists_false, IsJoined, false_iff, not_and]
      intro _ hnone
      rw [hnone e he] at hrefers
      cases hrefers
    | some b =>
      simp only [List.mem_map, Prod.mk.injEq, Option.some.injEq, hmem, IsJoined]
      constructor
      · rintro ⟨e, he, rfl, rfl⟩
        exact ⟨rfl, he⟩
      · rintro ⟨rfl, hb⟩
        exact ⟨b, hb, rfl, rfl⟩

theorem mem_joinMaybe {as : List A} {bs : List B} {x : A × Option B} :
    x ∈ joinMaybe as bs refers ↔ x.1 ∈ as ∧ IsJoined (refers x.1) bs x.2 := by
  obtain ⟨a, b⟩ := x
  have hrows : joinMaybe as bs refers = as.flatMap fun c => joinMaybe [c] bs refers := by simp [joinMaybe]
  rw [hrows, List.mem_flatMap]
  constructor
  · rintro ⟨c, hc, h⟩
    obtain ⟨rfl, hb⟩ := mem_joinMaybe_singleton.1 h
    exact ⟨hc, hb⟩
  · rintro ⟨ha, hb⟩
    exact ⟨a, ha, mem_joinMaybe_singleton.2 ⟨rfl, hb⟩⟩

theorem joinMaybe_perm {as as' : List A} {bs bs' : List B} (ha : as.Perm as')
    (hb : bs.Perm bs') : (joinMaybe as bs refers).Perm (joinMaybe as' bs' refers) := by
  refine ha.flatMap fun a _ => ?_
  have hfound := hb.filter (refers a)
  cases hrows : bs.filter (refers a) with
  | nil =>
    rw [hrows] at hfound
    rw [hfound.nil_eq]
  | cons b rest =>
    rw [hrows] at hfound
    cases hrows' : bs'.filter (refers a) with
    | nil =>
      rw [hrows'] at hfound
      cases hfound.eq_nil
    | cons b' rest' =>
      rw [hrows'] at hfound
      exact hfound.map _

end

/-! ### Names -/

variable {db db' : Database}

private theorem eq_of_key {Row : Type} {rows : List Row} {key : Row → String} (h : (rows.map key).Nodup) :
    ∀ r ∈ rows, ∀ q ∈ rows, key r = key q → r = q :=
  fun _ hr _ hq heq => List.inj_on_of_nodup_map h hr hq heq

/-- Rows that are sorted by an order that ends with a key do not depend on how they were arranged. -/
theorem sorted_eq_of_perm {Row : Type} {rows rows' : List Row} {le : Row → Row → Bool} (key : Row → String)
    (htrans : ∀ x y z, le x y = true → le y z = true → le x z = true) (htotal : ∀ x y, (le x y || le y x) = true)
    (hends : ∀ x y, le x y = true → le y x = true → key x = key y) (h : rows.Perm rows')
    (hkey : (rows.map key).Nodup) (p : Row → Bool) :
    (rows.filter p).mergeSort le = (rows'.filter p).mergeSort le := by
  refine Merging.mergeSort_eq_of_perm htrans htotal (h.filter p) fun x hx y hy hxy hyx => ?_
  exact eq_of_key hkey x (List.mem_of_mem_filter hx) y (List.mem_of_mem_filter hy) (hends x y hxy hyx)

theorem sorted_by_key {Row : Type} {rows rows' : List Row} (key : Row → String) (h : rows.Perm rows')
    (hkey : (rows.map key).Nodup) (p : Row → Bool) :
    ((rows.filter p).mergeSort fun r q => key r ≤ key q) = (rows'.filter p).mergeSort fun r q => key r ≤ key q := by
  refine sorted_eq_of_perm key (fun x y z hxy hyz => ?_) (fun x y => ?_) (fun x y hxy hyx => ?_) h hkey p
  · rw [decide_eq_true_iff] at *
    exact String.le_trans hxy hyz
  · rw [Bool.or_eq_true, decide_eq_true_iff, decide_eq_true_iff]
    exact String.le_total _ _
  · rw [decide_eq_true_iff] at *
    exact String.le_antisymm hxy hyx

theorem resolveChannelIds_eq (h : SamePeople db db') (hkeyed : db.Keyed) (names : List String) :
    db.resolveChannelIds names = db'.resolveChannelIds names := by
  unfold resolveChannelIds
  simp only [sorted_by_key (·.name) h.channels hkeyed.channelNames]

theorem resolveUserIds_eq (h : SamePeople db db') (hkeyed : db.Keyed) (names : List String) :
    db.resolveUserIds names = db'.resolveUserIds names := by
  unfold resolveUserIds
  simp only [sorted_by_key (·.username) h.users hkeyed.usernames]

/-! ### Messages -/

section

variable {channelIds : List String}

private theorem countP_reactionsIn {m : Stored.Message} (hm : m ∈ db.messagesIn channelIds) :
    (db.reactionsIn channelIds).countP (fun r => r.messageId = m.id) = db.reactionCount m.id := by
  rw [reactionsIn, List.countP_filter, reactionCount]
  refine List.countP_congr fun r _ => ?_
  simp only [Bool.and_eq_true, decide_eq_true_eq, List.any_eq_true, and_iff_left_iff_imp]
  intro hr
  exact ⟨m, hm, hr.symm⟩

private theorem reactionCount_eq (h : SameMessages channelIds db db') {m : Stored.Message}
    (hm : m ∈ db.messagesIn channelIds) : db.reactionCount m.id = db'.reactionCount m.id := by
  rw [← countP_reactionsIn hm, ← countP_reactionsIn (h.messages.mem_iff.1 hm)]
  exact h.reactions.countP_eq _

private theorem any_reaction (db : Database) (id : String) :
    (db.reactions.toList.any fun r => r.messageId = id) = decide (0 < db.reactionCount id) := by
  rw [reactionCount, Bool.eq_iff_iff, decide_eq_true_iff, List.countP_pos_iff, List.any_eq_true]

private theorem messageFits_eq (h : SameMessages channelIds db db') {m : Stored.Message}
    (hm : m ∈ db.messagesIn channelIds) (q : MessageLookup) : db.messageFits q m = db'.messageFits q m := by
  simp only [messageFits, any_reaction, reactionCount_eq h hm]

private theorem messageRow_eq (h : SameMessages channelIds db db') {m : Stored.Message}
    (hm : m ∈ db.messagesIn channelIds)
    (c : Stored.Channel) (u : Stored.User) : db.messageRow m c u = db'.messageRow m c u := by
  simp only [messageRow, reactionCount_eq h hm]

variable {q : MessageLookup}

private theorem isIn_of_fits (hq : q.accessibleChannelIds = some channelIds) {m : Stored.Message}
    (h : db.messageFits q m = true) : channelIds.contains m.channelId = true := by
  simp only [messageFits, isInChannels, hq, Bool.and_eq_true, Option.all_some] at h
  exact h.1.1.1.1.1.1.1.1.2

/-- The messages looked up, put together from the messages in the channels of the user. -/
private theorem filter_messagesInPlace (hq : q.accessibleChannelIds = some channelIds) :
    (db.messagesInPlace.filter fun x => db.messageFits q x.1.1) =
      join (join ((db.messagesIn channelIds).filter (db.messageFits q)) db.channels.toList
        fun m c => c.id = m.channelId) db.users.toList fun m u => u.id = m.1.senderId := by
  have hfits : db.messages.toList.filter (db.messageFits q) =
      (db.messagesIn channelIds).filter (db.messageFits q) := by
    rw [messagesIn, List.filter_filter]
    refine List.filter_congr fun m _ => ?_
    cases hm : db.messageFits q m with
    | false => rfl
    | true => rw [isIn_of_fits hq hm]; rfl
  rw [← hfits, ← filter_join, ← filter_join]
  rfl

private theorem mem_foundMessages (hq : q.accessibleChannelIds = some channelIds)
    {x : (Stored.Message × Stored.Channel) × Stored.User} (hx : x ∈ db.foundMessages q) :
    x.1.1 ∈ db.messagesIn channelIds ∧ (x.1.2 ∈ db.channels.toList ∧ x.1.2.id = x.1.1.channelId) ∧
      x.2 ∈ db.users.toList ∧ x.2.id = x.1.1.senderId := by
  rw [foundMessages, List.mem_mergeSort, filter_messagesInPlace hq] at hx
  obtain ⟨hplaced, huser, hsender⟩ := mem_join.1 hx
  obtain ⟨hm, hc, hchannel⟩ := mem_join.1 hplaced
  exact ⟨List.mem_of_mem_filter hm, ⟨hc, of_decide_eq_true hchannel⟩, huser, of_decide_eq_true hsender⟩

private theorem foundMessages_eq (hpeople : SamePeople db db') (h : SameMessages channelIds db db') (hkeyed : db.Keyed)
    (hq : q.accessibleChannelIds = some channelIds) : db.foundMessages q = db'.foundMessages q := by
  have hmessages : ((db.messagesIn channelIds).filter (db.messageFits q)).Perm
      ((db'.messagesIn channelIds).filter (db'.messageFits q)) := by
    rw [List.filter_congr fun m hm => messageFits_eq h hm q]
    exact h.messages.filter _
  have hperm : (db.messagesInPlace.filter fun x => db.messageFits q x.1.1).Perm
      (db'.messagesInPlace.filter fun x => db'.messageFits q x.1.1) := by
    rw [filter_messagesInPlace hq, filter_messagesInPlace hq]
    exact join_perm (join_perm hmessages hpeople.channels) hpeople.users
  -- the order of time ends with the identifiers, so messages that tie are the same row
  refine Merging.mergeSort_eq_of_perm messageOrder_trans messageOrder_total hperm fun x hx y hy hxy hyx => ?_
  obtain ⟨hxm, ⟨hxc, hxc'⟩, hxu, hxu'⟩ := mem_foundMessages hq (List.mem_mergeSort.2 hx)
  obtain ⟨hym, ⟨hyc, hyc'⟩, hyu, hyu'⟩ := mem_foundMessages hq (List.mem_mergeSort.2 hy)
  have hid : x.1.1.id = y.1.1.id := congrArg Prod.snd (newestFirst_antisymm hxy hyx)
  have hm : x.1.1 = y.1.1 :=
    eq_of_key hkeyed.messages _ (List.mem_of_mem_filter hxm) _ (List.mem_of_mem_filter hym) hid
  have hc : x.1.2 = y.1.2 := eq_of_key hkeyed.channels _ hxc _ hyc (by rw [hxc', hyc', hm])
  have hu : x.2 = y.2 := eq_of_key hkeyed.users _ hxu _ hyu (by rw [hxu', hyu', hm])
  exact Prod.ext (Prod.ext hm hc) hu

theorem any_eq_false {Row : Type} {rows : Rows Row} {p : Row → Bool} (h : ∀ r, p r = false) : rows.any p = false :=
  List.any_eq_false.2 fun r _ => by rw [h r]; exact Bool.false_ne_true

/-- No message comes to a pattern that is too long when there is none. -/
theorem messageOverruns_eq_false (h : q.text.hasLongPattern = false) (m : Stored.Message) :
    db.messageOverruns q m = false := by
  rw [messageOverruns, TextMatch.overruns, h, Bool.false_and, Bool.and_false]

/-- Nor does a direct message. -/
theorem directMessageOverruns_eq_false {q : DirectMessageLookup} (h : q.text.hasLongPattern = false)
    (m : Stored.DirectMessage) : db.directMessageOverruns q m = false := by
  rw [directMessageOverruns, TextMatch.overruns, h, Bool.false_and, Bool.and_false]

theorem mem_of_mem_cutPage {Row : Type} {limit offset : Nat} {rows : List Row} {r : Row}
    (h : r ∈ cutPage limit offset rows) : r ∈ rows :=
  List.mem_of_mem_drop (List.mem_of_mem_take h)

private theorem searchMessages_eq_of_overruns (hpeople : SamePeople db db') (h : SameMessages channelIds db db')
    (hkeyed : db.Keyed) (hq : q.accessibleChannelIds = some channelIds)
    (hover : (0 < q.limit && db.messages.any (db.messageOverruns q)) =
      (0 < q.limit && db'.messages.any (db'.messageOverruns q))) : db.searchMessages q = db'.searchMessages q := by
  rw [searchMessages_eq, searchMessages_eq, hover, ← foundMessages_eq hpeople h hkeyed hq]
  refine congrArg _ (Outcome.mapM_congr fun x hx => ?_)
  exact messageRow_eq h (mem_foundMessages hq (mem_of_mem_cutPage hx)).1 _ _

private theorem searchMessages_of_overruns (hne : q.accessibleChannelIds ≠ some [])
    (hover : (0 < q.limit && db.messages.any (db.messageOverruns q)) = true) :
    db.searchMessages q = .error .tooComplex := by
  rw [searchMessages_eq, hover, guardLookup, decide_eq_false hne, Bool.or_true]
  rfl

/-- A lookup in some channels sees nothing but the messages there, unless one of its patterns is too long and it fails
over a message that is tested. -/
theorem searchMessages_eq_or_tooComplex (hpeople : SamePeople db db') (h : SameMessages channelIds db db')
    (hkeyed : db.Keyed) (hq : q.accessibleChannelIds = some channelIds) :
    db.searchMessages q = db'.searchMessages q ∨
      q.text.hasLongPattern = true ∧
        (db.searchMessages q = .error .tooComplex ∨ db'.searchMessages q = .error .tooComplex) := by
  by_cases hnone : q.accessibleChannelIds = some []
  · left
    rw [searchMessages_eq, searchMessages_eq, hnone]
    rfl
  cases hlong : q.text.hasLongPattern with
  | false =>
    refine .inl (searchMessages_eq_of_overruns hpeople h hkeyed hq ?_)
    rw [any_eq_false (messageOverruns_eq_false hlong), any_eq_false (messageOverruns_eq_false hlong)]
  | true =>
    cases hover : (0 < q.limit && db.messages.any (db.messageOverruns q)) with
    | true => exact .inr ⟨rfl, .inl (searchMessages_of_overruns hnone hover)⟩
    | false =>
      cases hover' : (0 < q.limit && db'.messages.any (db'.messageOverruns q)) with
      | true => exact .inr ⟨rfl, .inr (searchMessages_of_overruns hnone hover')⟩
      | false => exact .inl (searchMessages_eq_of_overruns hpeople h hkeyed hq (hover.trans hover'.symm))

theorem mem_of_guardLookup {Row : Type} {isEmpty fits overruns : Bool}
    {rows : Except DatabaseFault (List Row)} {found : List Row} (h : guardLookup isEmpty fits overruns rows = .ok found)
    {r : Row} (hr : r ∈ found) : rows = .ok found := by
  unfold guardLookup at h
  split at h
  · obtain rfl := Except.ok.inj h
    cases hr
  · split at h
    · cases h
    · exact h

/-- A lookup that is accepted and has room for all that is found answers for each of it. -/
theorem exists_guardLookup {Found Row : Type} {isEmpty fits overruns : Bool} {found : List Found} {limit : Nat}
    {read : Found → Except DatabaseFault Row} (hempty : isEmpty = false) (hfits : fits = true)
    (hoverruns : overruns = false) (hlimit : found.length ≤ limit) (hread : ∀ x ∈ found, ∃ row, read x = .ok row) :
    ∃ rows, guardLookup isEmpty fits overruns ((cutPage limit 0 found).mapM read) = .ok rows ∧
      ∀ row, row ∈ rows ↔ ∃ x ∈ found, read x = .ok row := by
  obtain ⟨rows, hrows⟩ := Outcome.exists_mapM_ok hread
  refine ⟨rows, ?_, fun row => Outcome.mem_of_mapM hrows⟩
  rw [hempty, hfits, hoverruns, cutPage, List.drop_zero, List.take_of_length_le hlimit, hrows]
  rfl

/-- A row that is found is a message in the channels of the user. -/
theorem mem_searchMessages (hq : q.accessibleChannelIds = some channelIds) {rows : List MessageRow}
    (h : db.searchMessages q = .ok rows) {row : MessageRow} (hrow : row ∈ rows) :
    ∃ m ∈ db.messages.toList, m.id = row.id ∧ m.channelId = row.channelId ∧ m.channelId ∈ channelIds := by
  rw [searchMessages_eq] at h
  obtain ⟨x, hx, hread⟩ := (Outcome.mem_of_mapM (mem_of_guardLookup h hrow)).1 hrow
  have hm := (mem_foundMessages hq (mem_of_mem_cutPage hx)).1
  refine ⟨x.1.1, List.mem_of_mem_filter hm, ?_⟩
  cases htime : readTime x.1.1.createdAt with
  | error e => rw [messageRow, htime] at hread; cases hread
  | ok t =>
    rw [messageRow, htime] at hread
    obtain rfl := Except.ok.inj hread
    exact ⟨rfl, rfl, by simpa using List.of_mem_filter hm⟩

end

/-! ### Direct messages -/

section

variable {q : DirectMessageLookup}

private theorem isOf_of_fits {m : Stored.DirectMessage} (h : directMessageFits q m = true) :
    isBetween m q.participantId = true := by
  simp only [directMessageFits, Bool.and_eq_true] at h
  exact h.1.1.1.1.1.1

private theorem any_filter_of_imp {Row : Type} {rows : List Row} {p v : Row → Bool}
    (h : ∀ r, p r = true → v r = true) : rows.any p = (rows.filter v).any p := by
  rw [List.any_filter]
  congr 1
  funext r
  cases hr : p r with
  | false => simp
  | true => simp [h r hr]

private theorem isOf_of_overruns {m : Stored.DirectMessage} (h : db.directMessageOverruns q m = true) :
    isBetween m q.participantId = true := by
  simp only [directMessageOverruns, Bool.and_eq_true] at h
  exact h.1.1

private theorem filter_directMessagesInPlace :
    (db.directMessagesInPlace.filter fun x => directMessageFits q x.1.1) =
      join (join ((db.directMessagesOf q.participantId).filter (directMessageFits q)) db.users.toList
        fun m u => u.id = m.senderId) db.users.toList fun m u => u.id = m.1.receiverId := by
  have hfits : db.directMessages.toList.filter (directMessageFits q) =
      (db.directMessagesOf q.participantId).filter (directMessageFits q) := by
    rw [directMessagesOf, List.filter_filter]
    refine List.filter_congr fun m _ => ?_
    cases hm : directMessageFits q m with
    | false => rfl
    | true => rw [isOf_of_fits hm]; rfl
  rw [← hfits, ← filter_join, ← filter_join]
  rfl

private theorem mem_foundDirectMessages {x : (Stored.DirectMessage × Stored.User) × Stored.User}
    (hx : x ∈ db.foundDirectMessages q) :
    x.1.1 ∈ db.directMessagesOf q.participantId ∧ (x.1.2 ∈ db.users.toList ∧ x.1.2.id = x.1.1.senderId) ∧
      x.2 ∈ db.users.toList ∧ x.2.id = x.1.1.receiverId := by
  rw [foundDirectMessages, List.mem_mergeSort, filter_directMessagesInPlace] at hx
  obtain ⟨hplaced, huser, hreceiver⟩ := mem_join.1 hx
  obtain ⟨hm, hs, hsender⟩ := mem_join.1 hplaced
  exact ⟨List.mem_of_mem_filter hm, ⟨hs, of_decide_eq_true hsender⟩, huser, of_decide_eq_true hreceiver⟩

private theorem foundDirectMessages_eq (hpeople : SamePeople db db') (h : SameDirectMessages q.participantId db db')
    (hkeyed : db.Keyed) : db.foundDirectMessages q = db'.foundDirectMessages q := by
  have hperm : (db.directMessagesInPlace.filter fun x => directMessageFits q x.1.1).Perm
      (db'.directMessagesInPlace.filter fun x => directMessageFits q x.1.1) := by
    rw [filter_directMessagesInPlace, filter_directMessagesInPlace]
    exact join_perm (join_perm (h.filter _) hpeople.users) hpeople.users
  refine Merging.mergeSort_eq_of_perm directMessageOrder_trans directMessageOrder_total hperm
    fun x hx y hy hxy hyx => ?_
  obtain ⟨hxm, ⟨hxs, hxs'⟩, hxr, hxr'⟩ := mem_foundDirectMessages (List.mem_mergeSort.2 hx)
  obtain ⟨hym, ⟨hys, hys'⟩, hyr, hyr'⟩ := mem_foundDirectMessages (List.mem_mergeSort.2 hy)
  have hid : x.1.1.id = y.1.1.id := congrArg Prod.snd (newestFirst_antisymm hxy hyx)
  have hm : x.1.1 = y.1.1 :=
    eq_of_key hkeyed.directMessages _ (List.mem_of_mem_filter hxm) _ (List.mem_of_mem_filter hym) hid
  have hs : x.1.2 = y.1.2 := eq_of_key hkeyed.users _ hxs _ hys (by rw [hxs', hys', hm])
  have hr : x.2 = y.2 := eq_of_key hkeyed.users _ hxr _ hyr (by rw [hxr', hyr', hm])
  exact Prod.ext (Prod.ext hm hs) hr

private theorem directMessages_any_overruns_eq (hplan : db.plan = db'.plan)
    (h : SameDirectMessages q.participantId db db') :
    db.directMessages.any (db.directMessageOverruns q) = db'.directMessages.any (db'.directMessageOverruns q) := by
  have hsame : db'.directMessageOverruns q = db.directMessageOverruns q := by
    funext m
    rw [directMessageOverruns, directMessageOverruns, hplan]
  have hin : ∀ m, db.directMessageOverruns q m = true → isBetween m q.participantId = true := fun _ => isOf_of_overruns
  rw [hsame]
  exact (any_filter_of_imp hin).trans (h.any_eq.trans (any_filter_of_imp hin).symm)

/-- A lookup of the direct messages of a user, run by one plan, sees no others. -/
theorem searchDirectMessages_eq_of_same (hplan : db.plan = db'.plan) (hpeople : SamePeople db db')
    (h : SameDirectMessages q.participantId db db') (hkeyed : db.Keyed) :
    db.searchDirectMessages q = db'.searchDirectMessages q := by
  rw [searchDirectMessages_eq, searchDirectMessages_eq, directMessages_any_overruns_eq hplan h,
    foundDirectMessages_eq hpeople h hkeyed]

/-- A row that is found is a direct message of the user. -/
theorem mem_searchDirectMessages {rows : List DirectMessageRow} (h : db.searchDirectMessages q = .ok rows)
    {row : DirectMessageRow} (hrow : row ∈ rows) :
    ∃ m ∈ db.directMessagesOf q.participantId, m.id = row.id ∧ m.senderId = row.senderId ∧
      m.receiverId = row.receiverId := by
  rw [searchDirectMessages_eq] at h
  obtain ⟨x, hx, hread⟩ := (Outcome.mem_of_mapM (mem_of_guardLookup h hrow)).1 hrow
  refine ⟨x.1.1, (mem_foundDirectMessages (mem_of_mem_cutPage hx)).1, ?_⟩
  cases htime : readTime x.1.1.createdAt with
  | error e => rw [directMessageRow, htime] at hread; cases hread
  | ok t =>
    rw [directMessageRow, htime] at hread
    obtain rfl := Except.ok.inj hread
    exact ⟨rfl, rfl, rfl⟩

end

/-! ### Files -/

section

variable {p : FilePlace} {q : FileLookup}

/-- A file stands in a place with what it refers to, as far as that is there. -/
theorem mem_filesInPlace :
    p ∈ db.filesInPlace ↔ p.file ∈ db.files.toList ∧
      IsJoined (fun u => p.file.uploaderId = some u.id) db.users.toList p.uploader ∧
      IsJoined (fun m => p.file.messageId = some m.id) db.messages.toList p.message ∧
      IsJoined (fun c => (p.message.map (·.channelId)) = some c.id) db.channels.toList p.channel := by
  simp only [filesInPlace, List.mem_map, mem_joinMaybe]
  constructor
  · rintro ⟨x, ⟨⟨⟨hfile, huploader⟩, hmessage⟩, hchannel⟩, rfl⟩
    exact ⟨hfile, huploader, hmessage, hchannel⟩
  · rintro ⟨hfile, huploader, hmessage, hchannel⟩
    exact ⟨(((p.file, p.uploader), p.message), p.channel), ⟨⟨⟨hfile, huploader⟩, hmessage⟩, hchannel⟩, rfl⟩

/-- The answer for a file has its fields, and its time and size if these can be read. -/
theorem fileRow_eq_ok {row : FileRow} (h : fileRow p = .ok row) :
    ∃ t size, p.file.createdAt.instant? = some t ∧
      row = { id := p.file.id, messageId := p.file.messageId, uploaderId := p.file.uploaderId
              uploaderName := p.uploader.map (·.displayName), fileName := p.file.fileName, fileType := p.file.fileType
              fileSize := size, url := p.file.url, channelId := p.message.map (·.channelId)
              channelName := p.channel.map (·.name), createdAt := t } := by
  obtain ⟨t, ht, h⟩ := Outcome.bind_eq_ok.1 h
  obtain ⟨size, -, h⟩ := Outcome.bind_eq_ok.1 h
  exact ⟨t, size, instant?_of_readTime ht, (Except.ok.inj h).symm⟩

/-- A row that is found is the answer for a file, in its place, that the lookup lets through. -/
theorem exists_place_of_mem_searchFiles {rows : List FileRow} (h : db.searchFiles q = .ok rows) {row : FileRow}
    (hrow : row ∈ rows) : ∃ p ∈ db.filesInPlace, fileFits q p.file = true ∧ fileRow p = .ok row := by
  rw [searchFiles_eq] at h
  obtain ⟨p, hp, hread⟩ := (Outcome.mem_of_mapM (mem_of_guardLookup h hrow)).1 hrow
  obtain ⟨hplaced, hfits⟩ := List.mem_filter.1 (List.mem_mergeSort.1 (mem_of_mem_cutPage hp))
  exact ⟨p, hplaced, hfits, hread⟩

end

end WorkspaceSearch.Database
