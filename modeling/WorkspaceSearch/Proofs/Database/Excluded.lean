import WorkspaceSearch.Proofs.Database.Rearranged
import WorkspaceSearch.Proofs.Search.Found
import WorkspaceSearch.Proofs.Search.Guarded

/-!
# Excluded texts

A lookup that excludes texts finds the rows of the same lookup without them, less those whose text holds one of them
(`Database.fits_eq_allowing`).  They are left out before the page is cut out, so a page of the lookup is a page of the
rows that remain (`Database.look_eq_or`).
-/

namespace WorkspaceSearch

/-! ### The lookups of the domains -/

namespace Domain

/-- The lookup of a domain. -/
abbrev Lookup : Domain → Type
  | .messages => MessageLookup
  | .directMessages => DirectMessageLookup
  | .files => FileLookup
  | .channels => ChannelLookup
  | .users => UserLookup

/-- What is in the table of a domain. -/
abbrev Held : Domain → Type
  | .messages => Stored.Message
  | .directMessages => Stored.DirectMessage
  | .files => Stored.File
  | .channels => Stored.Channel
  | .users => Stored.User

/-- The condition on the text. -/
def text : (d : Domain) → d.Lookup → TextMatch
  | .messages => MessageLookup.text
  | .directMessages => DirectMessageLookup.text
  | .files => FileLookup.text
  | .channels => ChannelLookup.text
  | .users => UserLookup.text

/-- The page of a lookup cut out of some rows. -/
def cut {Row : Type} : (d : Domain) → d.Lookup → List Row → List Row
  | .messages, q => Database.cutPage q.limit q.offset
  | .directMessages, q => Database.cutPage q.limit q.offset
  | .files, q => Database.cutPage q.limit q.offset
  | .channels, q => Database.cutPage q.limit q.offset
  | .users, q => Database.cutPage q.limit q.offset

/-- The lookup without its excluded texts, for the rows up to a number. -/
def allowing (n : Nat) : (d : Domain) → d.Lookup → d.Lookup
  | .messages, q => { q with text := { q.text with exclude := [] }, limit := n, offset := 0 }
  | .directMessages, q => { q with text := { q.text with exclude := [] }, limit := n, offset := 0 }
  | .files, q => { q with text := { q.text with exclude := [] }, limit := n, offset := 0 }
  | .channels, q => { q with text := { q.text with exclude := [] }, limit := n, offset := 0 }
  | .users, q => { q with text := { q.text with exclude := [] }, limit := n, offset := 0 }

/-- The text that the database matches with the excluded texts. -/
def matched : (d : Domain) → d.Held → String
  | .messages => Stored.Message.content
  | .directMessages => Stored.DirectMessage.content
  | .files => Stored.File.fileName
  | .channels => Stored.Channel.name
  | .users => Stored.User.rawName

/-- The text that the result is shown with. -/
def shown : (d : Domain) → d.Held → String
  | .users, u => Text.trim u.rawName
  | d, x => d.matched x

/-- Whether the statement of a lookup keeps to the limits of the database, and so do its patterns. -/
def isModest : (d : Domain) → d.Lookup → Bool
  | .messages, q => q.shape.fits && !q.text.hasLongPattern
  | .directMessages, q => q.shape.fits && !q.text.hasLongPattern
  | .files, q => q.shape.fits && !q.text.hasLongPattern &&
      q.filters.fileType.all fun t => !Like.isTooLong (Like.containing t)
  | .channels, q => q.shape.fits && !q.text.hasLongPattern
  | .users, q => q.shape.fits && !q.text.hasLongPattern

end Domain

namespace Database

variable {db : Database} {d : Domain}

/-- The rows in the table of a domain. -/
def held (db : Database) : (d : Domain) → List d.Held
  | .messages => db.messages.toList
  | .directMessages => db.directMessages.toList
  | .files => db.files.toList
  | .channels => db.channels.toList
  | .users => db.users.toList

/-- Whether a row is one that is looked up. -/
def fits (db : Database) : (d : Domain) → d.Lookup → d.Held → Bool
  | .messages => db.messageFits
  | .directMessages => directMessageFits
  | .files => fileFits
  | .channels => channelFits
  | .users => userFits

/-- Looks the rows of a domain up. -/
def look (db : Database) : (d : Domain) → d.Lookup → Except DatabaseFault (List d.Row)
  | .messages => db.searchMessages
  | .directMessages => db.searchDirectMessages
  | .files => db.searchFiles
  | .channels => db.searchChannels
  | .users => db.searchUsers

/-! ### Row by row -/

private theorem findsIn_allowing (t : TextMatch) (columns : List String) :
    ({ t with exclude := [] } : TextMatch).findsIn columns = t.findsIn columns :=
  rfl

private theorem sparesText_allowing (t : TextMatch) (primary : String) :
    ({ t with exclude := [] } : TextMatch).sparesText primary = true :=
  rfl

/-- Of the rows that are looked up without the excluded texts those are kept that the texts spare. -/
theorem fits_eq_allowing (db : Database) (n : Nat) (q : d.Lookup) (x : d.Held) :
    db.fits d q x = (db.fits d (d.allowing n q) x && (d.text q).sparesText (d.matched x)) := by
  cases d <;>
    simp only [fits, messageFits, directMessageFits, fileFits, channelFits, userFits, isInChannels, isFromSenders,
      isAttached, isUploaded, Domain.allowing, Domain.text, Domain.matched, TextMatch.holds, findsIn_allowing,
      sparesText_allowing, Bool.and_true] <;>
    ac_rfl

/-! ### Page by page -/

section

variable {Place Row : Type} {places : List Place} {le : Place → Place → Bool} {p p₀ spares : Place → Bool}
  {keeps : Row → Bool} {read : Place → Except DatabaseFault Row} {isEmpty fits fits₀ overruns overruns₀ : Bool}
  {n limit offset : Nat} {all : List Row}

variable (htrans : ∀ x y z, le x y = true → le y z = true → le x z = true)
  (htotal : ∀ x y, (le x y || le y x) = true) (hp : ∀ x, p x = (p₀ x && spares x))
  (hread : ∀ x ∈ places, ∀ row, read x = .ok row → keeps row = spares x)

include htrans htotal hp hread

/-- A lookup that keeps some of the rows answers a page of them, unless it fails. -/
private theorem page_eq_or
    (h : guardLookup isEmpty fits₀ overruns₀ ((cutPage n 0 ((places.filter p₀).mergeSort le)).mapM read) = .ok all)
    (hn : all.length < n) :
    (guardLookup isEmpty fits overruns ((cutPage limit offset ((places.filter p).mergeSort le)).mapM read) =
        .error .tooComplex ∧ (fits && !overruns) = false) ∨
      guardLookup isEmpty fits overruns ((cutPage limit offset ((places.filter p).mergeSort le)).mapM read) =
        .ok (cutPage limit offset (all.filter keeps)) := by
  rw [guardLookup] at h
  split at h
  · next hempty =>
    obtain rfl := Except.ok.inj h
    rw [guardLookup, if_pos hempty]
    exact .inr (by simp [cutPage])
  next hempty =>
  split at h
  · cases h
  -- fewer rows than asked for are all rows
  have hwhole : ((places.filter p₀).mergeSort le).mapM read = .ok all := by
    have hlength := Outcome.length_of_mapM h
    rw [cutPage, List.drop_zero, List.length_take] at hlength
    rwa [cutPage, List.drop_zero, List.take_of_length_le (by omega)] at h
  have hsorted : (places.filter p).mergeSort le = ((places.filter p₀).mergeSort le).filter spares := by
    rw [← Merging.mergeSort_filter htrans htotal, List.filter_filter]
    refine congrArg (List.mergeSort · le) (List.filter_congr fun x _ => ?_)
    rw [hp, Bool.and_comm]
  have hkept : (((places.filter p₀).mergeSort le).filter spares).mapM read = .ok (all.filter keeps) :=
    Outcome.mapM_filter (fun x hx => hread x (List.mem_of_mem_filter (List.mem_mergeSort.1 hx))) hwhole
  have hpage : (cutPage limit offset ((places.filter p).mergeSort le)).mapM read =
      .ok (cutPage limit offset (all.filter keeps)) :=
    hsorted ▸ Outcome.mapM_take (Outcome.mapM_drop hkept offset) limit
  rw [hpage, guardLookup, if_neg hempty]
  split
  · next hrefused => exact .inl ⟨rfl, by simpa [← Bool.not_eq_true, imp_iff_not_or] using hrefused⟩
  · exact .inr rfl

end

/-! ### Patterns that are not too long -/

private theorem isSome_anyM {α : Type} {f : α → Option Bool} {as : List α} (h : ∀ a ∈ as, (f a).isSome = true) :
    (as.anyM f).isSome = true := by
  induction as with
  | nil => rfl
  | cons a as ih =>
    obtain ⟨b, hb⟩ := Option.isSome_iff_exists.1 (h a List.mem_cons_self)
    rw [List.anyM, hb]
    cases b with
    | true => rfl
    | false => exact ih fun c hc => h c (List.mem_cons_of_mem a hc)

private theorem isSome_allM {α : Type} {f : α → Option Bool} {as : List α} (h : ∀ a ∈ as, (f a).isSome = true) :
    (as.allM f).isSome = true := by
  induction as with
  | nil => rfl
  | cons a as ih =>
    obtain ⟨b, hb⟩ := Option.isSome_iff_exists.1 (h a List.mem_cons_self)
    rw [List.allM, hb]
    cases b with
    | true => exact ih fun c hc => h c (List.mem_cons_of_mem a hc)
    | false => rfl

/-- A test comes to an end when no pattern is too long. -/
private theorem isSome_test? {t : TextMatch} (h : t.hasLongPattern = false) (columns : List String) (primary : String) :
    (t.test? columns primary).isSome = true := by
  have hshort : ∀ text ∈ t.needles ++ t.excluded, ∀ column, Like.test? (Like.containing text) column =
      some (Like.isMatch (Like.containing text) column) := by
    intro text htext column
    rw [Like.test?, if_neg (List.any_eq_false.1 h text htext)]
  have hfinds : (t.finds? columns).isSome = true := by
    unfold TextMatch.finds?
    split
    · rfl
    · refine isSome_anyM fun needle hneedle => isSome_anyM fun column _ => ?_
      rw [hshort needle (List.mem_append_left _ hneedle)]
      rfl
  have hspares : (t.spares? primary).isSome = true := by
    refine isSome_allM fun term hterm => ?_
    rw [hshort term (List.mem_append_right _ hterm)]
    rfl
  obtain ⟨found, hfound⟩ := Option.isSome_iff_exists.1 hfinds
  rw [TextMatch.test?, hfound]
  cases found with
  | true => exact hspares
  | false => rfl

/-! ### Lookups -/

private theorem isModest_eq_false {fits limited overruns modest : Bool} (h : (fits && !(limited && overruns)) = false)
    (hoverruns : modest = true → fits = true ∧ overruns = false) : modest = false := by
  cases modest with
  | false => rfl
  | true =>
    obtain ⟨rfl, rfl⟩ := hoverruns rfl
    simp at h

private theorem fits_of_modest {fits long : Bool} (h : (fits && !long) = true) : fits = true ∧ long = false := by
  simpa using h

/-- No test of a file comes to a pattern that is too long when there is none. -/
theorem fileOverruns_eq_false {q : FileLookup} (h : Domain.isModest .files q = true) (f : Stored.File) :
    fileOverruns q f = false := by
  obtain ⟨hshort, htype⟩ := Bool.and_eq_true_iff.1 h
  obtain ⟨holds, htest⟩ :=
    Option.isSome_iff_exists.1 (isSome_test? (fits_of_modest hshort).2 [f.fileName, f.fileType] f.fileName)
  have hfilter : q.filters.fileType.any (fun t => Like.isTooLong (Like.containing t)) = false := by
    cases hasked : q.filters.fileType with
    | none => rfl
    | some t =>
      rw [hasked] at htype
      simpa using htype
  rw [fileOverruns, htest]
  simp only [hfilter, Bool.and_false]

private theorem searchMessages_eq_or {q : MessageLookup} {n : Nat} {all : List MessageRow} {keeps : MessageRow → Bool}
    (hkeeps : ∀ m ∈ db.messages.toList, ∀ row : MessageRow, row.content = m.content →
      keeps row = q.text.sparesText m.content)
    (h : db.searchMessages (Domain.allowing n .messages q) = .ok all) (hn : all.length < n) :
    (db.searchMessages q = .error .tooComplex ∧ Domain.isModest .messages q = false) ∨
      db.searchMessages q = .ok (cutPage q.limit q.offset (all.filter keeps)) := by
  rw [searchMessages_eq, foundMessages] at h
  rw [searchMessages_eq, foundMessages]
  refine (page_eq_or messageOrder_trans messageOrder_total
    (fun x => fits_eq_allowing db (d := .messages) n q x.1.1) (fun x hx row hrow => ?_) h hn).imp_left
    (And.imp_right fun hrefused => isModest_eq_false hrefused fun hmodest => ?_)
  · obtain ⟨t, -, rfl⟩ := messageRow_eq_ok hrow
    exact hkeeps _ (mem_join.1 (mem_join.1 hx).1).1 _ rfl
  · obtain ⟨hfits, hlong⟩ := fits_of_modest hmodest
    exact ⟨hfits, any_eq_false (messageOverruns_eq_false hlong)⟩

private theorem searchDirectMessages_eq_or {q : DirectMessageLookup} {n : Nat} {all : List DirectMessageRow}
    {keeps : DirectMessageRow → Bool}
    (hkeeps : ∀ m ∈ db.directMessages.toList, ∀ row : DirectMessageRow, row.content = m.content →
      keeps row = q.text.sparesText m.content)
    (h : db.searchDirectMessages (Domain.allowing n .directMessages q) = .ok all) (hn : all.length < n) :
    (db.searchDirectMessages q = .error .tooComplex ∧ Domain.isModest .directMessages q = false) ∨
      db.searchDirectMessages q = .ok (cutPage q.limit q.offset (all.filter keeps)) := by
  rw [searchDirectMessages_eq, foundDirectMessages] at h
  rw [searchDirectMessages_eq, foundDirectMessages]
  refine (page_eq_or directMessageOrder_trans directMessageOrder_total
    (fun x => fits_eq_allowing db (d := .directMessages) n q x.1.1) (fun x hx row hrow => ?_) h hn).imp_left
    (And.imp_right fun hrefused => isModest_eq_false hrefused fun hmodest => ?_)
  · obtain ⟨t, -, hrow⟩ := Outcome.bind_eq_ok.1 hrow
    obtain rfl := Except.ok.inj hrow
    exact hkeeps _ (mem_join.1 (mem_join.1 hx).1).1 _ rfl
  · obtain ⟨hfits, hlong⟩ := fits_of_modest hmodest
    exact ⟨hfits, any_eq_false (directMessageOverruns_eq_false hlong)⟩

private theorem searchFiles_eq_or {q : FileLookup} {n : Nat} {all : List FileRow} {keeps : FileRow → Bool}
    (hkeeps : ∀ f ∈ db.files.toList, ∀ row : FileRow, row.fileName = f.fileName →
      keeps row = q.text.sparesText f.fileName)
    (h : db.searchFiles (Domain.allowing n .files q) = .ok all) (hn : all.length < n) :
    (db.searchFiles q = .error .tooComplex ∧ Domain.isModest .files q = false) ∨
      db.searchFiles q = .ok (cutPage q.limit q.offset (all.filter keeps)) := by
  rw [searchFiles_eq, foundFiles] at h
  rw [searchFiles_eq, foundFiles]
  refine (page_eq_or fileOrder_trans fileOrder_total
    (fun p => fits_eq_allowing db (d := .files) n q p.file) (fun p hp row hrow => ?_) h hn).imp_left
    (And.imp_right fun hrefused => isModest_eq_false hrefused fun hmodest => ?_)
  · obtain ⟨t, size, -, rfl⟩ := fileRow_eq_ok hrow
    exact hkeeps _ (mem_filesInPlace.1 hp).1 _ rfl
  · exact ⟨(fits_of_modest (Bool.and_eq_true_iff.1 hmodest).1).1, any_eq_false (fileOverruns_eq_false hmodest)⟩

private theorem searchChannels_eq_or {q : ChannelLookup} {n : Nat} {all : List ChannelRow} {keeps : ChannelRow → Bool}
    (hkeeps : ∀ c ∈ db.channels.toList, ∀ row : ChannelRow, row.name = c.name → keeps row = q.text.sparesText c.name)
    (h : db.searchChannels (Domain.allowing n .channels q) = .ok all) (hn : all.length < n) :
    (db.searchChannels q = .error .tooComplex ∧ Domain.isModest .channels q = false) ∨
      db.searchChannels q = .ok (cutPage q.limit q.offset (all.filter keeps)) := by
  have htrans : ∀ c d e : Stored.Channel, decide (c.name ≤ d.name) = true → decide (d.name ≤ e.name) = true →
      decide (c.name ≤ e.name) = true := by
    simp only [decide_eq_true_iff]
    exact fun _ _ _ => String.le_trans
  have htotal : ∀ c d : Stored.Channel, (decide (c.name ≤ d.name) || decide (d.name ≤ c.name)) = true := by
    simp only [Bool.or_eq_true, decide_eq_true_iff]
    exact fun _ _ => String.le_total _ _
  simp only [searchChannels, ← Merging.mergeSort_filter htrans htotal, Bool.and_assoc] at *
  refine (page_eq_or htrans htotal (fun c => fits_eq_allowing db (d := .channels) n q c) (fun c hc row hrow => ?_) h
    hn).imp_left (And.imp_right fun hrefused => isModest_eq_false hrefused fun hmodest => ?_)
  · obtain ⟨t, -, hrow⟩ := Outcome.bind_eq_ok.1 hrow
    obtain rfl := Except.ok.inj hrow
    exact hkeeps c hc _ rfl
  · obtain ⟨hfits, hlong⟩ := fits_of_modest hmodest
    exact ⟨hfits, by rw [hlong, Bool.false_and]⟩

private theorem searchUsers_eq_or {q : UserLookup} {n : Nat} {all : List UserRow} {keeps : UserRow → Bool}
    (hkeeps : ∀ u ∈ db.users.toList, ∀ row : UserRow, row.fullName = Text.trim u.rawName →
      keeps row = q.text.sparesText u.rawName)
    (h : db.searchUsers (Domain.allowing n .users q) = .ok all) (hn : all.length < n) :
    (db.searchUsers q = .error .tooComplex ∧ Domain.isModest .users q = false) ∨
      db.searchUsers q = .ok (cutPage q.limit q.offset (all.filter keeps)) := by
  simp only [searchUsers] at *
  refine (page_eq_or byName_trans byName_total
    (fun u => fits_eq_allowing db (d := .users) n q u) (fun u hu row hrow => ?_) h hn).imp_left
    (And.imp_right fun hrefused => isModest_eq_false hrefused fun hmodest => ?_)
  · obtain ⟨t, -, hrow⟩ := Outcome.bind_eq_ok.1 hrow
    obtain ⟨isAdmin, -, hrow⟩ := Outcome.bind_eq_ok.1 hrow
    obtain rfl := Except.ok.inj hrow
    exact hkeeps u hu _ rfl
  · obtain ⟨hfits, hlong⟩ := fits_of_modest hmodest
    exact ⟨hfits, any_eq_false fun u => by rw [userOverruns, TextMatch.overruns, hlong, Bool.false_and]⟩

/-- A lookup that excludes texts answers a page of what it would answer without them, less the rows that hold one of
them; it fails only if its statement or one of its patterns is too long. -/
theorem look_eq_or {q : d.Lookup} {n : Nat} {all : List d.Row} {keeps : d.Row → Bool}
    (hkeeps : ∀ x ∈ db.held d, ∀ row, d.primary row = d.shown x → keeps row = (d.text q).sparesText (d.matched x))
    (h : db.look d (d.allowing n q) = .ok all) (hn : all.length < n) :
    (db.look d q = .error .tooComplex ∧ d.isModest q = false) ∨ db.look d q = .ok (d.cut q (all.filter keeps)) := by
  cases d with
  | messages => exact searchMessages_eq_or hkeeps h hn
  | directMessages => exact searchDirectMessages_eq_or hkeeps h hn
  | files => exact searchFiles_eq_or hkeeps h hn
  | channels => exact searchChannels_eq_or hkeeps h hn
  | users => exact searchUsers_eq_or hkeeps h hn

/-- A row that is found shows the text of a row that is looked up. -/
theorem exists_held_of_mem_look {q : d.Lookup} {rows : List d.Row} (h : db.look d q = .ok rows) {row : d.Row}
    (hrow : row ∈ rows) : ∃ x ∈ db.held d, db.fits d q x = true ∧ d.primary row = d.shown x := by
  cases d with
  | messages =>
    obtain ⟨m, hm, hfits, c, u, hread⟩ := exists_of_mem_searchMessages h hrow
    obtain ⟨t, -, rfl⟩ := messageRow_eq_ok hread
    exact ⟨m, hm, hfits, rfl⟩
  | directMessages =>
    replace h : db.searchDirectMessages q = .ok rows := h
    rw [searchDirectMessages] at h
    obtain ⟨x, hx, hread⟩ := (Outcome.mem_of_mapM (mem_of_guardLookup h hrow)).1 hrow
    obtain ⟨hplaced, hfits⟩ := List.mem_filter.1 (List.mem_mergeSort.1 (mem_of_mem_cutPage hx))
    obtain ⟨t, -, hread⟩ := Outcome.bind_eq_ok.1 hread
    obtain rfl := Except.ok.inj hread
    exact ⟨x.1.1, (mem_join.1 (mem_join.1 hplaced).1).1, hfits, rfl⟩
  | files =>
    obtain ⟨p, hplaced, hfits, hread⟩ := exists_place_of_mem_searchFiles h hrow
    obtain ⟨t, size, -, rfl⟩ := fileRow_eq_ok hread
    exact ⟨p.file, (mem_filesInPlace.1 hplaced).1, hfits, rfl⟩
  | channels =>
    replace h : db.searchChannels q = .ok rows := h
    rw [searchChannels] at h
    obtain ⟨c, hc, hread⟩ := (Outcome.mem_of_mapM (mem_of_guardLookup h hrow)).1 hrow
    obtain ⟨hsorted, hfits⟩ := List.mem_filter.1 (mem_of_mem_cutPage hc)
    obtain ⟨t, -, hread⟩ := Outcome.bind_eq_ok.1 hread
    obtain rfl := Except.ok.inj hread
    exact ⟨c, List.mem_mergeSort.1 hsorted, hfits, rfl⟩
  | users =>
    replace h : db.searchUsers q = .ok rows := h
    rw [searchUsers] at h
    obtain ⟨u, hu, hread⟩ := (Outcome.mem_of_mapM (mem_of_guardLookup h hrow)).1 hrow
    obtain ⟨hheld, hfits⟩ := List.mem_filter.1 (List.mem_mergeSort.1 (mem_of_mem_cutPage hu))
    obtain ⟨t, -, hread⟩ := Outcome.bind_eq_ok.1 hread
    obtain ⟨isAdmin, -, hread⟩ := Outcome.bind_eq_ok.1 hread
    obtain rfl := Except.ok.inj hread
    exact ⟨u, hheld, hfits, rfl⟩

end Database

end WorkspaceSearch
