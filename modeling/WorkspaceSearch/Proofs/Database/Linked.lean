import WorkspaceSearch.Proofs.Database.Excluded

/-!
# Files and their messages

A file belongs to a channel through the message that it names.  Keys are unique and every message is in a channel, so a
file whose message is there stands in its place with that message and its channel (`Database.channel_of_filesInPlace`).
A lookup that has room for all files answers for exactly those that it lets through (`Database.exists_searchFiles`).
-/

namespace WorkspaceSearch.Database

variable {db : Database}

/-! ### Messages with an attachment -/

theorem mem_attachmentMessageIds {channelIds ids : List String} (h : db.attachmentMessageIds channelIds = .ok ids)
    {id : String} : id ∈ ids ↔
      ∃ m ∈ db.messages.toList, m.attachmentId ≠ none ∧ m.channelId ∈ channelIds ∧ m.id = id := by
  rw [attachmentMessageIds, guardLookup, if_neg Bool.false_ne_true] at h
  split at h
  · cases h
  · obtain rfl := Except.ok.inj h
    simp only [List.mem_map, List.mem_filter, Bool.and_eq_true, Option.isSome_iff_ne_none, List.contains_iff_mem,
      and_assoc]

theorem attachmentMessageIds_nil (db : Database) : db.attachmentMessageIds [] = .ok [] := by
  have hnone : (db.messages.toList.filter fun m => m.attachmentId.isSome && [].contains m.channelId) = [] :=
    List.filter_eq_nil_iff.2 fun m _ => by simp
  rw [attachmentMessageIds, hnone]
  rfl

/-- Too many channels are refused, and nothing else. -/
theorem attachmentMessageIds_eq_error {channelIds : List String} {e : DatabaseFault}
    (h : db.attachmentMessageIds channelIds = .error e) :
    e = .tooComplex ∧ StatementShape.valueLimit < channelIds.length := by
  rw [attachmentMessageIds, guardLookup, if_neg Bool.false_ne_true] at h
  split at h
  · next hrefused =>
    refine ⟨(Except.error.inj h).symm, ?_⟩
    simpa [fitsValues] using hrefused
  · cases h

/-! ### Rows of files -/

variable {p : FilePlace} {q : FileLookup} {f : Stored.File}

theorem exists_fileRow {t : Instant} (ht : p.file.createdAt.instant? = some t)
    (hsize : p.file.fileSize.integer? ≠ none) : ∃ row, fileRow p = .ok row := by
  obtain ⟨size, hsize⟩ := Option.ne_none_iff_exists'.1 hsize
  rw [fileRow, readTime, ht, hsize]
  exact ⟨_, rfl⟩

theorem fileFits_iff :
    fileFits q f = true ↔
      (∀ ids ∈ q.messageIds, ∃ id ∈ f.messageId, id ∈ ids) ∧
      (q.text.findsIn [f.fileName, f.fileType] = true ∧ q.text.sparesText f.fileName = true) ∧
      (q.uploaderIds = [] ∨ ∃ id ∈ f.uploaderId, id ∈ q.uploaderIds) ∧
      (∀ name ∈ q.filters.fileType, Like.isMatch (Like.containing name) f.fileType = true) ∧
      (∀ id ∈ q.filters.userId, f.uploaderId = some id) ∧ isWithin q.after q.before f.createdAt = true := by
  have hall : ∀ {α : Type} {o : Option α} {p : α → Bool}, o.all p = true ↔ ∀ a ∈ o, p a = true := by
    intro α o p
    cases o <;> simp
  have hany : ∀ {o : Option String} {ids : List String}, o.any ids.contains = true ↔ ∃ id ∈ o, id ∈ ids := by
    intro o ids
    cases o <;> simp
  simp only [fileFits, isAttached, isUploaded, TextMatch.holds, Bool.and_eq_true, Bool.or_eq_true, List.isEmpty_iff,
    hall, hany, decide_eq_true_eq, and_assoc]

/-! ### Files in their places -/

section

variable (hkeyed : db.Keyed)

include hkeyed

theorem mem_files_iff : f ∈ db.files.toList ↔ ∃ p ∈ db.filesInPlace, p.file = f := by
  rw [← map_file_filesInPlace hkeyed, List.mem_map]

/-- A file whose message is there stands in its place with that message and its channel. -/
theorem channel_of_filesInPlace (hanchored : db.Anchored) (hp : p ∈ db.filesInPlace) {m : Stored.Message}
    (hm : m ∈ db.messages.toList) (hlink : p.file.messageId = some m.id) :
    p.message = some m ∧ ∃ c ∈ db.channels.toList, c.id = m.channelId ∧ p.channel = some c := by
  obtain ⟨-, -, hmessage, hchannel⟩ := mem_filesInPlace.1 hp
  have hplaced : p.message = some m := by
    cases hn : p.message with
    | none =>
      rw [hn] at hmessage
      exact absurd hlink (of_decide_eq_false (hmessage m hm))
    | some n =>
      rw [hn] at hmessage
      have hid : m.id = n.id := Option.some.inj (hlink.symm.trans (of_decide_eq_true hmessage.2))
      rw [List.inj_on_of_nodup_map hkeyed.messages hmessage.1 hm hid.symm]
  obtain ⟨c, hc, hmine⟩ := List.any_eq_true.1 (hanchored.channels m hm)
  refine ⟨hplaced, c, hc, of_decide_eq_true hmine, ?_⟩
  rw [hplaced] at hchannel
  cases hd : p.channel with
  | none =>
    rw [hd] at hchannel
    exact absurd (congrArg some (of_decide_eq_true hmine).symm) (of_decide_eq_false (hchannel c hc))
  | some d =>
    rw [hd] at hchannel
    have hid : m.channelId = d.id := Option.some.inj (of_decide_eq_true hchannel.2)
    rw [List.inj_on_of_nodup_map hkeyed.channels hchannel.1 hc (hid.symm.trans (of_decide_eq_true hmine).symm)]

/-- A lookup that has room for all files answers for the files that it lets through. -/
theorem exists_searchFiles (hmodest : Domain.isModest .files q = true) (hmessages : q.messageIds ≠ some [])
    (hoffset : q.offset = 0) (hlimit : db.files.toList.length ≤ q.limit)
    (hread : ∀ f ∈ db.files.toList, (∃ t, f.createdAt.instant? = some t) ∧ f.fileSize.integer? ≠ none) :
    ∃ rows, db.searchFiles q = .ok rows ∧
      ∀ row, row ∈ rows ↔ ∃ p ∈ db.filesInPlace, fileFits q p.file = true ∧ fileRow p = .ok row := by
  have hmem : ∀ p, p ∈ db.foundFiles q ↔ p ∈ db.filesInPlace ∧ fileFits q p.file = true := by
    intro p
    rw [foundFiles, List.mem_mergeSort, List.mem_filter]
  have hlength : (db.foundFiles q).length ≤ q.limit := by
    refine le_trans ?_ hlimit
    rw [foundFiles, List.length_mergeSort, ← map_file_filesInPlace hkeyed, List.length_map]
    exact List.length_filter_le _ _
  have hshape : q.shape.fits = true := (Bool.and_eq_true_iff.1 (Bool.and_eq_true_iff.1 hmodest).1).1
  have hnone : (0 < q.limit && db.files.any (fileOverruns q)) = false := by
    rw [any_eq_false (fileOverruns_eq_false hmodest), Bool.and_false]
  have hreadable : ∀ p ∈ db.foundFiles q, ∃ row, fileRow p = .ok row := by
    intro p hp
    obtain ⟨⟨t, ht⟩, hsize⟩ := hread p.file ((mem_files_iff hkeyed).2 ⟨p, ((hmem p).1 hp).1, rfl⟩)
    exact exists_fileRow ht hsize
  obtain ⟨rows, hrows, hiff⟩ := exists_guardLookup (decide_eq_false hmessages) hshape hnone hlength hreadable
  refine ⟨rows, by rw [searchFiles_eq, hoffset]; exact hrows, fun row => (hiff row).trans ?_⟩
  simp only [hmem, and_assoc]

end

end WorkspaceSearch.Database
