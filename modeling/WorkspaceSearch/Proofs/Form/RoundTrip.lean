import WorkspaceSearch.Proofs.Form.Lossless

/-!
# Documents that are read back

The documents of filters, search options, requests to save, updates, saved searches, history entries, queries and
results are read back as what was written, and what is read of any document is read again of the document that it is
written as (`Form.documents_roundTrip`).

A result is written as one object with the fields that all results share and those of its details side by side; it is
read back because no name is used twice (`Form.outside_of_mem_details`).
-/

namespace WorkspaceSearch.Form

variable {α : Type}

/-! ### Records without whole numbers -/

private theorem lossless_filters : filters.Lossless := by
  refine ⟨read_write_filters, fun f => .object ?_, fun _ => Json.noConfusion⟩
  simp only [List.forall_mem_cons, lossless_text.isWhole_option, lossless_instant.isWhole_option,
    lossless_bool.isWhole_option, List.not_mem_nil, false_implies, implies_true, and_self]

/-- The members of the document of a request to save. -/
private def requestMembers (q : SaveRequest) : List (String × Json) := [
  ("user_id", text.write q.userId),
  ("name", text.write q.name),
  ("query", text.write q.query),
  ("filters", filters.write q.filters),
  ("scope", scope.write q.scope)]

private theorem lossless_saveRequest : saveRequest.Lossless := by
  refine ⟨fun q => ?_, fun q => .object ?_, fun _ => Json.noConfusion⟩
  · have hrecord := Record.ofJson?_given ["user_id", "name", "query", "filters", "scope"] (requestMembers q) rfl
      (by decide)
    refine reads_then hrecord ?_
    refine reads_then (lossless_text.read_write q.userId) ?_
    refine reads_then (lossless_text.read_write q.name) ?_
    refine reads_then (lossless_text.read_write q.query) ?_
    refine reads_then (lossless_filters.read_write q.filters) ?_
    refine reads_then (lossless_scope.read_write q.scope) ?_
    rfl
  · simp only [List.forall_mem_cons, lossless_text.isWhole, lossless_filters.isWhole, lossless_scope.isWhole,
      List.not_mem_nil, false_implies, implies_true, and_self]

/-- The members of the document of changes. -/
private def updateMembers (u : SavedUpdate) : List (String × Json) := [
  ("name", text.option.write u.name),
  ("query", text.option.write u.query),
  ("filters", filters.option.write u.filters),
  ("scope", scope.option.write u.scope),
  ("is_pinned", bool.option.write u.isPinned)]

private theorem lossless_savedUpdate : savedUpdate.Lossless := by
  refine ⟨fun u => ?_, fun u => .object ?_, fun _ => Json.noConfusion⟩
  · have hrecord := Record.ofJson?_given ["name", "query", "filters", "scope", "is_pinned"] (updateMembers u) rfl
      (by decide)
    refine reads_then hrecord ?_
    refine reads_then (lossless_text.read_option u.name) ?_
    refine reads_then (lossless_text.read_option u.query) ?_
    refine reads_then (lossless_filters.read_option u.filters) ?_
    refine reads_then (lossless_scope.read_option u.scope) ?_
    refine reads_then (lossless_bool.read_option u.isPinned) ?_
    rfl
  · simp only [List.forall_mem_cons, lossless_text.isWhole_option, lossless_filters.isWhole_option,
      lossless_scope.isWhole_option, lossless_bool.isWhole_option, List.not_mem_nil, false_implies, implies_true,
      and_self]

/-- The members of the document of a history entry. -/
private def historyMembers (e : HistoryEntry) : List (String × Json) := [
  ("id", uuid.write e.id),
  ("user_id", text.write e.userId),
  ("query", text.write e.query),
  ("filters", filters.write e.filters),
  ("scope", scope.write e.scope),
  ("created_at", instant.write e.createdAt)]

private theorem lossless_historyEntry : historyEntry.Lossless := by
  refine ⟨fun e => ?_, fun e => .object ?_, fun _ => Json.noConfusion⟩
  · have hrecord := Record.ofJson?_given historyFields (historyMembers e) rfl (by decide)
    refine reads_then hrecord ?_
    refine reads_then (lossless_uuid.read_write e.id) ?_
    refine reads_then (lossless_text.read_write e.userId) ?_
    refine reads_then (lossless_text.read_write e.query) ?_
    refine reads_then (lossless_filters.read_write e.filters) ?_
    refine reads_then (lossless_scope.read_write e.scope) ?_
    refine reads_then (lossless_instant.read_write e.createdAt) ?_
    rfl
  · simp only [List.forall_mem_cons, lossless_uuid.isWhole, lossless_text.isWhole, lossless_filters.isWhole,
      lossless_scope.isWhole, lossless_instant.isWhole, List.not_mem_nil, false_implies, implies_true, and_self]

/-- The members of the document of operators. -/
private def operatorMembers (o : Operators) : List (String × Json) := [
  ("from", text.list.write o.senders),
  ("in_channels", text.list.write o.channels),
  ("has", hasTag.list.write o.has),
  ("before", instant.option.write o.before),
  ("after", instant.option.write o.after),
  ("exact", bool.write o.exact),
  ("exclude", text.list.write o.exclude),
  ("match_any", bool.write o.matchAny)]

private theorem lossless_operators : operators.Lossless := by
  refine ⟨fun o => ?_, fun o => .object ?_, fun _ => Json.noConfusion⟩
  · have hrecord := Record.ofJson?_given operatorFields (operatorMembers o) rfl (by decide)
    refine reads_then hrecord ?_
    refine reads_then (lossless_text.list.read_write o.senders) ?_
    refine reads_then (lossless_text.list.read_write o.channels) ?_
    refine reads_then (lossless_hasTag.list.read_write o.has) ?_
    refine reads_then (lossless_instant.read_option o.before) ?_
    refine reads_then (lossless_instant.read_option o.after) ?_
    refine reads_then (lossless_bool.read_write o.exact) ?_
    refine reads_then (lossless_text.list.read_write o.exclude) ?_
    refine reads_then (lossless_bool.read_write o.matchAny) ?_
    rfl
  · simp only [List.forall_mem_cons, lossless_text.list.isWhole, lossless_hasTag.list.isWhole,
      lossless_instant.isWhole_option, lossless_bool.isWhole, List.not_mem_nil, false_implies, implies_true, and_self]

private theorem lossless_parsedQuery : parsedQuery.Lossless := by
  refine ⟨fun q => ?_, fun q => .object ?_, fun _ => Json.noConfusion⟩
  · have hrecord := Record.ofJson?_given ["base_query", "operators"]
      [("base_query", text.write q.base), ("operators", operators.write q.operators)] rfl (by decide)
    refine reads_then hrecord ?_
    refine reads_then (lossless_text.read_write q.base) ?_
    refine reads_then (lossless_operators.read_write q.operators) ?_
    rfl
  · simp only [List.forall_mem_cons, lossless_text.isWhole, lossless_operators.isWhole, List.not_mem_nil, false_implies,
      implies_true, and_self]

private theorem lossless_reference : reference.Lossless := by
  refine ⟨fun r => ?_, fun r => .object ?_, fun _ => Json.noConfusion⟩
  · have hrecord := Record.ofJson?_given ["id", "name"] [("id", text.write r.id), ("name", text.write r.name)] rfl
      (by decide)
    refine reads_then hrecord ?_
    refine reads_then (lossless_text.read_write r.id) ?_
    refine reads_then (lossless_text.read_write r.name) ?_
    rfl
  · simp only [List.forall_mem_cons, lossless_text.isWhole, List.not_mem_nil, false_implies, implies_true, and_self]

/-! ### Records with whole numbers -/

/-- The members of the document of search options. -/
private def optionMembers (o : SearchOptions) : List (String × Json) := [
  ("query", text.write o.query),
  ("filters", filters.write o.filters),
  ("scope", scope.write o.scope),
  ("limit", integer64.write o.limit),
  ("offset", integer64.write o.offset),
  ("sort_by", sortBy.write o.sortBy),
  ("sort_order", sortOrder.write o.sortOrder),
  ("user_id", text.write o.userId),
  ("user_channel_ids", text.list.option.write o.userChannelIds)]

section

variable {o : SearchOptions} (hlimit : Fits o.limit) (hoffset : Fits o.offset)

include hlimit hoffset

private theorem read_write_searchOptions : searchOptions.read (searchOptions.write o) = some o := by
  have hrecord := Record.ofJson?_given optionFields (optionMembers o) rfl (by decide)
  refine reads_then hrecord ?_
  refine reads_then (lossless_text.read_write o.query) ?_
  refine reads_then (lossless_filters.read_write o.filters) ?_
  refine reads_then (lossless_scope.read_write o.scope) ?_
  refine reads_then (read_write_integer64 hlimit) ?_
  refine reads_then (read_write_integer64 hoffset) ?_
  refine reads_then (lossless_sortBy.read_write o.sortBy) ?_
  refine reads_then (lossless_sortOrder.read_write o.sortOrder) ?_
  refine reads_then (lossless_text.read_write o.userId) ?_
  refine reads_then (lossless_text.list.read_option o.userChannelIds) ?_
  rfl

private theorem isWhole_searchOptions : (searchOptions.write o).IsWhole := by
  refine .object ?_
  simp only [List.forall_mem_cons, lossless_text.isWhole, lossless_filters.isWhole, lossless_scope.isWhole,
    isWhole_integer64 hlimit, isWhole_integer64 hoffset, lossless_sortBy.isWhole, lossless_sortOrder.isWhole,
    lossless_text.list.isWhole_option, List.not_mem_nil, false_implies, implies_true, and_self]

end

private theorem fits_of_read_searchOptions {j : Json} {o : SearchOptions} (h : searchOptions.read j = some o) :
    Fits o.limit ∧ Fits o.offset := by
  obtain ⟨r, -, h⟩ := Option.bind_eq_some_iff.1 h
  -- query, filters and scope are read before the two numbers, and four fields after them
  iterate 3 obtain ⟨_, -, h⟩ := Option.bind_eq_some_iff.1 h
  obtain ⟨limit, hlimit, h⟩ := Option.bind_eq_some_iff.1 h
  obtain ⟨offset, hoffset, h⟩ := Option.bind_eq_some_iff.1 h
  iterate 4 obtain ⟨_, -, h⟩ := Option.bind_eq_some_iff.1 h
  obtain rfl := Option.some.inj h
  exact ⟨fits_of_required hlimit, fits_of_required hoffset⟩

/-- The members of the document of a saved search. -/
private def savedMembers (s : SavedSearch) : List (String × Json) := [
  ("id", uuid.write s.id),
  ("user_id", text.write s.userId),
  ("name", text.write s.name),
  ("query", text.write s.query),
  ("filters", filters.write s.filters),
  ("scope", scope.write s.scope),
  ("is_pinned", bool.write s.isPinned),
  ("usage_count", integer64.write s.usageCount),
  ("last_used_at", instant.option.write s.lastUsedAt),
  ("created_at", instant.write s.createdAt),
  ("updated_at", instant.write s.updatedAt)]

section

variable {s : SavedSearch} (hcount : Fits s.usageCount)

include hcount

private theorem read_write_savedSearch : savedSearch.read (savedSearch.write s) = some s := by
  have hrecord := Record.ofJson?_given savedFields (savedMembers s) rfl (by decide)
  refine reads_then hrecord ?_
  refine reads_then (lossless_uuid.read_write s.id) ?_
  refine reads_then (lossless_text.read_write s.userId) ?_
  refine reads_then (lossless_text.read_write s.name) ?_
  refine reads_then (lossless_text.read_write s.query) ?_
  refine reads_then (lossless_filters.read_write s.filters) ?_
  refine reads_then (lossless_scope.read_write s.scope) ?_
  refine reads_then (lossless_bool.read_write s.isPinned) ?_
  refine reads_then (read_write_integer64 hcount) ?_
  refine reads_then (lossless_instant.read_option s.lastUsedAt) ?_
  refine reads_then (lossless_instant.read_write s.createdAt) ?_
  refine reads_then (lossless_instant.read_write s.updatedAt) ?_
  rfl

private theorem isWhole_savedSearch : (savedSearch.write s).IsWhole := by
  refine .object ?_
  simp only [List.forall_mem_cons, lossless_uuid.isWhole, lossless_text.isWhole, lossless_filters.isWhole,
    lossless_scope.isWhole, lossless_bool.isWhole, isWhole_integer64 hcount, lossless_instant.isWhole,
    lossless_instant.isWhole_option, List.not_mem_nil, false_implies, implies_true, and_self]

end

private theorem fits_of_read_savedSearch {j : Json} {s : SavedSearch} (h : savedSearch.read j = some s) :
    Fits s.usageCount := by
  obtain ⟨r, -, h⟩ := Option.bind_eq_some_iff.1 h
  -- seven fields are read before the number, and three after it
  iterate 7 obtain ⟨_, -, h⟩ := Option.bind_eq_some_iff.1 h
  obtain ⟨usageCount, hcount, h⟩ := Option.bind_eq_some_iff.1 h
  iterate 3 obtain ⟨_, -, h⟩ := Option.bind_eq_some_iff.1 h
  obtain rfl := Option.some.inj h
  exact fits_of_required hcount

/-! ### Results -/

/-- The whole number of details, if they have one, fits. -/
def DetailsFit : Details → Prop
  | .message _ _ reactionCount => Fits reactionCount
  | .file _ fileSize _ _ => Fits fileSize
  | .channel _ memberCount => Fits memberCount
  | .directMessage .. => True
  | .user .. => True

/-- The fields of the details of a domain. -/
private def detailsFields : Domain → List String
  | .messages => ["message_type", "attachment_id", "reaction_count"]
  | .directMessages => ["receiver", "attachment_id"]
  | .files => ["file_type", "file_size", "url", "message_id"]
  | .channels => ["tier", "member_count"]
  | .users => ["username", "email", "is_admin", "avatar_url"]

private theorem names_detailsMembers (d : Details) : (detailsMembers d).map (·.1) = detailsFields d.domain := by
  cases d <;> rfl

private theorem nodup_detailsFields (domain : Domain) : (detailsFields domain).Nodup := by cases domain <;> decide

/-- No member of details is named as their tag or as a field that all results share. -/
theorem outside_of_mem_details {d : Details} {m : String × Json} (hm : m ∈ detailsMembers d) :
    m.1 ≠ "type" ∧ m.1 ∉ resultFields := by
  have hall : ∀ domain, ∀ name ∈ detailsFields domain, name ≠ "type" ∧ name ∉ resultFields := by
    intro domain
    cases domain <;> decide
  exact hall d.domain m.1 (names_detailsMembers d ▸ List.mem_map.2 ⟨m, hm, rfl⟩)

private theorem readTag_detailsTag (domain : Domain) : readTag (.string (detailsTag domain)) = some domain := by
  cases domain <;> rfl

/-- Details are read back from the members behind their tag. -/
private theorem readDetails_detailsMembers {d : Details} (h : DetailsFit d) :
    readDetails d.domain (.object (detailsMembers d)) = some d := by
  have hrecord := Record.ofJson?_given (detailsFields d.domain) (detailsMembers d) (names_detailsMembers d)
    (nodup_detailsFields d.domain)
  cases d with
  | message messageType attachmentId reactionCount =>
    refine reads_then hrecord ?_
    refine reads_then (lossless_text.read_write messageType) ?_
    refine reads_then (lossless_text.read_option attachmentId) ?_
    refine reads_then (read_write_integer64 h) ?_
    rfl
  | directMessage receiver attachmentId =>
    refine reads_then hrecord ?_
    refine reads_then (lossless_reference.read_write receiver) ?_
    refine reads_then (lossless_text.read_option attachmentId) ?_
    rfl
  | file fileType fileSize url messageId =>
    refine reads_then hrecord ?_
    refine reads_then (lossless_text.read_write fileType) ?_
    refine reads_then (read_write_integer64 h) ?_
    refine reads_then (lossless_text.read_option url) ?_
    refine reads_then (lossless_text.read_option messageId) ?_
    rfl
  | channel tier memberCount =>
    refine reads_then hrecord ?_
    refine reads_then (lossless_text.read_write tier) ?_
    refine reads_then (read_write_integer64 h) ?_
    rfl
  | user username email isAdmin avatarUrl =>
    refine reads_then hrecord ?_
    refine reads_then (lossless_text.read_write username) ?_
    refine reads_then (lossless_text.read_write email) ?_
    refine reads_then (lossless_bool.read_write isAdmin) ?_
    refine reads_then (lossless_text.read_option avatarUrl) ?_
    rfl

/-- The tag of details and the members behind it. -/
private def taggedMembers (d : Details) : List (String × Json) :=
  ("type", .string (detailsTag d.domain)) :: detailsMembers d

/-- Details are read back. -/
private theorem read_taggedMembers {d : Details} (h : DetailsFit d) :
    details.read (.object (taggedMembers d)) = some d := by
  have htag : Json.named (taggedMembers d) "type" = [.string (detailsTag d.domain)] := by
    have hnone : Json.named (detailsMembers d) "type" = [] := by
      refine named_eq_nil fun hmem => ?_
      obtain ⟨m, hm, hname⟩ := List.mem_map.1 hmem
      exact (outside_of_mem_details hm).1 hname
    exact congrArg (Json.string (detailsTag d.domain) :: ·) hnone
  have hbehind : (taggedMembers d).filter (fun m => m.1 ≠ "type") = detailsMembers d := by
    have hkept : (detailsMembers d).filter (fun m => m.1 ≠ "type") = detailsMembers d :=
      List.filter_eq_self.2 fun m hm => decide_eq_true (outside_of_mem_details hm).1
    exact hkept
  simp only [details, htag, hbehind, readTag_detailsTag, readDetails_detailsMembers h, Option.bind_eq_bind,
    Option.bind_some]

/-- The members of the fields that all results share. -/
private def sharedMembers (r : SearchResult) : List (String × Json) := [
  ("id", text.write r.id),
  ("content", text.write r.content),
  ("title", text.option.write r.title),
  ("context", text.option.write r.context),
  ("author", reference.option.write r.author),
  ("channel", reference.option.write r.channel),
  ("timestamp", instant.write r.timestamp),
  ("highlights", text.list.write r.highlights),
  ("score", number.write r.score),
  ("metadata", members.write r.metadata)]

/-- The shared fields are read beside the details. -/
private theorem ofObject?_beside (r : SearchResult) :
    Record.ofObject? resultFields (.object (sharedMembers r ++ taggedMembers r.details)) =
      some (Record.given (sharedMembers r)) := by
  have hnames : (sharedMembers r).map (·.1) = resultFields := rfl
  have hone : ∀ m ∈ sharedMembers r, Json.named (sharedMembers r ++ taggedMembers r.details) m.1 = [m.2] := by
    intro m hm
    have hfield : m.1 ∈ resultFields := hnames ▸ List.mem_map.2 ⟨m, hm, rfl⟩
    have hfront : Json.named (sharedMembers r) m.1 = [m.2] := named_of_mem (hnames ▸ by decide) hm
    have hbehind : Json.named (taggedMembers r.details) m.1 = [] := by
      refine named_eq_nil fun hmem => ?_
      obtain ⟨n, hn, hname⟩ := List.mem_map.1 hmem
      rcases List.mem_cons.1 hn with rfl | hn
      · have htype : "type" = m.1 := hname
        exact (by decide : "type" ∉ resultFields) (htype ▸ hfield)
      · exact (outside_of_mem_details hn).2 (hname ▸ hfield)
    calc Json.named (sharedMembers r ++ taggedMembers r.details) m.1
        = Json.named (sharedMembers r) m.1 ++ Json.named (taggedMembers r.details) m.1 := List.filterMap_append
      _ = [m.2] := by rw [hfront, hbehind, List.append_nil]
  rw [Record.ofObject?, ← hnames, mapM_ofMembers? hone]
  rfl

/-- The details are what is left beside the shared fields. -/
private theorem membersOutside_beside (r : SearchResult) :
    (Json.object (sharedMembers r ++ taggedMembers r.details)).membersOutside resultFields =
      taggedMembers r.details := by
  have hshared : (sharedMembers r).filter (fun m => !resultFields.contains m.1) = [] := rfl
  have hdetails : (taggedMembers r.details).filter (fun m => !resultFields.contains m.1) = taggedMembers r.details := by
    refine List.filter_eq_self.2 fun m hm => ?_
    rw [Bool.not_eq_true', ← Bool.not_eq_true, List.contains_iff_mem]
    rcases List.mem_cons.1 hm with rfl | hm
    · exact (by decide : "type" ∉ resultFields)
    · exact (outside_of_mem_details hm).2
  rw [Json.membersOutside, List.filter_append, hshared, hdetails, List.nil_append]

/-- A result is read back. -/
private theorem read_write_searchResult {r : SearchResult} (h : DetailsFit r.details) :
    searchResult.read (searchResult.write r) = some r := by
  have hdetails : details.read (.object ((Json.object (sharedMembers r ++ taggedMembers r.details)).membersOutside
      resultFields)) = some r.details := by
    rw [membersOutside_beside, read_taggedMembers h]
  refine reads_then (ofObject?_beside r) ?_
  refine reads_then (lossless_text.read_write r.id) ?_
  refine reads_then (lossless_text.read_write r.content) ?_
  refine reads_then (lossless_text.read_option r.title) ?_
  refine reads_then (lossless_text.read_option r.context) ?_
  refine reads_then (lossless_reference.read_option r.author) ?_
  refine reads_then (lossless_reference.read_option r.channel) ?_
  refine reads_then (lossless_instant.read_write r.timestamp) ?_
  refine reads_then (lossless_text.list.read_write r.highlights) ?_
  refine reads_then (rfl : number.read (number.write r.score) = some r.score) ?_
  refine reads_then (rfl : members.read (members.write r.metadata) = some r.metadata) ?_
  refine reads_then hdetails ?_
  rfl

private theorem fit_of_readDetails {domain : Domain} {j : Json} {d : Details} (h : readDetails domain j = some d) :
    DetailsFit d := by
  cases domain <;> obtain ⟨r, -, h⟩ := Option.bind_eq_some_iff.1 h
  case messages =>
    iterate 2 obtain ⟨_, -, h⟩ := Option.bind_eq_some_iff.1 h
    obtain ⟨reactionCount, hcount, h⟩ := Option.bind_eq_some_iff.1 h
    obtain rfl := Option.some.inj h
    exact fits_of_required hcount
  case directMessages =>
    iterate 2 obtain ⟨_, -, h⟩ := Option.bind_eq_some_iff.1 h
    obtain rfl := Option.some.inj h
    exact trivial
  case files =>
    obtain ⟨fileType, -, h⟩ := Option.bind_eq_some_iff.1 h
    obtain ⟨fileSize, hsize, h⟩ := Option.bind_eq_some_iff.1 h
    iterate 2 obtain ⟨_, -, h⟩ := Option.bind_eq_some_iff.1 h
    obtain rfl := Option.some.inj h
    exact fits_of_required hsize
  case channels =>
    obtain ⟨tier, -, h⟩ := Option.bind_eq_some_iff.1 h
    obtain ⟨memberCount, hcount, h⟩ := Option.bind_eq_some_iff.1 h
    obtain rfl := Option.some.inj h
    exact fits_of_required hcount
  case users =>
    iterate 4 obtain ⟨_, -, h⟩ := Option.bind_eq_some_iff.1 h
    obtain rfl := Option.some.inj h
    exact trivial

private theorem fit_of_read_details {j : Json} {d : Details} (h : details.read j = some d) : DetailsFit d := by
  simp only [details] at h
  split at h
  · split at h
    · obtain ⟨domain, -, h⟩ := Option.bind_eq_some_iff.1 h
      exact fit_of_readDetails h
    · cases h
  · obtain ⟨domain, -, h⟩ := Option.bind_eq_some_iff.1 h
    exact fit_of_readDetails h
  · cases h

private theorem fit_of_read_searchResult {j : Json} {r : SearchResult} (h : searchResult.read j = some r) :
    DetailsFit r.details := by
  -- the ten shared fields are read first
  obtain ⟨_, -, h⟩ := Option.bind_eq_some_iff.1 h
  iterate 10 obtain ⟨_, -, h⟩ := Option.bind_eq_some_iff.1 h
  obtain ⟨d, hd, h⟩ := Option.bind_eq_some_iff.1 h
  obtain rfl := Option.some.inj h
  exact fit_of_read_details hd

/-! ### All documents -/

/-- The values that a form is meant for are read back from their documents, and so is everything that is read of any
document at all. -/
structure RoundTrips (f : Form α) (p : α → Prop) : Prop where
  read_write : ∀ a, p a → f.read (f.write a) = some a
  read_again : ∀ j a, f.read j = some a → f.read (f.write a) = some a

/-- The same, and the documents are read back from their texts. -/
structure RoundTripsAsText (f : Form α) (p : α → Prop) : Prop extends f.RoundTrips p where
  parse_render : ∀ a, p a → (Json.parse? (Json.render (f.write a))).bind f.read = some a

private theorem roundTripsAsText {f : Form α} {p : α → Prop} (hwrite : ∀ a, p a → f.read (f.write a) = some a)
    (hread : ∀ j a, f.read j = some a → p a) (hwhole : ∀ a, p a → (f.write a).IsWhole) : f.RoundTripsAsText p := by
  refine ⟨⟨hwrite, fun j a h => hwrite a (hread j a h)⟩, fun a ha => ?_⟩
  rw [Json.parse?_render (hwhole a ha), Option.bind_some, hwrite a ha]

private theorem Lossless.roundTripsAsText {f : Form α} (h : f.Lossless) : f.RoundTripsAsText fun _ => True :=
  Form.roundTripsAsText (fun a _ => h.read_write a) (fun _ _ _ => trivial) fun a _ => h.isWhole a

/-- The documents of all eight kinds are read back, and what is read of any document is read again of what it is written
as; whole numbers are those of 64 bits with a sign.  All but results, whose scores are decimals, are read back from
their texts as well. -/
theorem documents_roundTrip :
    filters.RoundTripsAsText (fun _ => True) ∧
    searchOptions.RoundTripsAsText (fun o => Fits o.limit ∧ Fits o.offset) ∧
    saveRequest.RoundTripsAsText (fun _ => True) ∧
    savedUpdate.RoundTripsAsText (fun _ => True) ∧
    savedSearch.RoundTripsAsText (fun s => Fits s.usageCount) ∧
    historyEntry.RoundTripsAsText (fun _ => True) ∧
    parsedQuery.RoundTripsAsText (fun _ => True) ∧
    searchResult.RoundTrips (fun r => DetailsFit r.details) :=
  ⟨lossless_filters.roundTripsAsText,
    roundTripsAsText (fun _ h => read_write_searchOptions h.1 h.2) (fun _ _ h => fits_of_read_searchOptions h)
      fun _ h => isWhole_searchOptions h.1 h.2,
    lossless_saveRequest.roundTripsAsText,
    lossless_savedUpdate.roundTripsAsText,
    roundTripsAsText (fun _ h => read_write_savedSearch h) (fun _ _ h => fits_of_read_savedSearch h)
      fun _ h => isWhole_savedSearch h,
    lossless_historyEntry.roundTripsAsText,
    lossless_parsedQuery.roundTripsAsText,
    fun _ h => read_write_searchResult h,
    fun _ _ h => read_write_searchResult (fit_of_read_searchResult h)⟩

end WorkspaceSearch.Form
