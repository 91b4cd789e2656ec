import WorkspaceSearch.Proofs.Database.Looking
import WorkspaceSearch.Proofs.Database.Unique

/-!
# Results of rows

A result keeps the identifier of its row, and tells the domain that it was found in.  As rows come once, no two results
of a domain have the same identifier (`foundOn_distinct`).
-/

namespace WorkspaceSearch

/-- Results of one domain, no two of them with the same identifier. -/
structure Distinct (d : Domain) (results : List SearchResult) : Prop where
  ids : (results.map (·.id)).Nodup
  domain : ∀ result ∈ results, result.domain = d

private theorem Distinct.nil (d : Domain) : Distinct d [] := ⟨List.nodup_nil, by simp⟩

namespace Request

variable {r : Request} {db : Database}

/-! ### Selected rows -/

/-- Annotating fills in score, highlights and context. -/
theorem exists_of_annotate {primary : String} {result annotated : SearchResult}
    (h : r.annotate primary result = some annotated) :
    ∃ score highlights context, annotated = { result with score, highlights, context } := by
  simp only [annotate, Option.bind_eq_bind, Option.bind_eq_some_iff, Option.pure_def, Option.some.injEq] at h
  obtain ⟨highlights, -, context, -, rfl⟩ := h
  exact ⟨_, highlights, context, rfl⟩

/-- Annotating leaves a result what it is. -/
theorem annotate_eq_some {primary : String} {result annotated : SearchResult}
    (h : r.annotate primary result = some annotated) :
    annotated.id = result.id ∧ annotated.details = result.details ∧ annotated.channel = result.channel := by
  obtain ⟨score, highlights, context, rfl⟩ := exists_of_annotate h
  exact ⟨rfl, rfl, rfl⟩

/-- Every result comes from a row. -/
theorem exists_row_of_mem_selected {Row : Type} {condition : Condition} {ofRow : Row → SearchResult}
    {primary : Row → String} {rows : List Row} {results : List SearchResult}
    (h : r.selected condition ofRow primary rows = .ok results) {result : SearchResult} (hresult : result ∈ results) :
    ∃ row ∈ rows, r.annotate (primary row) (ofRow row) = some result := by
  unfold selected at h
  split at h
  · next annotated hannotated =>
    obtain rfl := Except.ok.inj h
    exact (Outcome.mem_of_mapM_some hannotated).1 (List.mem_of_mem_filter hresult)
  · cases h

/-- The condition holds of every result. -/
theorem holds_of_mem_selected {Row : Type} {condition : Condition} {ofRow : Row → SearchResult}
    {primary : Row → String} {rows : List Row} {results : List SearchResult}
    (h : r.selected condition ofRow primary rows = .ok results) {result : SearchResult} (hresult : result ∈ results) :
    condition.holds result = true := by
  unfold selected at h
  split at h
  · obtain rfl := Except.ok.inj h
    exact List.of_mem_filter hresult
  · cases h

/-- The results of rows with different identifiers are distinct. -/
private theorem distinct_of_selected {Row : Type} {condition : Condition} {ofRow : Row → SearchResult}
    {primary : Row → String} {rows : List Row} {results : List SearchResult} {d : Domain}
    (h : r.selected condition ofRow primary rows = .ok results) (hids : (rows.map fun row => (ofRow row).id).Nodup)
    (hdomain : ∀ row, (ofRow row).domain = d) : Distinct d results := by
  constructor
  · unfold selected at h
    split at h
    · next annotated hannotated =>
      obtain rfl := Except.ok.inj h
      have hmap : annotated.map (·.id) = rows.map fun row => (ofRow row).id :=
        Outcome.map_eq_of_mapM_some (fun row result hresult => (annotate_eq_some hresult).1) hannotated
      exact (hmap ▸ hids).sublist (List.filter_sublist.map _)
    · cases h
  · intro result hresult
    obtain ⟨row, -, hannotate⟩ := exists_row_of_mem_selected h hresult
    rw [← hdomain row, SearchResult.domain, SearchResult.domain, (annotate_eq_some hannotate).2.1]

/-! ### Searchers -/

variable (hkeyed : db.Keyed) {results : List SearchResult}

include hkeyed

private theorem distinct_messagesOn (h : r.messagesOn db = .ok results) : Distinct .messages results := by
  obtain ⟨q, -, h⟩ := Outcome.bind_eq_ok.1 h
  obtain ⟨rows, hrows, h⟩ := Outcome.bind_eq_ok.1 h
  exact distinct_of_selected h (Database.nodup_searchMessages hkeyed (eq_ok_of_lookedUp hrows)) fun _ => rfl

private theorem distinct_directMessagesOn (h : r.directMessagesOn db = .ok results) :
    Distinct .directMessages results := by
  obtain ⟨senderIds, -, h⟩ := Outcome.bind_eq_ok.1 h
  obtain ⟨rows, hrows, h⟩ := Outcome.bind_eq_ok.1 h
  have hids := Database.nodup_searchDirectMessages hkeyed (eq_ok_of_lookedUp hrows)
  exact distinct_of_selected h (hids.sublist (List.filter_sublist.map _)) fun _ => rfl

private theorem distinct_filesOfOn {messageIds : Option (List String)} (h : r.filesOfOn db messageIds = .ok results) :
    Distinct .files results := by
  obtain ⟨uploaderIds, -, h⟩ := Outcome.bind_eq_ok.1 h
  obtain ⟨rows, hrows, h⟩ := Outcome.bind_eq_ok.1 h
  exact distinct_of_selected h (Database.nodup_searchFiles hkeyed (eq_ok_of_lookedUp hrows)) fun _ => rfl

private theorem distinct_filesOn (h : r.filesOn db = .ok results) : Distinct .files results := by
  obtain ⟨named, -, h⟩ := Outcome.bind_eq_ok.1 h
  unfold filesIn at h
  split at h
  · exact distinct_filesOfOn hkeyed h
  · obtain rfl := Except.ok.inj h
    exact Distinct.nil _
  · obtain ⟨messageIds, -, h⟩ := Outcome.bind_eq_ok.1 h
    split at h
    · obtain rfl := Except.ok.inj h
      exact Distinct.nil _
    · exact distinct_filesOfOn hkeyed h

private theorem distinct_channelsOn (h : r.channelsOn db = .ok results) : Distinct .channels results := by
  obtain ⟨rows, hrows, h⟩ := Outcome.bind_eq_ok.1 h
  exact distinct_of_selected h (Database.nodup_searchChannels hkeyed (eq_ok_of_lookedUp hrows)) fun _ => rfl

private theorem distinct_usersOn (h : r.usersOn db = .ok results) : Distinct .users results := by
  obtain ⟨rows, hrows, h⟩ := Outcome.bind_eq_ok.1 h
  exact distinct_of_selected h (Database.nodup_searchUsers hkeyed (eq_ok_of_lookedUp hrows)) fun _ => rfl

omit hkeyed in
private theorem distinct_ite {c : Prop} [Decidable c] {d : Domain} {found : Except Mishap (List SearchResult)}
    (h : (if c then .ok [] else found) = .ok results) (hfound : found = .ok results → Distinct d results) :
    Distinct d results := by
  split at h
  · obtain rfl := Except.ok.inj h
    exact Distinct.nil d
  · exact hfound h

/-- No result of a domain is found twice. -/
theorem foundOn_distinct {d : Domain} (h : r.foundOn db d = .ok results) : Distinct d results := by
  cases d with
  | messages => exact distinct_ite h (distinct_messagesOn hkeyed)
  | directMessages => exact distinct_ite h (distinct_directMessagesOn hkeyed)
  | files => exact distinct_ite h (distinct_filesOn hkeyed)
  | channels => exact distinct_ite h (distinct_channelsOn hkeyed)
  | users => exact distinct_ite h (distinct_usersOn hkeyed)

end Request

end WorkspaceSearch
