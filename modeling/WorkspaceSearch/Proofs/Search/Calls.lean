import Mathlib.Data.List.Forall2
import WorkspaceSearch.Proofs.Search.Guarded
import WorkspaceSearch.Proofs.Search.Window

/-!
# The calls of a search

A searcher that has something to look up first resolves names and asks for messages, and then makes its one lookup,
unless one of these calls fails or leaves nothing to look up (`Request.Orderly`).  This holds whatever the store
answers, and so the calls of a search are those of the searchers in its scope, each to itself, and then the recording
of the search (`SearchService.search_calls`).
-/

namespace WorkspaceSearch

/-! ### Calls -/

/-- What the lookups of all domains have in common. -/
structure Call.Lookup where
  domain : Domain
  text : TextMatch
  limit : Nat
  offset : Nat
  deriving DecidableEq, Repr

/-- The lookup that a call makes, if it is one. -/
def Call.lookup? : Call → Option Call.Lookup
  | .searchMessages q => some ⟨.messages, q.text, q.limit, q.offset⟩
  | .searchDirectMessages q => some ⟨.directMessages, q.text, q.limit, q.offset⟩
  | .searchFiles q => some ⟨.files, q.text, q.limit, q.offset⟩
  | .searchChannels q => some ⟨.channels, q.text, q.limit, q.offset⟩
  | .searchUsers q => some ⟨.users, q.text, q.limit, q.offset⟩
  | _ => none

/-- Whether a call writes to the history. -/
def Call.isRecording : Call → Bool
  | .recordSearch _ => true
  | _ => false

/-- Whether a call is one with which a domain prepares its lookup: it resolves names or asks for the messages of some
channels, and never for those of an empty list. -/
def Domain.prepares : Domain → Call → Bool
  | .messages, .resolveChannelIds names => !names.isEmpty
  | .messages, .resolveUserIds names => !names.isEmpty
  | .directMessages, .resolveUserIds names => !names.isEmpty
  | .files, .resolveChannelIds names => !names.isEmpty
  | .files, .resolveUserIds names => !names.isEmpty
  | .files, .attachmentMessageIds channelIds => !channelIds.isEmpty
  | _, _ => false

private theorem Domain.lookup?_of_prepares {d : Domain} {c : Call} (h : d.prepares c = true) : c.lookup? = none := by
  cases d <;> cases c <;> first | rfl | cases h

private theorem Domain.isRecording_of_prepares {d : Domain} {c : Call} (h : d.prepares c = true) :
    c.isRecording = false := by
  cases d <;> cases c <;> first | rfl | cases h

private theorem Call.isRecording_of_lookup? {c : Call} {l : Call.Lookup} (h : c.lookup? = some l) :
    c.isRecording = false := by
  cases c <;> first | rfl | cases h

/-- A call and what a store has answered. -/
abbrev Exchange : Type := (c : Call) × Except Error c.Answer

namespace Program

variable {σ α β : Type}

/-- The calls that a program makes when it is run on a store, in order, with the answers. -/
def exchanges (store : Store σ) : Program α → σ → List Exchange
  | .done _, _ => []
  | .call c next, s => ⟨c, (store c s).1⟩ :: (next (store c s).1).exchanges store (store c s).2

private theorem trace_eq_exchanges (store : Store σ) (p : Program α) (s : σ) :
    p.trace store s = (p.exchanges store s).map (·.1) := by
  induction p generalizing s with
  | done a => rfl
  | call c next ih => rw [trace, exchanges, List.map_cons, ih]

private theorem exchanges_andThen (store : Store σ) (p : Program α) (f : α → Program β) (s : σ) :
    (p.andThen f).exchanges store s =
      p.exchanges store s ++ (f (p.run store s).1).exchanges store (p.run store s).2 := by
  induction p generalizing s with
  | done a => rfl
  | call c next ih => rw [andThen, exchanges, exchanges, run, ih, List.cons_append]

/-- A program is done, without another call. -/
def IsDone (p : Program α) : Prop := ∃ a, p = .done a

end Program

/-! ### Searchers -/

namespace Request

variable {r : Request} {d : Domain}

/-- Whether there is anything to look up in a domain. -/
def seeks (r : Request) : Domain → Bool
  | .messages => r.hasCriteria && r.userChannelIds != some []
  | .directMessages | .files => r.hasCriteria
  | .channels | .users => r.hasText

/-- Whether the searcher of a domain stops at an answer: the call has failed, or leaves no channel or no message whose
files could be looked up. -/
def stopsAt (r : Request) : Domain → (c : Call) → Except Error c.Answer → Bool
  | _, _, .error _ => true
  | .files, .resolveChannelIds _, .ok named => r.channelRestriction named = some []
  | .files, .attachmentMessageIds _, .ok messageIds => messageIds.isEmpty
  | _, _, .ok _ => false

/-- The lookup that a request asks for in a domain. -/
def lookupIn (r : Request) (d : Domain) : Call.Lookup := ⟨d, r.textMatch, r.limit, r.offset⟩

/-- The calls of the searcher of a domain, with the answers: some that prepare the lookup, and then the lookup, once,
unless there is nothing to look up or the searcher has stopped before. -/
def Orderly (r : Request) (d : Domain) (es : List Exchange) : Prop :=
  ∃ before lookups, es = before ++ lookups ∧ (∀ e ∈ before, r.seeks d = true ∧ d.prepares e.1 = true) ∧
    (∀ e ∈ lookups, e.1.lookup? = some (r.lookupIn d)) ∧
    lookups.length = if r.seeks d && !before.any (fun e => r.stopsAt d e.1 e.2) then 1 else 0

/-- Whatever a program is answered, it prepares the lookup of a domain and makes it once, unless it stops before. -/
def LooksOnce {α : Type} (r : Request) (d : Domain) : Program α → Prop
  | .done _ => False
  | .call c next =>
    (c.lookup? = some (r.lookupIn d) ∧ ∀ answer, (next answer).IsDone) ∨
      (d.prepares c = true ∧ ∀ answer,
        if r.stopsAt d c answer then (next answer).IsDone else r.LooksOnce d (next answer))

private theorem exchanges_of_isDone {σ α : Type} {store : Store σ} {p : Program α} (h : p.IsDone) (s : σ) :
    p.exchanges store s = [] := by
  obtain ⟨a, rfl⟩ := h
  rfl

/-- What such a program asks and is answered is in order. -/
private theorem orderly_of_looksOnce {σ α : Type} {p : Program α} (hseeks : r.seeks d = true) (h : r.LooksOnce d p)
    (store : Store σ) (s : σ) : r.Orderly d (p.exchanges store s) := by
  induction p generalizing s with
  | done a => exact h.elim
  | call c next ih =>
    rcases h with ⟨hlookup, hdone⟩ | ⟨hprepares, hnext⟩
    · refine ⟨[], [⟨c, (store c s).1⟩], ?_, by simp, by simpa using hlookup, by simp [hseeks]⟩
      rw [Program.exchanges, exchanges_of_isDone (hdone _), List.nil_append]
    · have hstep := hnext (store c s).1
      split at hstep
      · next hstop =>
        refine ⟨[⟨c, (store c s).1⟩], [], ?_, by simp [hseeks, hprepares], by simp, by simp [hstop]⟩
        rw [Program.exchanges, exchanges_of_isDone hstep, List.append_nil]
      · next hgo =>
        obtain ⟨before, lookups, hsplit, hbefore, hlookups, hlength⟩ := ih _ hstep (store c s).2
        refine ⟨⟨c, (store c s).1⟩ :: before, lookups, ?_, ?_, hlookups, ?_⟩
        · rw [Program.exchanges, hsplit, List.cons_append]
        · exact List.forall_mem_cons.2 ⟨⟨hseeks, hprepares⟩, hbefore⟩
        · rw [List.any_cons, Bool.eq_false_iff.2 hgo, Bool.false_or]
          exact hlength

private theorem looksOnce_ask {α : Type} {c : Call} {f : c.Answer → Attempt α} (h : c.lookup? = some (r.lookupIn d))
    (hf : ∀ rows, (f rows).run.IsDone) : r.LooksOnce d (Attempt.ask c >>= f).run := by
  refine .inl ⟨h, fun answer => ?_⟩
  cases answer with
  | error e => exact ⟨_, rfl⟩
  | ok rows => exact hf rows

private theorem stopsAt_error (r : Request) (d : Domain) (c : Call) (e : Error) : r.stopsAt d c (.error e) = true := by
  cases d <;> cases c <;> rfl

private theorem looksOnce_prepare {α : Type} {c : Call} {f : c.Answer → Attempt α} (h : d.prepares c = true)
    (hf : ∀ a, if r.stopsAt d c (.ok a) then (f a).run.IsDone else r.LooksOnce d (f a).run) :
    r.LooksOnce d (Attempt.ask c >>= f).run := by
  refine .inr ⟨h, fun answer => ?_⟩
  cases answer with
  | error e =>
    rw [stopsAt_error]
    exact ⟨_, rfl⟩
  | ok a => exact hf a

private theorem looksOnce_channelIds {α : Type} {f : List String → Attempt α}
    (hprepares : ∀ names, d.prepares (.resolveChannelIds names) = !names.isEmpty) (hnone : r.LooksOnce d (f []).run)
    (hf : ∀ named, if r.stopsAt d (.resolveChannelIds r.operators.channels) (.ok named) then (f named).run.IsDone
      else r.LooksOnce d (f named).run) : r.LooksOnce d (r.channelIds >>= f).run := by
  unfold channelIds
  split
  · exact hnone
  · next hchannels => exact looksOnce_prepare (by rw [hprepares, Bool.eq_false_iff.2 hchannels]; rfl) hf

/-- The names of senders stop no searcher. -/
private theorem looksOnce_senderIds {α : Type} {f : List String → Attempt α}
    (hprepares : ∀ names, d.prepares (.resolveUserIds names) = !names.isEmpty)
    (hf : ∀ senders, r.LooksOnce d (f senders).run) : r.LooksOnce d (r.senderIds >>= f).run := by
  unfold senderIds
  split
  · exact hf []
  · next hsenders =>
    refine looksOnce_prepare (by rw [hprepares, Bool.eq_false_iff.2 hsenders]; rfl) fun senders => ?_
    have hgo : r.stopsAt d (.resolveUserIds r.operators.senders) (.ok senders) = false := by cases d <;> rfl
    rw [hgo]
    exact hf senders

private theorem isDone_results {Row : Type} (condition : Condition) (ofRow : Row → SearchResult)
    (primary : Row → String) (rows : List Row) : (r.results condition ofRow primary rows).run.IsDone :=
  ⟨_, run_results r condition ofRow primary rows⟩

private theorem looksOnce_searchFilesOf (messageIds : Option (List String)) :
    r.LooksOnce .files (searchFilesOf r messageIds).run :=
  looksOnce_senderIds (fun _ => rfl) fun _ => looksOnce_ask rfl fun _ => isDone_results _ _ _ _

/-- Files are looked up among those of some messages unless there is no such message. -/
private theorem looksOnce_searchFilesIn (id : String) (rest : List String) :
    r.LooksOnce .files (ExceptT.run do
      let messageIds ← Attempt.ask (.attachmentMessageIds (id :: rest))
      if messageIds.isEmpty then return []
      searchFilesOf r (some messageIds)) := by
  refine looksOnce_prepare rfl fun messageIds => ?_
  simp only [stopsAt]
  split
  · exact ⟨_, rfl⟩
  · exact looksOnce_searchFilesOf (some messageIds)

private theorem looksOnce_searchFiles (h : r.hasCriteria = true) : r.LooksOnce .files (searchFiles r) := by
  unfold searchFiles
  rw [if_neg (by simp [h])]
  refine looksOnce_channelIds (fun _ => rfl) ?_ fun named => ?_
  · -- without names there is at most the channel of the filters
    unfold channelRestriction
    cases r.filters.channelId with
    | none => exact looksOnce_searchFilesOf none
    | some id => exact looksOnce_searchFilesIn id []
  · simp only [stopsAt, decide_eq_true_eq]
    rcases r.channelRestriction named with _ | _ | ⟨id, rest⟩
    · exact looksOnce_searchFilesOf none
    · exact ⟨_, rfl⟩
    · exact looksOnce_searchFilesIn id rest

/-- A searcher that has something to look up does so once, unless it stops before. -/
theorem looksOnce_searcher (h : r.seeks d = true) : r.LooksOnce d (d.searcher r) := by
  cases d with
  | messages =>
    simp only [seeks, Bool.and_eq_true, bne_iff_ne, ne_eq] at h
    show r.LooksOnce .messages (searchMessages r)
    unfold searchMessages
    rw [if_neg (by simp [h])]
    refine looksOnce_channelIds (fun _ => rfl) ?_ fun named => ?_
    · exact looksOnce_senderIds (fun _ => rfl) fun _ => looksOnce_ask rfl fun _ => isDone_results _ _ _ _
    · have hgo : r.stopsAt .messages (.resolveChannelIds r.operators.channels) (.ok named) = false := rfl
      rw [hgo]
      exact looksOnce_senderIds (fun _ => rfl) fun _ => looksOnce_ask rfl fun _ => isDone_results _ _ _ _
  | directMessages =>
    show r.LooksOnce .directMessages (searchDirectMessages r)
    unfold searchDirectMessages
    rw [if_neg (by simpa [seeks] using h)]
    exact looksOnce_senderIds (fun _ => rfl) fun _ => looksOnce_ask rfl fun _ => isDone_results _ _ _ _
  | files => exact looksOnce_searchFiles h
  | channels =>
    show r.LooksOnce .channels (searchChannels r)
    unfold searchChannels
    rw [if_neg (by simpa [seeks] using h)]
    exact looksOnce_ask rfl fun _ => isDone_results _ _ _ _
  | users =>
    show r.LooksOnce .users (searchUsers r)
    unfold searchUsers
    rw [if_neg (by simpa [seeks] using h)]
    exact looksOnce_ask rfl fun _ => isDone_results _ _ _ _

/-- A searcher that has nothing to look up makes no call at all. -/
theorem isDone_searcher (h : r.seeks d = false) : (d.searcher r).IsDone := by
  cases d with
  | messages =>
    refine ⟨.ok [], if_pos ?_⟩
    cases hcriteria : r.hasCriteria with
    | false => rfl
    | true => simpa [seeks, hcriteria] using h
  | directMessages => exact ⟨.ok [], if_pos (by simpa [seeks] using h)⟩
  | files => exact ⟨.ok [], if_pos (by simpa [seeks] using h)⟩
  | channels => exact ⟨.ok [], if_pos (by simpa [seeks] using h)⟩
  | users => exact ⟨.ok [], if_pos (by simpa [seeks] using h)⟩

/-- The calls of a searcher are in order, whatever the store answers. -/
private theorem orderly_searcher {σ : Type} (r : Request) (d : Domain) (store : Store σ) (s : σ) :
    r.Orderly d ((d.searcher r).exchanges store s) := by
  cases hseeks : r.seeks d with
  | true => exact orderly_of_looksOnce hseeks (looksOnce_searcher hseeks) store s
  | false =>
    rw [exchanges_of_isDone (isDone_searcher hseeks)]
    exact ⟨[], [], rfl, by simp, by simp, by simp [hseeks]⟩

/-! ### What is in order -/

private theorem hasCriteria_of_seeks (h : r.seeks d = true) : r.hasCriteria = true := by
  cases d with
  | messages => exact (Bool.and_eq_true_iff.1 h).1
  | directMessages => exact h
  | files => exact h
  | channels => exact Bool.or_eq_true_iff.2 (.inl h)
  | users => exact Bool.or_eq_true_iff.2 (.inl h)

section

variable {es : List Exchange}

private theorem Orderly.mem (h : r.Orderly d es) {e : Exchange} (he : e ∈ es) :
    r.seeks d = true ∧ (d.prepares e.1 = true ∨ e.1.lookup? = some (r.lookupIn d)) := by
  obtain ⟨before, lookups, rfl, hbefore, hlookups, hlength⟩ := h
  rcases List.mem_append.1 he with he | he
  · exact ⟨(hbefore e he).1, .inl (hbefore e he).2⟩
  · refine ⟨?_, .inr (hlookups e he)⟩
    have hone : 0 < lookups.length := List.length_pos_of_mem he
    split at hlength
    · next hc => exact (Bool.and_eq_true_iff.1 hc).1
    · omega

/-- A domain is looked up once at most. -/
private theorem Orderly.lookups (h : r.Orderly d es) :
    ((es.filterMap fun e => e.1.lookup?).map (·.domain)).Sublist [d] := by
  obtain ⟨before, lookups, rfl, hbefore, hlookups, hlength⟩ := h
  have hnone : before.filterMap (fun e => e.1.lookup?) = [] :=
    List.filterMap_eq_nil_iff.2 fun e he => Domain.lookup?_of_prepares (hbefore e he).2
  rw [List.filterMap_append, hnone, List.nil_append]
  match lookups, hlookups, hlength with
  | [], _, _ => exact List.nil_sublist _
  | [e], hlookups, _ =>
    rw [List.filterMap_cons, hlookups e (by simp)]
    exact .refl _
  | _ :: _ :: _, _, hlength =>
    split at hlength <;> simp at hlength

end

end Request

namespace SearchService

variable {σ : Type} {store : Store σ}

/-- What is asked while results are gathered is put together from what the searchers ask, domain by domain. -/
private theorem exchanges_gather {service : SearchService} {r : Request} {P : Domain → List Exchange → Prop}
    (h : ∀ d s, P d ((service.searcher d r).exchanges store s)) (ds : List Domain) (s : σ) :
    ∃ parts, (service.gather r ds).exchanges store s = parts.flatten ∧ List.Forall₂ P ds parts := by
  induction ds generalizing s with
  | nil => exact ⟨[], rfl, .nil⟩
  | cons d ds ih =>
    obtain ⟨parts, hparts, hall⟩ := ih ((service.searcher d r).run store s).2
    refine ⟨(service.searcher d r).exchanges store s :: parts, ?_, .cons (h d s) hall⟩
    simp only [gather, Program.exchanges_andThen, Program.exchanges, List.append_nil, hparts, List.flatten_cons]

/-- The lookups among some calls. -/
def lookupsOf (calls : List Call) : List Call.Lookup := calls.filterMap Call.lookup?

/-- The calls of a search: it is recorded once; a domain is looked up once at most, and only if it is in the scope and
there is something to look up in it; all lookups have the same window and text; and what else is called prepares the
lookup of a domain in the scope. -/
structure Disciplined (settings : SearchSettings) (o : SearchOptions) (entry : HistoryEntry) (calls : List Call) :
    Prop where
  recorded : calls.filter Call.isRecording = [.recordSearch entry]
  once : ((lookupsOf calls).map (·.domain)).Nodup
  inScope : ∀ l ∈ lookupsOf calls, l.domain ∈ o.scope.domains
  criteria : ∀ l ∈ lookupsOf calls, Text.isBlank (ParsedQuery.ofText o.query).base = false ∨
    (ParsedQuery.ofText o.query).operators.isUnrestricted = false
  text : ∀ l ∈ lookupsOf calls, l.domain = .channels ∨ l.domain = .users →
    Text.isBlank (ParsedQuery.ofText o.query).base = false
  member : ∀ l ∈ lookupsOf calls, l.domain = .messages → o.userChannelIds ≠ some []
  window : ∀ l ∈ lookupsOf calls, l.offset = 0 ∧
    l.limit = min (max (o.offset + o.limit).toNat settings.maxResultsPerDomain.toNat) largestWindow
  textMatch : ∀ l ∈ lookupsOf calls, l.text.isEmpty = true →
    Text.isBlank (ParsedQuery.ofText o.query).base = true
  prepared : ∀ c ∈ calls, c.lookup? = none → c.isRecording = false → ∃ d ∈ o.scope.domains, d.prepares c = true

private theorem exists_part {r : Request} {ds : List Domain} {parts : List (List Exchange)}
    (h : List.Forall₂ r.Orderly ds parts) {e : Exchange} (he : e ∈ parts.flatten) :
    ∃ d ∈ ds, r.seeks d = true ∧ (d.prepares e.1 = true ∨ e.1.lookup? = some (r.lookupIn d)) := by
  induction h with
  | nil => cases he
  | cons hpart _ ih =>
    rw [List.flatten_cons] at he
    rcases List.mem_append.1 he with he | he
    · exact ⟨_, List.mem_cons_self, hpart.mem he⟩
    · obtain ⟨d, hd, hseeks⟩ := ih he
      exact ⟨d, List.mem_cons_of_mem _ hd, hseeks⟩

private theorem lookups_sublist {r : Request} {ds : List Domain} {parts : List (List Exchange)}
    (h : List.Forall₂ r.Orderly ds parts) :
    ((parts.flatten.filterMap fun e => e.1.lookup?).map (·.domain)).Sublist ds := by
  induction h with
  | nil => exact .slnil
  | cons hpart _ ih =>
    rw [List.flatten_cons, List.filterMap_append, List.map_append]
    exact hpart.lookups.append ih

private theorem isEmpty_textMatch {r : Request} (h : r.textMatch.isEmpty = true) : Text.isBlank r.base = true := by
  obtain ⟨hphrase, hanyOf⟩ := Bool.and_eq_true_iff.1 h
  unfold Request.textMatch at hphrase hanyOf
  split at hphrase
  · next hany =>
    rw [if_pos hany] at hanyOf
    exact Text.words_eq_nil_iff.1 (List.isEmpty_iff.1 hanyOf)
  · exact hphrase

private theorem fetchLimit_eq (settings : SearchSettings) (o : SearchOptions) :
    fetchLimit settings o =
      min (max (o.offset + o.limit).toNat settings.maxResultsPerDomain.toNat) largestWindow := by
  have hmax := fetchLimit_le_largestWindow settings o
  unfold fetchLimit at *
  omega

section

variable {settings : SearchSettings} {o : SearchOptions} {ds : List Domain} {parts : List (List Exchange)}
  (h : List.Forall₂ (request settings o).Orderly ds parts)

include h

private theorem exists_lookup {l : Call.Lookup} (hl : l ∈ parts.flatten.filterMap fun e => e.1.lookup?) :
    (request settings o).seeks l.domain = true ∧ l = (request settings o).lookupIn l.domain := by
  obtain ⟨e, he, hlookup⟩ := List.mem_filterMap.1 hl
  obtain ⟨d, -, hseeks, hprepares | hasked⟩ := exists_part h he
  · rw [Domain.lookup?_of_prepares hprepares] at hlookup
    cases hlookup
  · obtain rfl := Option.some.inj (hasked.symm.trans hlookup)
    exact ⟨hseeks, rfl⟩

private theorem isRecording_of_mem {e : Exchange} (he : e ∈ parts.flatten) : e.1.isRecording = false := by
  obtain ⟨d, -, -, hprepares | hasked⟩ := exists_part h he
  · exact Domain.isRecording_of_prepares hprepares
  · exact Call.isRecording_of_lookup? hasked

/-- A search whose searchers are in order is disciplined. -/
private theorem disciplined_of_orderly (hnodup : ds.Nodup) (hds : ∀ d ∈ ds, d ∈ o.scope.domains)
    (entry : HistoryEntry) : Disciplined settings o entry (parts.flatten.map Sigma.fst ++ [.recordSearch entry]) := by
  have hlookups : lookupsOf (parts.flatten.map Sigma.fst ++ [.recordSearch entry]) =
      parts.flatten.filterMap fun e => e.1.lookup? := by
    rw [lookupsOf, List.filterMap_append, List.filterMap_map]
    exact List.append_nil _
  have hbase : (request settings o).base = (ParsedQuery.ofText o.query).base := rfl
  have hrequest : (request settings o).hasText = !Text.isBlank (ParsedQuery.ofText o.query).base := rfl
  constructor
  case recorded =>
    have hnone : (parts.flatten.map Sigma.fst).filter Call.isRecording = [] := by
      refine List.filter_eq_nil_iff.2 fun c hc => ?_
      obtain ⟨e, he, rfl⟩ := List.mem_map.1 hc
      exact Bool.eq_false_iff.1 (isRecording_of_mem h he)
    rw [List.filter_append, hnone]
    rfl
  case prepared =>
    intro c hc hlookup hrecording
    rcases List.mem_append.1 hc with hc | hc
    · obtain ⟨e, he, rfl⟩ := List.mem_map.1 hc
      obtain ⟨d, hd, -, hprepares | hasked⟩ := exists_part h he
      · exact ⟨d, hds d hd, hprepares⟩
      · rw [hlookup] at hasked
        cases hasked
    · rw [List.mem_singleton.1 hc] at hrecording
      cases hrecording
  -- all else is about the lookups, which are those of the searchers
  all_goals rw [hlookups]
  case once => exact hnodup.sublist (lookups_sublist h)
  case inScope =>
    intro l hl
    exact hds _ ((lookups_sublist h).subset (List.mem_map_of_mem hl))
  case criteria =>
    intro l hl
    have hcriteria := Request.hasCriteria_of_seeks (exists_lookup h hl).1
    rw [Request.hasCriteria, hrequest, Bool.or_eq_true, Bool.not_eq_true', Bool.not_eq_true'] at hcriteria
    exact hcriteria
  case text =>
    intro l hl hdomain
    have hseeks := (exists_lookup h hl).1
    rcases hdomain with hdomain | hdomain <;> rw [hdomain] at hseeks <;> simpa [Request.seeks, hrequest] using hseeks
  case member =>
    intro l hl hdomain
    have hseeks := (exists_lookup h hl).1
    rw [hdomain] at hseeks
    simp only [Request.seeks, Bool.and_eq_true, bne_iff_ne] at hseeks
    exact hseeks.2
  case window =>
    intro l hl
    rw [(exists_lookup h hl).2]
    exact ⟨rfl, fetchLimit_eq settings o⟩
  case textMatch =>
    intro l hl hempty
    rw [(exists_lookup h hl).2] at hempty
    rw [← hbase]
    exact isEmpty_textMatch hempty

end

/-- A search that is refused makes no call.  Otherwise it makes the calls of the domains in its scope, each domain in
order by itself, and records itself once: whether a domain is looked up depends on the request and on what its own calls
are answered, and on nothing else. -/
theorem search_calls (settings : SearchSettings) (o : SearchOptions) (cancelled : Bool) (id : Uuid) (now : Instant)
    (store : Store σ) (s : σ) :
    match o.validate with
    | .error _ => (search { settings } o cancelled id now).trace store s = []
    | .ok () =>
      Disciplined settings o (entryOf o id now) ((search { settings } o cancelled id now).trace store s) ∧
        ∃ parts answer, (search { settings } o cancelled id now).exchanges store s =
            parts.flatten ++ [⟨.recordSearch (entryOf o id now), answer⟩] ∧
          List.Forall₂ (request settings o).Orderly (if cancelled then [] else o.scope.domains) parts := by
  cases hvalid : o.validate with
  | error e =>
    simp only
    rw [search, hvalid]
    rfl
  | ok =>
    simp only
    have hparts : ∃ parts, (find { settings } o cancelled).exchanges store s = parts.flatten ∧
        List.Forall₂ (request settings o).Orderly (if cancelled then [] else o.scope.domains) parts := by
      cases cancelled with
      | true => exact ⟨[], rfl, .nil⟩
      | false =>
        have horderly : ∀ d s, (request settings o).Orderly d
            ((({ settings } : SearchService).searcher d (request settings o)).exchanges store s) :=
          fun d s => (request settings o).orderly_searcher d store s
        obtain ⟨parts, hparts, hall⟩ := exchanges_gather horderly o.scope.domains s
        refine ⟨parts, ?_, hall⟩
        rw [find, if_neg Bool.false_ne_true, Program.exchanges_andThen, hparts]
        exact List.append_nil _
    obtain ⟨parts, hparts, hall⟩ := hparts
    have hexchanges : (search { settings } o cancelled id now).exchanges store s = parts.flatten ++
        [⟨.recordSearch (entryOf o id now),
          (store (.recordSearch (entryOf o id now)) ((find { settings } o cancelled).run store s).2).1⟩] := by
      rw [search, hvalid]
      simp only [Program.exchanges_andThen, hparts]
      rfl
    refine ⟨?_, parts, _, hexchanges, hall⟩
    rw [Program.trace_eq_exchanges, hexchanges, List.map_append]
    refine disciplined_of_orderly hall ?_ ?_ _
    · split
      · exact .nil
      · exact o.scope.nodup_domains
    · intro d hd
      split at hd
      · cases hd
      · exact hd

private theorem ofText_channelQuery : ParsedQuery.ofText "alpha in:general" =
    { base := "alpha", operators := { channels := ["general"] } } := by decide_cbv

/-- A store that always fails: messages and files are not looked up because the channel is not resolved, and the other
domains are looked up all the same. -/
theorem search_calls_failing :
    (lookupsOf ((search {} channelQuery false default .epoch).trace refusing ())).map (·.domain) =
        [.directMessages, .channels, .users] ∧
      Disciplined {} channelQuery (entryOf channelQuery default .epoch)
        ((search {} channelQuery false default .epoch).trace refusing ()) := by
  have hcalls := search_calls {} channelQuery false default .epoch refusing ()
  have hvalid : channelQuery.validate = .ok () := by decide_cbv
  rw [hvalid] at hcalls
  have hrequest : request {} channelQuery =
      { base := "alpha", operators := { channels := ["general"] }, userId := "u1", limit := 100,
        contextRadius := 50 } := by
    simp only [request, channelQuery, ofText_channelQuery]
    rfl
  refine ⟨?_, hcalls.1⟩
  rw [search, hvalid]
  simp only [find, Bool.false_eq_true, if_false, hrequest]
  decide +kernel

end SearchService

end WorkspaceSearch
