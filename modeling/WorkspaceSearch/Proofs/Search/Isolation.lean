import Mathlib
import WorkspaceSearch.Proofs.Search.Window

/-!
# The domains of a search do not disturb each other

A search whose searchers answer, fail or run out of time always has a response (`search_isolates`): the rows of the
domains that answer, in order, ties as they come, and the page cut out of them.  A domain that does not answer loses its
own rows and nothing else, and it does not matter in which order the searchers of different domains were registered.
-/

namespace WorkspaceSearch

namespace SearchService

/-! ### Registering searchers -/

/-- The service after some searchers have been registered, one after the other. -/
def withSearchers (service : SearchService) (registered : List (Domain × Searcher)) : SearchService :=
  registered.foldl (fun service entry => service.withSearcher entry.1 entry.2) service

/-- The searcher that was registered last for a domain. -/
def lastOf (registered : List (Domain × Searcher)) (d : Domain) : Option Searcher :=
  (registered.reverse.find? fun entry => entry.1 = d).map Prod.snd

@[simp] private theorem settings_withSearchers (service : SearchService) (registered : List (Domain × Searcher)) :
    (service.withSearchers registered).settings = service.settings := by
  induction registered generalizing service with
  | nil => rfl
  | cons entry registered ih => exact ih (service.withSearcher entry.1 entry.2)

/-- The last searcher of a domain wins; a domain with none keeps its own. -/
private theorem searcher_withSearchers (service : SearchService) (registered : List (Domain × Searcher)) (d : Domain) :
    (service.withSearchers registered).searcher d = (lastOf registered d).getD (service.searcher d) := by
  induction registered using List.reverseRecOn with
  | nil => rfl
  | append_singleton registered entry ih =>
    simp only [withSearchers, List.foldl_append, List.foldl_cons, List.foldl_nil, withSearcher] at ih ⊢
    simp only [lastOf, List.reverse_append, List.reverse_cons, List.reverse_nil, List.nil_append, List.cons_append,
      List.find?_cons] at ih ⊢
    by_cases hd : entry.1 = d
    · simp [hd]
    · simp [hd, Ne.symm hd, ih]

/-- Registrations with the same last searcher for every domain make the same service. -/
private theorem withSearchers_congr (service : SearchService) {registered registered' : List (Domain × Searcher)}
    (h : ∀ d, lastOf registered' d = lastOf registered d) :
    service.withSearchers registered' = service.withSearchers registered := by
  have hsettings := (settings_withSearchers service registered').trans (settings_withSearchers service registered).symm
  have hsearcher : (service.withSearchers registered').searcher = (service.withSearchers registered).searcher := by
    funext d
    rw [searcher_withSearchers, searcher_withSearchers, h d]
  cases h₁ : service.withSearchers registered'
  cases h₂ : service.withSearchers registered
  rw [h₁, h₂] at hsettings hsearcher
  cases hsettings
  cases hsearcher
  rfl

/-- The searcher that finds nothing. -/
def silent : Searcher := fun _ => .done (.ok [])

private theorem lastOf_append_silent (registered : List (Domain × Searcher)) (failing : List Domain) (d : Domain) :
    lastOf (registered ++ failing.map (·, silent)) d = if d ∈ failing then some silent else lastOf registered d := by
  induction failing using List.reverseRecOn with
  | nil => simp
  | append_singleton failing e ih =>
    rw [List.map_append, ← List.append_assoc]
    simp only [lastOf, List.map_cons, List.map_nil, List.reverse_append, List.reverse_cons, List.reverse_nil,
      List.nil_append, List.cons_append, List.find?_cons] at ih ⊢
    by_cases hd : e = d
    · simp [hd]
    · simp only [hd, decide_false, ih, List.mem_append, List.mem_singleton, Ne.symm hd, or_false]

/-! ### Order and ties -/

/-- Whether a result may stand in front of another: by score, the greater first, or by time in the direction asked
for. -/
def MayPrecede (sortBy : SortBy) (sortOrder : SortOrder) (a b : SearchResult) : Prop :=
  match sortBy, sortOrder with
  | .relevance, _ => b.score.toRat ≤ a.score.toRat
  | .date, .ascending => a.timestamp ≤ b.timestamp
  | .date, .descending => b.timestamp ≤ a.timestamp

/-- Two results tie: they have the same score, or the same time. -/
def Ties (sortBy : SortBy) (a b : SearchResult) : Prop :=
  match sortBy with
  | .relevance => a.score.toRat = b.score.toRat
  | .date => a.timestamp = b.timestamp

instance (sortBy : SortBy) (a b : SearchResult) : Decidable (Ties sortBy a b) :=
  match sortBy with
  | .relevance => inferInstanceAs (Decidable (a.score.toRat = b.score.toRat))
  | .date => inferInstanceAs (Decidable (a.timestamp = b.timestamp))

private theorem inOrder_iff {sortBy : SortBy} {sortOrder : SortOrder} {a b : SearchResult} :
    inOrder sortBy sortOrder a b = true ↔ MayPrecede sortBy sortOrder a b := by
  rcases sortBy with _ | _
  · exact Decimal.le_iff
  · cases sortOrder <;> exact decide_eq_true_iff

private theorem inOrder_of_ties {sortBy : SortBy} (sortOrder : SortOrder) {a b x : SearchResult} (ha : Ties sortBy x a)
    (hb : Ties sortBy x b) : inOrder sortBy sortOrder a b = true := by
  refine inOrder_iff.2 ?_
  rcases sortBy with _ | _
  · have heq : b.score.toRat = a.score.toRat := hb.symm.trans ha
    show b.score.toRat ≤ a.score.toRat
    exact Eq.subst (motive := (b.score.toRat ≤ ·)) heq Rat.le_refl
  · have heq : a.timestamp = b.timestamp := ha.symm.trans hb
    cases sortOrder <;> simp only [MayPrecede, heq] <;> exact Instant.le_refl _

/-- Sorted results stand in the order asked for. -/
private theorem pairwise_sortResults (sortBy : SortBy) (sortOrder : SortOrder) (rs : List SearchResult) :
    (sortResults sortBy sortOrder rs).Pairwise (MayPrecede sortBy sortOrder) :=
  (List.pairwise_mergeSort (inOrder_trans sortBy sortOrder) (inOrder_total sortBy sortOrder) rs).imp inOrder_iff.1

/-- Sorting keeps ties as they come. -/
private theorem filter_sortResults (sortBy : SortBy) (sortOrder : SortOrder) (rs : List SearchResult)
    (x : SearchResult) :
    ((sortResults sortBy sortOrder rs).filter fun a => Ties sortBy x a) = rs.filter fun a => Ties sortBy x a :=
  Merging.filter_mergeSort (inOrder_trans sortBy sortOrder) (inOrder_total sortBy sortOrder)
    (fun _ _ ha hb => inOrder_of_ties sortOrder (of_decide_eq_true ha) (of_decide_eq_true hb)) rs

/-! ### Searching -/

variable {σ : Type}

/-- The searchers of a search have known outcomes in all states of some kind, and lead to such states again; none of
them crashes. -/
structure Replies (service : SearchService) (store : Store σ) (o : SearchOptions) (P : σ → Prop)
    (outcome : Domain → Except Mishap (List SearchResult)) : Prop where
  run : ∀ d ∈ o.scope.domains, ∀ s, P s →
    ((service.searcher d (request service.settings o)).run store s).1 = outcome d ∧
      P ((service.searcher d (request service.settings o)).run store s).2
  noCrash : ∀ d ∈ o.scope.domains, outcome d ≠ .error .crashed

/-- The rows of the domains in scope, one domain after the other. -/
def rowsInScope (o : SearchOptions) (outcome : Domain → Except Mishap (List SearchResult)) : List SearchResult :=
  o.scope.domains.flatMap fun d => rows (outcome d)

/-- The response to a search is the page of the rows of its domains. -/
private theorem search_eq_page {service : SearchService} {store : Store σ} {o : SearchOptions} {P : σ → Prop}
    {outcome : Domain → Except Mishap (List SearchResult)} (hvalid : o.validate = .ok ())
    (hreplies : service.Replies store o P outcome) (id : Uuid) (now : Instant) {s : σ} (hs : P s) :
    ((service.search o false id now).run store s).1 = .ok (page o (rowsInScope o outcome)) := by
  rw [search_eq_map_gather service store hvalid, gather_eq_rows outcome hreplies.run hreplies.noCrash hs]
  rfl

/-- Where domains that fail are silenced, the others reply as before. -/
private theorem replies_silenced {service : SearchService} {store : Store σ} {o : SearchOptions} {P : σ → Prop}
    {outcome : Domain → Except Mishap (List SearchResult)} {registered : List (Domain × Searcher)}
    (hreplies : (service.withSearchers registered).Replies store o P outcome) (failing : List Domain) :
    (service.withSearchers (registered ++ failing.map (·, silent))).Replies store o P
      fun d => if d ∈ failing then .ok [] else outcome d := by
  refine ⟨fun d hd s hs => ?_, fun d hd => ?_⟩
  · have hrun := hreplies.run d hd s hs
    rw [settings_withSearchers, searcher_withSearchers] at hrun ⊢
    rw [lastOf_append_silent]
    split
    · exact ⟨rfl, hs⟩
    · exact hrun
  · split
    · exact nofun
    · exact hreplies.noCrash d hd

/-- A search that is neither refused nor cancelled has a response, whatever its searchers do short of crashing and
whatever the store says to the history entry.  The outcome of a domain is that of the searcher registered last for it,
or of the one it had before.  The total counts the rows of the domains that answer, and the results are a stretch of
these rows in the order asked for, with ties in the order of the domains and of each domain.  The response is the same
for every order of registration that leaves each domain its last searcher, and for any failing domains that find nothing
instead. -/
theorem search_isolates {service : SearchService} {registered : List (Domain × Searcher)} {store : Store σ}
    {o : SearchOptions} {P : σ → Prop} {outcome : Domain → Except Mishap (List SearchResult)}
    (hvalid : o.validate = .ok ()) (hreplies : (service.withSearchers registered).Replies store o P outcome) (id : Uuid)
    (now : Instant) {s : σ} (hs : P s) :
    (∀ d ∈ o.scope.domains,
      (((lastOf registered d).getD (service.searcher d) (request service.settings o)).run store s).1 = outcome d) ∧
    ∃ response, (((service.withSearchers registered).search o false id now).run store s).1 = .ok response ∧
      response.total = (o.scope.domains.map fun d => (rows (outcome d)).length).sum ∧
      (∃ ranked : List SearchResult, ranked.Perm (rowsInScope o outcome) ∧
        ranked.Pairwise (MayPrecede o.sortBy o.sortOrder) ∧
        (∀ x : SearchResult, (ranked.filter fun a => Ties o.sortBy x a) =
          (rowsInScope o outcome).filter fun a => Ties o.sortBy x a) ∧
        response.results = (ranked.drop o.offset.toNat).take o.limit.toNat) ∧
      (∀ registered', (∀ d, lastOf registered' d = lastOf registered d) →
        (((service.withSearchers registered').search o false id now).run store s).1 = .ok response) ∧
      ∀ failing : List Domain, (∀ d ∈ failing, ∃ e, outcome d = .error e) →
        (((service.withSearchers (registered ++ failing.map (·, silent))).search o false id now).run store s).1 =
          .ok response := by
  have hresponse := search_eq_page hvalid hreplies id now hs
  refine ⟨fun d hd => ?_, _, hresponse, ?_,
    ⟨_, List.mergeSort_perm _ _, pairwise_sortResults _ _ _, filter_sortResults _ _ _, rfl⟩, fun registered' hlast => ?_,
    fun failing hfailing => ?_⟩
  · rw [← (hreplies.run d hd s hs).1, settings_withSearchers, searcher_withSearchers]
  · simp only [page, rowsInScope, List.length_flatMap]
  · rw [withSearchers_congr service hlast]
    exact hresponse
  · -- a domain that fails has no rows, as one that finds nothing
    have hrows : rowsInScope o (fun d => if d ∈ failing then .ok [] else outcome d) = rowsInScope o outcome := by
      unfold rowsInScope
      congr 1
      funext d
      by_cases hd : d ∈ failing
      · obtain ⟨e, he⟩ := hfailing d hd
        simp only [if_pos hd, he, rows]
      · simp only [if_neg hd]
    rw [search_eq_page hvalid (replies_silenced hreplies failing) id now hs, hrows]

private def mixedOutcome : Domain → Except Mishap (List SearchResult)
  | .messages => .ok [scored "m" 1, scored "n" 2]
  | .directMessages => .error .late
  | .files => .error (.failed .cancelled)
  | .channels => .ok [scored "c" 2]
  | .users => .ok []

private def registeredOf (d : Domain) : Domain × Searcher := (d, fun _ => .done (mixedOutcome d))

/-- Two domains with rows, a late one, a failing one and an empty one: the search counts three rows, and it is the
search in which the late and the failing domain find nothing. -/
theorem search_isolates_mixed :
    ∃ response,
      (((withSearchers {} (Domain.all.map registeredOf)).search pageOfTwo false default .epoch).run refusing ()).1 =
        .ok response ∧
      response.total = 3 ∧
      (((withSearchers {} (Domain.all.map registeredOf ++ [.directMessages, .files].map (·, silent))).search
        pageOfTwo false default .epoch).run refusing ()).1 = .ok response := by
  have hreplies : (withSearchers {} (Domain.all.map registeredOf)).Replies refusing pageOfTwo (fun _ => True)
      mixedOutcome := by
    refine ⟨fun d _ s _ => ?_, fun d _ => ?_⟩
    · cases d <;> exact ⟨rfl, trivial⟩
    · cases d <;> nofun
  obtain ⟨-, response, hrun, htotal, -, -, hsilent⟩ := search_isolates rfl hreplies default .epoch trivial
  have hfailing : ∀ d ∈ [Domain.directMessages, .files], ∃ e, mixedOutcome d = .error e := by
    rintro d hd
    rcases List.mem_cons.1 hd with rfl | hd
    · exact ⟨_, rfl⟩
    · obtain rfl := List.mem_singleton.1 hd
      exact ⟨_, rfl⟩
  exact ⟨response, hrun, htotal, hsilent _ hfailing⟩

end SearchService

end WorkspaceSearch
