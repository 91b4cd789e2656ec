import WorkspaceSearch.Proofs.Search.Order

/-!
# The window that is fetched

Every domain is asked for as many rows as the page reaches to, counted from the first.  When every domain has its
results in the order asked for and answers with the first of them, the page is the one that would be cut out of all
results of all domains (`search_results_eq`): no row that a window leaves out belongs on the page.
-/

namespace WorkspaceSearch

theorem Scope.nodup_domains (scope : Scope) : scope.domains.Nodup := by
  cases scope with
  | all => exact Domain.nodup_all
  | only d => exact List.nodup_singleton d

namespace SearchService

/-! ### Gathering -/

variable {σ : Type}

/-- The rows that an outcome of a searcher brings. -/
def rows : Except Mishap (List SearchResult) → List SearchResult
  | .ok found => found
  | .error _ => []

private theorem degrade_eq_rows {reply : Except Mishap (List SearchResult)} (h : reply ≠ .error .crashed) :
    degrade reply = .ok (rows reply) := by
  rcases reply with (_ | _ | _) | _
  · rfl
  · rfl
  · exact absurd rfl h
  · rfl

/-- Gathering asks the searchers in order and puts the rows they bring behind each other, when the outcome of each is
known in the states that come up and none crashes. -/
theorem gather_eq_rows {service : SearchService} {store : Store σ} {r : Request} {ds : List Domain}
    (outcome : Domain → Except Mishap (List SearchResult)) {P : σ → Prop}
    (h : ∀ d ∈ ds, ∀ s, P s → ((service.searcher d r).run store s).1 = outcome d ∧
      P ((service.searcher d r).run store s).2)
    (hcrash : ∀ d ∈ ds, outcome d ≠ .error .crashed) {s : σ} (hs : P s) :
    ((service.gather r ds).run store s).1 = .ok (ds.flatMap fun d => rows (outcome d)) := by
  induction ds generalizing s with
  | nil => rfl
  | cons d ds ih =>
    obtain ⟨hhead, hnext⟩ := h d List.mem_cons_self s hs
    have hrest := ih (fun e he => h e (List.mem_cons_of_mem _ he))
      (fun e he => hcrash e (List.mem_cons_of_mem _ he)) hnext
    have hdegrade := degrade_eq_rows (hcrash d List.mem_cons_self)
    simp only [gather, Program.run_andThen, hhead, hdegrade, hrest, Program.run]
    rfl

/-- Gathering from searchers that all have results. -/
theorem gather_eq_of_forall {service : SearchService} {store : Store σ} {r : Request} {ds : List Domain}
    (found : Domain → List SearchResult) {P : σ → Prop}
    (h : ∀ d ∈ ds, ∀ s, P s → ((service.searcher d r).run store s).1 = .ok (found d) ∧
      P ((service.searcher d r).run store s).2) {s : σ} (hs : P s) :
    ((service.gather r ds).run store s).1 = .ok (ds.flatMap found) :=
  gather_eq_rows (fun d => .ok (found d)) h (fun _ _ => nofun) hs

/-- Gathering from one domain. -/
theorem gather_singleton (service : SearchService) (store : Store σ) (r : Request) (d : Domain) (s : σ) :
    ((service.gather r [d]).run store s).1 = degrade ((service.searcher d r).run store s).1 := by
  simp only [gather, Program.run_andThen, Program.run]
  cases degrade ((service.searcher d r).run store s).1 with
  | error e => rfl
  | ok found => exact congrArg Except.ok (List.append_nil found)

/-- The searchers of a search have fixed lists of results, and answer a window by the front of their list. -/
def Supplies (service : SearchService) (store : Store σ) (o : SearchOptions) (all : Domain → List SearchResult) :
    Prop :=
  ∀ d ∈ o.scope.domains, ∀ window ≤ largestWindow, ∀ s,
    ((service.searcher d { request service.settings o with limit := window }).run store s).1 =
      .ok ((all d).take window)

/-- A search that is neither refused nor cancelled cuts its page out of what it gathers. -/
theorem search_eq_map_gather (service : SearchService) (store : Store σ) {o : SearchOptions}
    (hvalid : o.validate = .ok ()) (id : Uuid) (now : Instant) (s : σ) :
    ((service.search o false id now).run store s).1 =
      ((service.gather (request service.settings o) o.scope.domains).run store s).1.map (page o) := by
  simp only [search, hvalid, find, Bool.false_eq_true, if_false, Program.run_andThen, Program.ask, Program.run]

/-! ### The window -/

theorem fetchLimit_le_largestWindow (settings : SearchSettings) (o : SearchOptions) :
    fetchLimit settings o ≤ largestWindow := by
  have hmax : settings.maxResultsPerDomain.val ≤ 2 ^ 32 - 1 :=
    of_decide_eq_true (Bool.and_eq_true_iff.1 settings.maxResultsPerDomain.isIn).2
  simp only [fetchLimit, largestWindow, Numeral.Bounded.toNat]
  omega

theorem validate_eq_ok_iff {o : SearchOptions} :
    o.validate = .ok () ↔ 0 ≤ o.limit ∧ 0 ≤ o.offset ∧ Text.isBlank o.userId = false := by
  unfold SearchOptions.validate
  split
  · next h => simp [Int.not_le.2 h]
  · next hl =>
    split
    · next h => simp [Int.not_le.2 h]
    · next ho =>
      split
      · next h => simp [h]
      · next h => simp [Int.not_lt.1 hl, Int.not_lt.1 ho, h]

/-- The window reaches to the end of the page. -/
private theorem le_fetchLimit (settings : SearchSettings) {o : SearchOptions} (hvalid : o.validate = .ok ())
    (hwindow : o.offset + o.limit ≤ largestWindow) : o.offset.toNat + o.limit.toNat ≤ fetchLimit settings o := by
  obtain ⟨hlimit, hoffset, -⟩ := validate_eq_ok_iff.1 hvalid
  simp only [fetchLimit]
  omega

/-- When every domain answers a window by the front of a list that is in the order asked for, the page is the one that
is cut out of all the lists, sorted together. -/
theorem search_results_eq {service : SearchService} {store : Store σ} {o : SearchOptions}
    {all : Domain → List SearchResult} (hvalid : o.validate = .ok ())
    (hwindow : o.offset + o.limit ≤ largestWindow) (hsupplies : service.Supplies store o all)
    (hsorted : ∀ d ∈ o.scope.domains, (all d).Pairwise (inOrder o.sortBy o.sortOrder · ·)) (id : Uuid)
    (now : Instant) (s : σ) :
    ∃ response, ((service.search o false id now).run store s).1 = .ok response ∧
      response.results =
        ((sortResults o.sortBy o.sortOrder (o.scope.domains.flatMap all)).drop o.offset.toNat).take o.limit.toNat := by
  have hgather : ((service.gather (request service.settings o) o.scope.domains).run store s).1 =
      .ok (o.scope.domains.flatMap fun d => (all d).take (fetchLimit service.settings o)) :=
    gather_eq_of_forall (P := fun _ => True) _
      (fun d hd s _ => ⟨hsupplies d hd _ (fetchLimit_le_largestWindow service.settings o) s, trivial⟩)
      trivial
  refine ⟨_, by rw [search_eq_map_gather service store hvalid, hgather]; rfl, ?_⟩
  have hfront := Merging.take_mergeSort_flatMap (inOrder_trans o.sortBy o.sortOrder)
    (inOrder_total o.sortBy o.sortOrder) (le_fetchLimit service.settings hvalid hwindow) all hsorted
  simp only [page, sortResults, List.take_drop]
  rw [hfront]

/-! ### A page of two results -/

/-- A result with a score. -/
def scored (id : String) (score : Int) : SearchResult :=
  { id, content := "", timestamp := .epoch, score := .ofInt score, details := .user id "" false none }

/-- Asks for two results behind the first. -/
def pageOfTwo : SearchOptions := { query := "", limit := 2, offset := 1, userId := "u" }

/-- Asks for a word in a channel given by its name. -/
def channelQuery : SearchOptions := { query := "alpha in:general", userId := "u1" }

/-- A store that refuses every call, the history entry among them. -/
def refusing : Store Unit := fun _ s => (.error .cancelled, s)

private def scoredOf : Domain → List SearchResult
  | .messages => [scored "m" 3, scored "n" 1, scored "o" 1, scored "p" 1]
  | .users => [scored "u" 2, scored "v" 1]
  | _ => []

private def fixedService : SearchService where
  settings := { maxResultsPerDomain := ⟨1, by decide⟩ }
  searcher d r := .done (.ok ((scoredOf d).take r.limit))

/-- Five domains, of which two have results: the second page has the best user and a message that ties with others. -/
theorem search_results_eq_two :
    ∃ response, ((fixedService.search pageOfTwo false default .epoch).run refusing ()).1 = .ok response ∧
      response.results = [scored "u" 2, scored "n" 1] := by
  have hsupplies : fixedService.Supplies refusing pageOfTwo scoredOf := fun _ _ _ _ _ => rfl
  have hsorted : ∀ d ∈ pageOfTwo.scope.domains,
      (scoredOf d).Pairwise (inOrder pageOfTwo.sortBy pageOfTwo.sortOrder · ·) := by decide
  obtain ⟨response, hresponse, hresults⟩ :=
    search_results_eq rfl (by decide) hsupplies hsorted default .epoch ()
  refine ⟨response, hresponse, hresults.trans ?_⟩
  rw [sortResults_eq_insertionSort]
  rfl

end SearchService

end WorkspaceSearch
