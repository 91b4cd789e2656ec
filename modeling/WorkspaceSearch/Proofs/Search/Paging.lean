import Mathlib
import WorkspaceSearch.Proofs.Search.Growing
import WorkspaceSearch.Proofs.Search.Results
import WorkspaceSearch.Proofs.Search.Stretch
import WorkspaceSearch.Proofs.Search.Window

/-!
# Pages

The rows fetched for a page are as many as the page reaches to, so two pages of one search may be cut out of different
rankings (`ranking`).  Two pages behind each other are the page of both lengths exactly when both rankings begin with
the same first page.  When no domain fails on the wider window this is so exactly when no result that only the wider
window brings stands in front of the end of the first page (`pages_tile_iff`).
-/

namespace WorkspaceSearch

namespace SearchService

variable {σ : Type} (service : SearchService) (store : Store σ) (s : σ)

/-- The results that are found when some number of rows is fetched for every domain, sorted. -/
def ranking (o : SearchOptions) (window : Nat) : Except Mishap (List SearchResult) :=
  ((service.gather { request service.settings o with limit := window } o.scope.domains).run store s).1.map
    (sortResults o.sortBy o.sortOrder)

/-- The results on the page of a search. -/
def pageResults (o : SearchOptions) (id : Uuid) (now : Instant) : Except Mishap (List SearchResult) :=
  ((service.search o false id now).run store s).1.map SearchResponse.results

/-- The results on two pages of some lengths, the second behind the first. -/
def twoPages (o : SearchOptions) (a b : Int) (id₁ id₂ : Uuid) (now₁ now₂ : Instant) :
    Except Mishap (List SearchResult) := do
  let front ← service.pageResults store s { o with limit := a } id₁ now₁
  let back ← service.pageResults store s { o with offset := o.offset + a, limit := b } id₂ now₂
  pure (front ++ back)

variable {service store s}

/-- A page is a stretch of the ranking at its own window. -/
private theorem pageResults_eq {o : SearchOptions} (hvalid : o.validate = .ok ()) (id : Uuid) (now : Instant) :
    service.pageResults store s o id now =
      (service.ranking store s o (fetchLimit service.settings o)).map (stretch o.offset.toNat o.limit.toNat) := by
  have hrequest : { request service.settings o with limit := fetchLimit service.settings o } =
      request service.settings o := rfl
  rw [pageResults, search_eq_map_gather service store hvalid, ranking, hrequest]
  cases ((service.gather (request service.settings o) o.scope.domains).run store s).1 <;> rfl

private theorem degrade_error {reply : Except Mishap (List SearchResult)} {e : Mishap} (h : degrade reply = .error e) :
    e = .crashed := by
  rcases reply with (_ | _ | _) | _ <;> cases h
  rfl

/-- Gathering breaks off only when a searcher has crashed. -/
private theorem gather_error {r : Request} {ds : List Domain} {e : Mishap}
    (h : ((service.gather r ds).run store s).1 = .error e) : e = .crashed := by
  induction ds generalizing s with
  | nil => cases h
  | cons d ds ih =>
    simp only [gather, Program.run_andThen, Program.run] at h
    cases hd : degrade ((service.searcher d r).run store s).1 with
    | error e' =>
      rw [hd] at h
      cases h
      exact degrade_error hd
    | ok found =>
      cases hrest : ((service.gather r ds).run store ((service.searcher d r).run store s).2).1 with
      | error e' =>
        rw [hd, hrest] at h
        cases h
        exact ih hrest
      | ok later =>
        rw [hd, hrest] at h
        cases h

private theorem ranking_error {o : SearchOptions} {window : Nat} {e : Mishap}
    (h : service.ranking store s o window = .error e) : e = .crashed := by
  unfold ranking at h
  cases hg : ((service.gather { request service.settings o with limit := window } o.scope.domains).run store s).1 with
  | error e' =>
    rw [hg] at h
    cases h
    exact gather_error hg
  | ok found =>
    rw [hg] at h
    cases h

/-- A stretch of one ranking and the stretch behind it of another are one stretch of the latter exactly when both
rankings have the first stretch in common, or there is no second ranking at all. -/
private theorem stretches_iff {narrow wide : Except Mishap (List SearchResult)}
    (hnarrow : ∀ e, narrow = .error e → e = .crashed) (hwide : ∀ e, wide = .error e → e = .crashed)
    (start m n : Nat) :
    (do let front ← narrow.map (stretch start m)
        let back ← wide.map (stretch (start + m) n)
        pure (front ++ back)) = wide.map (stretch start (m + n)) ↔
      wide = .error .crashed ∨ narrow.map (stretch start m) = wide.map (stretch start m) := by
  cases wide with
  | error e =>
    obtain rfl := hwide e rfl
    cases narrow with
    | error e =>
      obtain rfl := hnarrow e rfl
      exact iff_of_true rfl (.inl rfl)
    | ok narrow => exact iff_of_true rfl (.inl rfl)
  | ok wide =>
    cases narrow with
    | error e => exact iff_of_false nofun (by rintro (h | h) <;> cases h)
    | ok narrow =>
      -- both pages together are the whole page with the first page of the wide ranking put in
      have hsplit := stretch_append start m n wide
      constructor
      · intro h
        have heq := Except.ok.inj h
        rw [← hsplit] at heq
        exact .inr (congrArg Except.ok (List.append_cancel_right heq))
      · rintro (h | h)
        · cases h
        · have heq : stretch start m narrow = stretch start m wide := Except.ok.inj h
          rw [← heq] at hsplit
          exact congrArg Except.ok hsplit

/-- The window of the last of two pages behind each other is the window of the page of both lengths. -/
private theorem fetchLimit_back (settings : SearchSettings) (o : SearchOptions) (a b : Int) :
    fetchLimit settings { o with offset := o.offset + a, limit := b } =
      fetchLimit settings { o with limit := a + b } := by
  simp only [fetchLimit, Int.add_assoc]

section

variable {o : SearchOptions} (hoffset : 0 ≤ o.offset) (huser : Text.isBlank o.userId = false) {a b : Int}
  (ha : 0 ≤ a) (hb : 0 ≤ b)

include hoffset huser ha

private theorem front_eq (id : Uuid) (now : Instant) :
    service.pageResults store s { o with limit := a } id now =
      (service.ranking store s o (fetchLimit service.settings { o with limit := a })).map
        (stretch o.offset.toNat a.toNat) :=
  pageResults_eq (o := { o with limit := a }) (validate_eq_ok_iff.2 ⟨ha, hoffset, huser⟩) id now

include hb

private theorem back_eq (id : Uuid) (now : Instant) :
    service.pageResults store s { o with offset := o.offset + a, limit := b } id now =
      (service.ranking store s o (fetchLimit service.settings { o with limit := a + b })).map
        (stretch (o.offset.toNat + a.toNat) b.toNat) := by
  have hvalid : SearchOptions.validate { o with offset := o.offset + a, limit := b } = .ok () :=
    validate_eq_ok_iff.2 ⟨hb, Int.add_nonneg hoffset ha, huser⟩
  rw [pageResults_eq hvalid, fetchLimit_back, ← Int.toNat_add hoffset ha]
  rfl

private theorem twoPages_eq_iff (id₁ id₂ id₃ : Uuid) (now₁ now₂ now₃ : Instant) :
    service.twoPages store s o a b id₁ id₂ now₁ now₂ = service.pageResults store s { o with limit := a + b } id₃ now₃ ↔
      service.ranking store s o (fetchLimit service.settings { o with limit := a + b }) = .error .crashed ∨
        (service.ranking store s o (fetchLimit service.settings { o with limit := a })).map
            (stretch o.offset.toNat a.toNat) =
          (service.ranking store s o (fetchLimit service.settings { o with limit := a + b })).map
            (stretch o.offset.toNat a.toNat) := by
  rw [twoPages, front_eq hoffset huser ha, back_eq hoffset huser ha hb, front_eq hoffset huser (Int.add_nonneg ha hb),
    Int.toNat_add ha hb]
  exact stretches_iff (fun _ => ranking_error) (fun _ => ranking_error) _ _ _

/-- Pages tile as long as they do not reach beyond the rows that are fetched for every page. -/
theorem twoPages_eq_of_le (hmax : o.offset + a + b ≤ service.settings.maxResultsPerDomain.val) (id₁ id₂ id₃ : Uuid)
    (now₁ now₂ now₃ : Instant) :
    service.twoPages store s o a b id₁ id₂ now₁ now₂ =
      service.pageResults store s { o with limit := a + b } id₃ now₃ := by
  have hwindow : fetchLimit service.settings { o with limit := a } =
      fetchLimit service.settings { o with limit := a + b } := by
    simp only [fetchLimit, Numeral.Bounded.toNat]
    omega
  rw [twoPages_eq_iff hoffset huser ha hb, hwindow]
  exact .inr rfl

end

/-! ### Late rows -/

variable {db : Database} {settings : SearchSettings} {o : SearchOptions}

private theorem fetchLimit_mono (settings : SearchSettings) {o o' : SearchOptions}
    (h : o.offset + o.limit ≤ o'.offset + o'.limit) : fetchLimit settings o ≤ fetchLimit settings o' := by
  simp only [fetchLimit]
  omega

/-- The ranking is that of what is found of the domains. -/
private theorem ranking_of_found {window : Nat} {found : Domain → List SearchResult}
    (h : ∀ d ∈ o.scope.domains, { request settings o with limit := window }.foundOn db d = .ok (found d)) :
    ranking { settings } Database.answer db o window =
      .ok (sortResults o.sortBy o.sortOrder (o.scope.domains.flatMap found)) := by
  have hgather : ((gather { settings } { request settings o with limit := window } o.scope.domains).run
      Database.answer db).1 = .ok (o.scope.domains.flatMap found) := by
    refine gather_eq_of_forall (P := (· = db)) found (fun d hd s hs => ?_) rfl
    subst hs
    exact ⟨(Request.run_searcher _ _ d).trans (h d hd), Request.run_searcher_snd _ _ d⟩
  rw [ranking, hgather]
  rfl

private theorem nodup_flatMap_found (hkeyed : db.Keyed) {r : Request} {found : Domain → List SearchResult}
    {ds : List Domain} (hds : ds.Nodup) (h : ∀ d ∈ ds, r.foundOn db d = .ok (found d)) :
    (ds.flatMap found).Nodup := by
  have hdistinct : ∀ d ∈ ds, Distinct d (found d) := fun d hd => Request.foundOn_distinct hkeyed (h d hd)
  refine List.nodup_flatMap.2 ⟨fun d hd => (hdistinct d hd).ids.of_map _, ?_⟩
  -- results of two domains differ in their domain
  refine hds.imp_of_mem fun {d e} hd he hne x hx hy => ?_
  exact hne (((hdistinct d hd).domain x hx).symm.trans ((hdistinct e he).domain x hy))

/-- What only the wider of two windows brings is put between what the narrower one brings. -/
private theorem exists_rankings (hkeyed : db.Keyed) {w w' : Nat} (hw : w ≤ w')
    (h : ∀ d ∈ o.scope.domains, ∃ found, { request settings o with limit := w' }.foundOn db d = .ok found) :
    ∃ narrow wide, ranking { settings } Database.answer db o w = .ok narrow ∧
      ranking { settings } Database.answer db o w' = .ok wide ∧ narrow.Sublist wide ∧ wide.Nodup := by
  choose! all hall using h
  have hbegins : ∀ d ∈ o.scope.domains, ∃ front,
      { request settings o with limit := w }.foundOn db d = .ok front ∧ front <+: all d :=
    fun d hd => Request.foundOn_begins (request settings o) db hw d _ (hall d hd)
  choose! front hfront hbegin using hbegins
  have hsublist := List.Sublist.flatMap_right o.scope.domains fun d hd => (hbegin d hd).sublist
  have hnodup := nodup_flatMap_found hkeyed (o.scope.nodup_domains) hall
  exact ⟨_, _, ranking_of_found hfront, ranking_of_found hall,
    Merging.mergeSort_sublist (inOrder_trans _ _) (inOrder_total _ _) hsublist,
    (List.mergeSort_perm _ _).nodup_iff.2 hnodup⟩

/-- Two pages of a search of a database are the page of both lengths exactly when both windows bring the same first
page, or the wider one makes the search break down.  When no domain fails on the wider window, they are exactly when the
first page is empty or all results up to its end come with the narrower window already. -/
theorem pages_tile_iff (hkeyed : db.Keyed) (settings : SearchSettings) (hoffset : 0 ≤ o.offset)
    (huser : Text.isBlank o.userId = false) {a b : Int} (ha : 0 ≤ a) (hb : 0 ≤ b) (id₁ id₂ id₃ : Uuid)
    (now₁ now₂ now₃ : Instant) :
    (twoPages { settings } Database.answer db o a b id₁ id₂ now₁ now₂ =
        pageResults { settings } Database.answer db { o with limit := a + b } id₃ now₃ ↔
      ranking { settings } Database.answer db o (fetchLimit settings { o with limit := a + b }) = .error .crashed ∨
        (ranking { settings } Database.answer db o (fetchLimit settings { o with limit := a })).map
            (stretch o.offset.toNat a.toNat) =
          (ranking { settings } Database.answer db o (fetchLimit settings { o with limit := a + b })).map
            (stretch o.offset.toNat a.toNat)) ∧
    ((∀ d ∈ o.scope.domains, ∃ found, { request settings o with
        limit := fetchLimit settings { o with limit := a + b } }.foundOn db d = .ok found) →
      ∃ narrow wide,
        ranking { settings } Database.answer db o (fetchLimit settings { o with limit := a }) = .ok narrow ∧
        ranking { settings } Database.answer db o (fetchLimit settings { o with limit := a + b }) = .ok wide ∧
        narrow.Sublist wide ∧
        (twoPages { settings } Database.answer db o a b id₁ id₂ now₁ now₂ =
            pageResults { settings } Database.answer db { o with limit := a + b } id₃ now₃ ↔
          a = 0 ∨ wide.length ≤ o.offset.toNat ∨
            ∀ result ∈ wide.take (o.offset.toNat + a.toNat), result ∈ narrow)) := by
  have hwindow : fetchLimit settings { o with limit := a } ≤ fetchLimit settings { o with limit := a + b } :=
    fetchLimit_mono settings (by simp only; omega)
  refine ⟨twoPages_eq_iff hoffset huser ha hb id₁ id₂ id₃ now₁ now₂ now₃, fun h => ?_⟩
  obtain ⟨narrow, wide, hnarrow, hwide, hsublist, hnodup⟩ := exists_rankings hkeyed hwindow h
  refine ⟨narrow, wide, hnarrow, hwide, hsublist, ?_⟩
  -- both rankings are there, so the search does not break down
  have hempty : a = 0 ↔ a.toNat = 0 := by omega
  rw [twoPages_eq_iff hoffset huser ha hb id₁ id₂ id₃ now₁ now₂ now₃, hnarrow, hwide, hempty,
    ← stretch_eq_iff hsublist hnodup]
  constructor
  · rintro (hcrashed | heq)
    · cases hcrashed
    · exact Except.ok.inj heq
  · intro heq
    exact .inr (congrArg Except.ok heq)

end SearchService

/-! ### A row that comes late -/

/-- Two messages: the older one is the better answer to the query. -/
private def lateDatabase : Database where
  users := ⟨[⟨1, ⟨"u1", "ann", "", "", "", none, .integer 0, .text "2024-01-01 00:00:00"⟩⟩]⟩
  channels := ⟨[⟨1, ⟨"c1", "general", none, none, "public", .text "2024-01-01 00:00:00"⟩⟩]⟩
  messages := ⟨[⟨1, ⟨"m1", "c1", "u1", "alpha", none, "text", none, .text "2024-01-01 00:00:00"⟩⟩,
    ⟨2, ⟨"m2", "c1", "u1", "some alpha", none, "text", none, .text "2024-01-02 00:00:00"⟩⟩]⟩

private theorem keyed_lateDatabase : lateDatabase.Keyed :=
  ⟨by decide, by decide, by decide, by decide, by decide, by decide, by decide⟩

private def lateOptions : SearchOptions := { query := "alpha", scope := .only .messages, userId := "u1" }

private theorem holds_one : Numeral.Range.natural32.holds 1 = true := by decide

private def lateService : SearchService := { settings := { maxResultsPerDomain := ⟨1, holds_one⟩ } }

private def lateRequest (window : Nat) : Request := { base := "alpha", userId := "u1", limit := window }

private theorem ofText_alpha : ParsedQuery.ofText "alpha" = { base := "alpha" } := by decide_cbv

private theorem late_ranking_eq (window : Nat) :
    lateService.ranking Database.answer lateDatabase lateOptions window =
      (SearchService.degrade ((lateRequest window).messagesOn lateDatabase)).map
        (SearchService.sortResults .relevance .descending) := by
  have hrequest : { SearchService.request lateService.settings lateOptions with limit := window } =
      lateRequest window := by
    simp only [SearchService.request, lateOptions, ofText_alpha]
    rfl
  have hcriteria : (!(lateRequest window).hasCriteria || (lateRequest window).userChannelIds = some []) = false := by
    show (!(lateRequest 0).hasCriteria || (lateRequest 0).userChannelIds = some []) = false
    decide_cbv
  have hrun := (lateRequest window).run_searchMessages lateDatabase
  rw [hcriteria] at hrun
  have hgather := SearchService.gather_singleton lateService Database.answer (lateRequest window) .messages lateDatabase
  rw [SearchService.ranking, hrequest]
  exact congrArg _ (hgather.trans (congrArg SearchService.degrade hrun))

private def idsOf (rs : List SearchResult) : List String := rs.map (·.id)

private theorem late_ranking_ids {window : Nat} {ids : List String}
    (h : ((((lateRequest window).messagesOn lateDatabase).map (SearchService.sortResults .relevance .descending)).map
      idsOf).toOption = some ids) :
    (lateService.ranking Database.answer lateDatabase lateOptions window).map idsOf = .ok ids := by
  rw [late_ranking_eq]
  cases hfound : (lateRequest window).messagesOn lateDatabase with
  | error e => rw [hfound] at h; cases h
  | ok found =>
    rw [hfound] at h
    exact congrArg Except.ok (Option.some.inj h)

private theorem late_ids :
    (lateService.ranking Database.answer lateDatabase lateOptions 1).map idsOf = .ok ["m2"] ∧
      (lateService.ranking Database.answer lateDatabase lateOptions 2).map idsOf = .ok ["m1", "m2"] := by
  have hsort := SearchService.sortResults_eq_insertionSort .relevance .descending
  refine ⟨late_ranking_ids ?_, late_ranking_ids ?_⟩
  all_goals
    simp only [Request.messagesOn, Database.searchMessages_eq, Database.foundMessages_eq_insertionSort, funext hsort]
    decide +kernel

private theorem ids_stretch {x : Except Mishap (List SearchResult)} {ids : List String} (h : x.map idsOf = .ok ids)
    (start length : Nat) :
    (x.map (stretch start length)).map idsOf = .ok ((ids.drop start).take length) := by
  cases x with
  | error e => cases h
  | ok rs =>
    have hids : idsOf rs = ids := Except.ok.inj h
    rw [← hids]
    simp [Except.map, stretch, idsOf, List.map_take, List.map_drop]

/-- The wider window brings another first page, so the two pages of one row are not the page of both. -/
theorem pages_tile_iff_late_row :
    lateService.twoPages Database.answer lateDatabase lateOptions 1 1 default default .epoch .epoch ≠
      lateService.pageResults Database.answer lateDatabase { lateOptions with limit := 1 + 1 } default .epoch := by
  have htile := (SearchService.pages_tile_iff (o := lateOptions) keyed_lateDatabase lateService.settings (by decide) rfl
    (a := 1) (b := 1) (by decide) (by decide) default default default .epoch .epoch .epoch).1
  refine fun heq => ?_
  rcases htile.1 heq with h | h
  · have hids := late_ids.2
    rw [show lateService.ranking Database.answer lateDatabase lateOptions 2 = _ from h] at hids
    cases hids
  · have hids := congrArg (Except.map idsOf) h
    have hone := ids_stretch late_ids.1 0 1
    have htwo := ids_stretch late_ids.2 0 1
    have heq := hone.symm.trans (hids.trans htwo)
    revert heq
    decide

/-- With pages of one row a user sees the newer message twice and the better one never. -/
theorem second_page_repeats_first :
    (lateService.pageResults Database.answer lateDatabase { lateOptions with limit := 1 } default .epoch).map idsOf =
        .ok ["m2"] ∧
      (lateService.pageResults Database.answer lateDatabase { lateOptions with offset := 1, limit := 1 } default
        .epoch).map idsOf = .ok ["m2"] ∧
      (lateService.pageResults Database.answer lateDatabase { lateOptions with limit := 2 } default .epoch).map idsOf =
        .ok ["m1", "m2"] := by
  refine ⟨?_, ?_, ?_⟩
  · rw [SearchService.pageResults_eq rfl]
    exact ids_stretch late_ids.1 0 1
  · rw [SearchService.pageResults_eq rfl]
    exact ids_stretch late_ids.2 1 1
  · rw [SearchService.pageResults_eq rfl]
    exact ids_stretch late_ids.2 0 2

end WorkspaceSearch
