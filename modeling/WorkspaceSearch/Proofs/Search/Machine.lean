import WorkspaceSearch.Proofs.Relevance.Context
import WorkspaceSearch.Proofs.Search.Window
import WorkspaceSearch.Search.Machine

/-!
# Searches within machine integers

A search that counts in machine integers asks for the same rows and cuts out the same page as one that counts without
bounds, for all options that are valid (`machineRequest_eq`, `machinePage_eq`).  The window around a match is the same
as well, but its end can be out of range: then there is no window, and the search breaks down (`withinMachine`,
`search_out_of_machine`).  Every other window shows the match, unless too many dotted capitals, which have two
characters in lower case, put it off its place (`match_within_around`).
-/

namespace WorkspaceSearch

namespace Chars

/-- A piece of the lower case stands within the lower case of the characters that reach around it. -/
private theorem infix_lowerWithin {front piece back : List Char} {place length : Nat}
    (hfirst : front.length + front.count dottedCapitalI ≤ place)
    (hlast : place + length ≤
      front.length + front.count dottedCapitalI + (piece.length + piece.count dottedCapitalI)) :
    ((lower (front ++ (piece ++ back))).drop place).take length <:+: lowerWithin front.reverse piece back := by
  rw [← length_lowerWithin_eq [] front (piece ++ back)] at hfirst hlast
  rw [← length_lowerWithin_eq front.reverse piece back] at hlast
  rw [lower_append, lowerFrom_append, List.drop_append, List.drop_eq_nil_of_le hfirst, List.nil_append,
    List.drop_append_of_le_length (by omega), List.take_append_of_le_length (by rw [List.length_drop]; omega)]
  exact (List.take_prefix _ _).isInfix.trans (List.drop_suffix _ _).isInfix

end Chars

namespace Relevance

open Chars (lower lowerWithin trim dottedCapitalI)

variable {content query : String} {place length radius : Nat}

/-! ### What a window shows -/

private theorem around_split (text : List Char) (place length radius : Nat) :
    text = text.take (place - radius) ++ (around text place length radius ++ text.drop (place + length + radius)) := by
  have hfront : (text.take (place + length + radius)).take (place - radius) = text.take (place - radius) := by
    rw [List.take_take, Nat.min_eq_left (by omega)]
  have hpiece : around text place length radius = (text.take (place + length + radius)).drop (place - radius) := by
    rw [around, Nat.min_comm, ← List.take_eq_take_min]
  rw [← List.append_assoc, hpiece, ← hfront, List.take_append_drop, List.take_append_drop]

/-- The match stands within the lower case of what is shown around it, if the radius leaves room for the characters by
which the lower case is longer. -/
theorem match_within_around {text : List Char} (hend : place + length ≤ (lower text).length)
    (hroom : text.count dottedCapitalI ≤ radius) :
    ((lower text).drop place).take length <:+:
      lowerWithin (text.take (place - radius)).reverse (around text place length radius)
        (text.drop (place + length + radius)) := by
  have hsplit := around_split text place length radius
  have hfront : (text.take (place - radius)).length ≤ place - radius := List.length_take_le _ _
  have hback : (text.drop (place + length + radius)).length = text.length - (place + length + radius) := List.length_drop
  rw [Chars.length_lower_eq] at hend
  generalize text.take (place - radius) = front at hsplit hfront ⊢
  generalize around text place length radius = piece at hsplit ⊢
  generalize text.drop (place + length + radius) = back at hsplit hback ⊢
  subst hsplit
  have hfrontCount : front.count dottedCapitalI ≤ front.length := List.count_le_length
  have hbackCount : back.count dottedCapitalI ≤ back.length := List.count_le_length
  simp only [List.length_append, List.count_append] at hend hroom hback
  exact Chars.infix_lowerWithin (by omega) (by omega)

/-- What is shown of a content around the match of a query. -/
structure Shows (content query : String) (radius place length : Nat) (shown : String) : Prop where
  matched : Matched content query place length
  inRange : place + length + radius < wordSize
  shown_eq : shown = .ofList ((if radius < place then dots else []) ++ around content.toList place length radius ++
    (if place + length + radius < content.toList.length then dots else []))
  /-- The whole match is shown, if the radius leaves room for the characters by which the lower case is longer. -/
  whole : content.toList.count dottedCapitalI ≤ radius →
    ((lower content.toList).drop place).take length <:+:
      lowerWithin (content.toList.take (place - radius)).reverse (around content.toList place length radius)
        (content.toList.drop (place + length + radius))

/-- The match of a blank query, or in an empty content, is the empty one in front. -/
private theorem Matched.end_eq_zero (h : Matched content query place length)
    (hempty : content.toList = [] ∨ trim query.toList = []) : place + length = 0 := by
  rcases hempty with hcontent | hquery
  · have hend := h.end_le
    rw [hcontent] at hend
    exact Nat.le_zero.1 hend
  · have hsought : sought query = [] := by
      rw [sought, hquery]
      rfl
    have hfirst := h.first (by rw [hsought]; exact List.nil_infix)
    rw [hsought] at hfirst
    obtain rfl := hfirst.unique (Chars.firstAt_zero_iff.2 List.nil_prefix)
    cases h with
    | whole _ => rw [hsought, List.length_nil]
    | word hlacks _ _ _ => exact absurd (hsought ▸ List.nil_infix) hlacks

/-- There is no window exactly when the end of the one around the match is out of range. -/
private theorem context_eq_none_iff (hradius : radius < wordSize) : context content query radius = none ↔
    ∃ place length, Matched content query place length ∧ wordSize ≤ place + length + radius := by
  by_cases hempty : content.toList = [] ∨ trim query.toList = []
  · -- only the empty match is there, and it ends in front
    have hsome : context content query radius = some none := if_pos hempty
    refine iff_of_false (by simp [hsome]) ?_
    rintro ⟨place, length, hmatched, hend⟩
    rw [hmatched.end_eq_zero hempty, Nat.zero_add] at hend
    exact hend.not_gt hradius
  · have hquery := (not_or.1 hempty).2
    simp only [context, if_neg hempty]
    constructor
    · intro h
      split at h
      · cases h
      · next place length hlocate =>
        rw [Option.map_eq_none_iff, windowAround] at h
        split at h
        · next hend => exact ⟨place, length, matched_of_locateQuery hquery hlocate, hend⟩
        · cases h
    · rintro ⟨place, length, hmatched, hend⟩
      rw [hmatched.locateQuery_eq hquery]
      simp only [windowAround, if_pos hend, Option.map_none]

private theorem window_eq {text : List Char} (htext : text ≠ []) (place length radius : Nat) :
    window text (min (place - radius) text.length) (min (place + length + radius) text.length) =
      (if radius < place then dots else []) ++ around text place length radius ++
        (if place + length + radius < text.length then dots else []) := by
  have hpositive := List.length_pos_iff.2 htext
  have hfront : 0 < min (place - radius) text.length ↔ radius < place := by omega
  have hback : min (place + length + radius) text.length < text.length ↔ place + length + radius < text.length := by
    omega
  have hpiece : (text.take (min (place + length + radius) text.length)).drop (min (place - radius) text.length) =
      around text place length radius := by
    rw [around, Nat.min_comm text.length]
    have htake := List.length_take_le (min (place + length + radius) text.length) text
    by_cases hinside : place - radius ≤ text.length
    · rw [Nat.min_eq_left hinside]
    · rw [List.drop_eq_nil_of_le (by omega), List.drop_eq_nil_of_le (by omega)]
  simp only [window, hfront, hback, hpiece, dots]

/-- A window that there is stands around the match, and every match that has room for one has a window. -/
private theorem context_eq_some_iff {shown : String} : context content query radius = some (some shown) ↔
    content ≠ "" ∧ Text.isBlank query = false ∧ ∃ place length, Shows content query radius place length shown := by
  have hempty : content.toList = [] ↔ content = "" := String.toList_eq_nil_iff
  have hblank : trim query.toList = [] ↔ Text.isBlank query = true := by
    rw [Chars.trim_eq_nil_iff, Chars.Blank, ← Text.isBlank_iff]
  rw [← Bool.not_eq_true, Ne, ← hempty, ← hblank, ← and_assoc, ← not_or]
  constructor
  · intro h
    simp only [context] at h
    split at h
    · cases h
    · next hfull =>
      split at h
      · cases h
      · next place length hlocate =>
        have hmatched := matched_of_locateQuery (not_or.1 hfull).2 hlocate
        rw [windowAround] at h
        split at h
        · cases h
        · next hend =>
          refine ⟨hfull, place, length, hmatched, Nat.not_le.1 hend, ?_, match_within_around hmatched.end_le⟩
          rw [← Option.some.inj (Option.some.inj h), window_eq (not_or.1 hfull).1]
  · rintro ⟨hfull, place, length, hshows⟩
    obtain ⟨hcontent, hquery⟩ := not_or.1 hfull
    simp only [context, if_neg hfull, hshows.matched.locateQuery_eq hquery, windowAround,
      if_neg (Nat.not_le.2 hshows.inRange), window_eq hcontent, hshows.shown_eq, Option.map_some]

/-- Without a radius, three dotted capitals cost the match three of its characters. -/
example : context "İİİneedle" "needle" 0 = some (some "...dle") := by decide +kernel

/-! ### The window in machine integers -/

private theorem machineWindow_eq {text : List Char} (htext : text.length < wordSize) (offset length radius : UInt64) :
    machineWindow text offset length radius = windowAround text offset.toNat length.toNat radius.toNat := by
  have hsize : wordSize = UInt64.size := rfl
  have hlength : (UInt64.ofNat text.length).toNat = text.length := UInt64.toNat_ofNat_of_lt' htext
  rw [machineWindow, windowAround, hsize]
  cases hmatch : Machine.add? offset length with
  | none =>
    have hout := Machine.add?_eq_none_iff.1 hmatch
    rw [if_pos (by omega)]
    rfl
  | some matchEnd =>
    have hmatchEnd := Machine.toNat_of_add? hmatch
    cases hlast : Machine.add? matchEnd radius with
    | none =>
      have hout := Machine.add?_eq_none_iff.1 hlast
      rw [if_pos (by omega)]
      simp [hlast]
    | some last =>
      have hlastEnd := Machine.toNat_of_add? hlast
      have hlt := last.toNat_lt_size
      have hpiece : min (Machine.subSaturating offset radius) (.ofNat text.length) ≤ min last (.ofNat text.length) ∧
          min last (.ofNat text.length) ≤ .ofNat text.length := by
        simp only [UInt64.le_iff_toNat_le, Machine.toNat_min, Machine.toNat_subSaturating, hlength]
        omega
      rw [if_neg (by omega)]
      simp only [hlast, Option.bind_eq_bind, Option.bind_some, if_pos hpiece, Machine.toNat_min,
        Machine.toNat_subSaturating, hlength, hlastEnd, hmatchEnd]

/-- A content whose lower case fits into the memory of a machine has the same window in machine integers. -/
private theorem machineContext_eq (hmemory : (lower content.toList).length < wordSize) (radius : UInt64) :
    machineContext content query radius = context content query radius.toNat := by
  have hsize : wordSize = UInt64.size := rfl
  have htext : content.toList.length < wordSize := by
    have hlower := Chars.length_lower_eq content.toList
    omega
  by_cases hempty : content.toList = [] ∨ trim query.toList = []
  · simp only [machineContext, context, if_pos hempty]
  · simp only [machineContext, context, if_neg hempty]
    cases hlocate : locateQuery (trim query.toList) (lower content.toList) with
    | none => rfl
    | some found =>
      obtain ⟨place, length⟩ := found
      have hend := (matched_of_locateQuery (not_or.1 hempty).2 hlocate).end_le
      have hplace : (UInt64.ofNat place).toNat = place := UInt64.toNat_ofNat_of_lt' (by omega)
      have hlength : (UInt64.ofNat length).toNat = length := UInt64.toNat_ofNat_of_lt' (by omega)
      simp only [machineWindow_eq htext, hplace, hlength]

/-- The window of a content in machine integers. -/
structure WithinMachine (content query : String) (radius : UInt64) : Prop where
  context_eq : machineContext content query radius = context content query radius.toNat
  /-- A window is missing when its end is out of range. -/
  none_iff : context content query radius.toNat = none ↔
    ∃ place length, Matched content query place length ∧ wordSize ≤ place + length + radius.toNat
  /-- No window is missing when the radius has room behind the content. -/
  ne_none : (lower content.toList).length + radius.toNat < wordSize → context content query radius.toNat ≠ none
  some_iff : ∀ shown, context content query radius.toNat = some (some shown) ↔
    content ≠ "" ∧ Text.isBlank query = false ∧ ∃ place length, Shows content query radius.toNat place length shown

theorem withinMachine (hmemory : (lower content.toList).length < wordSize) (radius : UInt64) :
    WithinMachine content query radius where
  context_eq := machineContext_eq hmemory radius
  none_iff := context_eq_none_iff radius.toNat_lt_size
  ne_none := by
    intro hroom hcontext
    obtain ⟨place, length, hmatched, hend⟩ := (context_eq_none_iff radius.toNat_lt_size).1 hcontext
    have hinside := hmatched.end_le
    omega
  some_iff _ := context_eq_some_iff

end Relevance

namespace SearchService

open Chars (lower)
open Relevance (WithinMachine wordSize)

variable {settings : SearchSettings} {o : SearchOptions}

/-! ### The rows to fetch and the page -/

/-- The settings of a search are machine integers. -/
private theorem toNat_settings (settings : SearchSettings) :
    (UInt32.ofNat settings.maxResultsPerDomain.toNat).toNat = settings.maxResultsPerDomain.toNat ∧
      (UInt64.ofNat settings.contextRadius.toNat).toNat = settings.contextRadius.toNat := by
  have hrows : settings.maxResultsPerDomain.val ≤ 4294967295 :=
    of_decide_eq_true (Bool.and_eq_true_iff.1 settings.maxResultsPerDomain.isIn).2
  have hradius : settings.contextRadius.val ≤ 18446744073709551615 :=
    of_decide_eq_true (Bool.and_eq_true_iff.1 settings.contextRadius.isIn).2
  have hsize : UInt32.size = 4294967296 := rfl
  have hsize' : UInt64.size = 18446744073709551616 := rfl
  refine ⟨UInt32.toNat_ofNat_of_lt' ?_, UInt64.toNat_ofNat_of_lt' ?_⟩
  · rw [Numeral.Bounded.toNat]
    omega
  · rw [Numeral.Bounded.toNat]
    omega

section

variable (hvalid : o.validate = .ok ()) (hoffset : o.offset ≤ Int64.maxValue.toInt)
  (hlimit : o.limit ≤ Int64.maxValue.toInt)

include hvalid hoffset hlimit

/-- The offset and the limit of valid options are machine integers. -/
private theorem toInt_page : (0 ≤ o.offset ∧ (Int64.ofInt o.offset).toInt = o.offset) ∧
    0 ≤ o.limit ∧ (Int64.ofInt o.limit).toInt = o.limit := by
  obtain ⟨hlimit', hoffset', -⟩ := validate_eq_ok_iff.1 hvalid
  have hmax : Int64.maxValue.toInt = 9223372036854775807 := rfl
  rw [hmax] at hoffset hlimit
  exact ⟨⟨hoffset', Int64.toInt_ofInt_of_le (by omega) (by omega)⟩, hlimit',
    Int64.toInt_ofInt_of_le (by omega) (by omega)⟩

private theorem toNat_machineFetchLimit : (machineFetchLimit settings o).toNat = fetchLimit settings o := by
  obtain ⟨⟨hoffset', hoffsetInt⟩, hlimit', hlimitInt⟩ := toInt_page hvalid hoffset hlimit
  have hmin : Int64.minValue.toInt = -9223372036854775808 := rfl
  have hmax : Int64.maxValue.toInt = 9223372036854775807 := rfl
  have hlargest : largestWindow = 4294967295 := rfl
  have hwindow := Machine.toInt_addSaturating (.ofInt o.offset) (.ofInt o.limit)
  rw [hoffsetInt, hlimitInt, hmin, hmax] at hwindow
  have hnonneg : 0 ≤ (Machine.addSaturating (.ofInt o.offset) (.ofInt o.limit)).toInt := by omega
  have hpage : min (Machine.addSaturating (.ofInt o.offset) (.ofInt o.limit)).toInt.toNat 4294967295 =
      min (o.offset + o.limit).toNat 4294967295 := by omega
  rw [machineFetchLimit, Machine.toNat_max, Machine.toNat_getD_natural32? hnonneg, hpage, (toNat_settings settings).1,
    fetchLimit, hlargest]

theorem machinePage_eq (merged : List SearchResult) : machinePage o merged = page o merged := by
  obtain ⟨⟨hoffset', hoffsetInt⟩, hlimit', hlimitInt⟩ := toInt_page hvalid hoffset hlimit
  have hskipped : (Int64.ofInt o.offset).toUInt64.toNat = o.offset.toNat := by
    rw [Machine.toNat_toUInt64 (hoffsetInt.symm ▸ hoffset'), hoffsetInt]
  have htaken : (Int64.ofInt o.limit).toUInt64.toNat = o.limit.toNat := by
    rw [Machine.toNat_toUInt64 (hlimitInt.symm ▸ hlimit'), hlimitInt]
  rw [machinePage, page, hskipped, htaken]

theorem machineRequest_eq : machineRequest settings o = request settings o := by
  have hrows : (machineFetchLimit settings o).toNat = fetchLimit settings o :=
    toNat_machineFetchLimit hvalid hoffset hlimit
  rw [machineRequest, hrows, (toNat_settings settings).2, request]

/-- What a search computes in machine integers, for all settings and all valid options.

* Every domain is asked for as many rows as the page reaches to, or as the settings ask for if that is more, and for no
  more than 32 bits can say; the rest of the request is the same.
* The page is cut out from the offset on, as long as the limit.
* The window around a match is the same.  There is none exactly when its end takes more than 64 bits, which needs a
  radius that reaches beyond them from the end of the content.  Any other window shows the match. -/
theorem search_within_machine :
    ((machineFetchLimit settings o).toNat : Int) =
        min (max (o.offset + o.limit) settings.maxResultsPerDomain.val) 4294967295 ∧
      machineRequest settings o = request settings o ∧
      (∀ merged, machinePage o merged = page o merged) ∧
      (UInt64.ofNat settings.contextRadius.toNat).toNat = settings.contextRadius.toNat ∧
      ∀ content query, (lower content.toList).length < wordSize →
        WithinMachine content query (.ofNat settings.contextRadius.toNat) := by
  refine ⟨?_, machineRequest_eq hvalid hoffset hlimit, machinePage_eq hvalid hoffset hlimit,
    (toNat_settings settings).2, fun content query hmemory => Relevance.withinMachine hmemory _⟩
  obtain ⟨hlimit', hoffset', -⟩ := validate_eq_ok_iff.1 hvalid
  have hlargest : largestWindow = 4294967295 := rfl
  have hrows := fetchLimit_le_largestWindow settings o
  rw [toNat_machineFetchLimit hvalid hoffset hlimit]
  simp only [fetchLimit, hlargest, Numeral.Bounded.toNat] at hrows ⊢
  omega

end

private def lastPage : SearchOptions where
  query := "needle"
  scope := .only .messages
  limit := 9223372036854775807
  offset := 9223372036854775807
  userId := "ann"

private def nearSighted : SearchSettings := { contextRadius := ⟨3, by decide⟩ }

/-- The last page there can be, and a window behind a dotted capital, which has two characters in lower case. -/
theorem search_within_machine_last_page :
    lastPage.validate = .ok () ∧ lastPage.offset ≤ Int64.maxValue.toInt ∧ lastPage.limit ≤ Int64.maxValue.toInt ∧
      ((machineFetchLimit nearSighted lastPage).toNat : Int) = 4294967295 ∧
      machineRequest nearSighted lastPage = request nearSighted lastPage ∧
      (lower "İ: Needle and hay".toList).length < wordSize ∧
      Relevance.machineContext "İ: Needle and hay" "needle" 3 = some (some "...: Needle and...") ∧
      ∃ place length, Relevance.Shows "İ: Needle and hay" "needle" 3 place length "...: Needle and..." := by
  have hvalid : lastPage.validate = .ok () := by decide
  have hoffset : lastPage.offset ≤ Int64.maxValue.toInt := by decide
  have hlimit : lastPage.limit ≤ Int64.maxValue.toInt := by decide
  have hmemory : (lower "İ: Needle and hay".toList).length < wordSize := by decide +kernel
  have hshown : Relevance.context "İ: Needle and hay" "needle" 3 = some (some "...: Needle and...") := by
    decide +kernel
  obtain ⟨hrows, hrequest, -, -, hwindow⟩ := @search_within_machine nearSighted lastPage hvalid hoffset hlimit
  have hneedle := hwindow "İ: Needle and hay" "needle" hmemory
  exact ⟨hvalid, hoffset, hlimit, hrows, hrequest, hmemory, hneedle.context_eq.trans hshown,
    ((hneedle.some_iff _).1 hshown).2.2⟩

private def lastPageOfAb : SearchOptions := { lastPage with query := "ab" }

private def withoutBounds : Settings := { search := { contextRadius := ⟨18446744073709551615, by decide⟩ } }

private def oneMessage : Store Unit
  | .searchMessages _, s => (.ok [{ id := "m1", content := "ab" }], s)
  | _, s => (.error .cancelled, s)

/-- With the widest window that settings can ask for, the end of the window around a match is out of range, and the
search breaks down. -/
theorem search_out_of_machine :
    withoutBounds.validate = .ok () ∧ lastPageOfAb.validate = .ok () ∧
      Relevance.Matched "ab" "ab" 0 2 ∧ wordSize ≤ 0 + 2 + withoutBounds.search.contextRadius.toNat ∧
      Relevance.machineContext "ab" "ab" (.ofNat withoutBounds.search.contextRadius.toNat) = none ∧
      ((search { settings := withoutBounds.search } lastPageOfAb false default .epoch).run oneMessage ()).1 =
        .error .crashed := by
  have hquery : ParsedQuery.ofText lastPageOfAb.query = { base := "ab" } := by decide_cbv
  have hlocate : Relevance.locateQuery (Chars.trim "ab".toList) (lower "ab".toList) = some (0, 2) := by decide +kernel
  have hrequest : request withoutBounds.search lastPageOfAb =
      { base := "ab", userId := "ann", limit := 4294967295, contextRadius := 18446744073709551615 } := by
    rw [request, hquery]
    rfl
  have hcrashed : ((Domain.messages.searcher (request withoutBounds.search lastPageOfAb)).run oneMessage ()).1 =
      .error .crashed := by
    rw [hrequest]
    rfl
  have hgather := gather_singleton { settings := withoutBounds.search } oneMessage
    (request withoutBounds.search lastPageOfAb) .messages ()
  refine ⟨by decide, by decide, Relevance.matched_of_locateQuery (by decide) hlocate, by decide, by decide +kernel, ?_⟩
  rw [search_eq_map_gather _ _ (by decide)]
  exact congrArg (Except.map _) (hgather.trans (congrArg degrade hcrashed))

end SearchService

end WorkspaceSearch
