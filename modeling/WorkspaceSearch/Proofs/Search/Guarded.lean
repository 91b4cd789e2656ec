import WorkspaceSearch.Proofs.Database.Looking
import WorkspaceSearch.Proofs.Relevance.Annotation
import WorkspaceSearch.Proofs.Search.Results
import WorkspaceSearch.Proofs.Search.Wanted
import WorkspaceSearch.Proofs.Text.Lowered

/-!
# Searchers on a loose store

A searcher does not rely on its store.  Whatever rows it is given, it keeps those that the request lets pass
(`Request.Keeps`), in their order, and shows each of them once (`Domain.searcher_guards`); unless the context around a
match overflows on one of them, with which the search breaks down.
-/

namespace WorkspaceSearch

/-! ### Rows of a domain -/

namespace Domain

/-- What a store answers to the lookup of a domain. -/
abbrev Row : Domain → Type
  | .messages => MessageRow
  | .directMessages => DirectMessageRow
  | .files => FileRow
  | .channels => ChannelRow
  | .users => UserRow

/-- The result of a row. -/
def toResult : (d : Domain) → d.Row → SearchResult
  | .messages => MessageRow.toResult
  | .directMessages => DirectMessageRow.toResult
  | .files => FileRow.toResult
  | .channels => ChannelRow.toResult
  | .users => UserRow.toResult

/-- The text of a row that is searched in the first place. -/
def primary : (d : Domain) → d.Row → String
  | .messages => MessageRow.content
  | .directMessages => DirectMessageRow.content
  | .files => FileRow.fileName
  | .channels => ChannelRow.name
  | .users => UserRow.fullName

/-- The time of a row. -/
def createdAt : (d : Domain) → d.Row → Instant
  | .messages => MessageRow.createdAt
  | .directMessages => DirectMessageRow.createdAt
  | .files => FileRow.createdAt
  | .channels => ChannelRow.createdAt
  | .users => UserRow.createdAt

/-- Whether a row is for a user: direct messages are for their senders and receivers, everything else is for all. -/
def isFor (userId : String) : (d : Domain) → d.Row → Bool
  | .directMessages, row => row.isOf userId
  | _, _ => true

/-- Whether bounds on the date count in a domain. -/
def isDated : Domain → Bool
  | .messages | .directMessages | .files => true
  | .channels | .users => false

theorem content_toResult (d : Domain) (row : d.Row) : (d.toResult row).content = d.primary row := by
  cases d <;> rfl

private theorem timestamp_toResult (d : Domain) (row : d.Row) : (d.toResult row).timestamp = d.createdAt row := by
  cases d <;> rfl

/-- The rows that a call has brought, if it is the lookup of the domain and has not failed. -/
def rows? : (d : Domain) → (c : Call) → Except Error c.Answer → Option (List d.Row)
  | .messages, .searchMessages _, .ok rows => some rows
  | .directMessages, .searchDirectMessages _, .ok rows => some rows
  | .files, .searchFiles _, .ok rows => some rows
  | .channels, .searchChannels _, .ok rows => some rows
  | .users, .searchUsers _, .ok rows => some rows
  | _, _, _ => none

end Domain

/-! ### Rows that a program gets -/

namespace Program

variable {σ α β : Type}

/-- The rows of a domain that a program gets when it is run on a store, lookup by lookup. -/
def gets (d : Domain) (store : Store σ) : Program α → σ → List (List d.Row)
  | .done _, _ => []
  | .call c next, s => (d.rows? c (store c s).1).toList ++ (next (store c s).1).gets d store (store c s).2

/-- A program never gets rows of a domain. -/
private def GetsNone (d : Domain) : Program α → Prop
  | .done _ => True
  | .call c next => ∀ answer, d.rows? c answer = none ∧ (next answer).GetsNone d

/-- Once a program has got rows of a domain, it is done with what they come to. -/
private def EndsWith (d : Domain) (outcome : List d.Row → α) : Program α → Prop
  | .done _ => True
  | .call c next => ∀ answer,
    match d.rows? c answer with
    | some rows => next answer = .done (outcome rows)
    | none => (next answer).EndsWith d outcome

private theorem run_of_endsWith {d : Domain} {outcome : List d.Row → α} {p : Program α} (h : p.EndsWith d outcome)
    {store : Store σ} {s : σ} {rows : List d.Row} (hrows : rows ∈ p.gets d store s) :
    (p.run store s).1 = outcome rows := by
  induction p generalizing s with
  | done a => cases hrows
  | call c next ih =>
    have hnext := h (store c s).1
    rw [gets] at hrows
    cases hfound : d.rows? c (store c s).1 with
    | some found =>
      rw [hfound] at hnext hrows
      simp only at hnext
      rw [hnext, gets, List.append_nil] at hrows
      rw [run, hnext, run, List.mem_singleton.1 hrows]
    | none =>
      rw [hfound] at hnext hrows
      exact ih _ hnext hrows

private theorem endsWith_andThen {d : Domain} {outcome : List d.Row → β} {p : Program α} (hp : p.GetsNone d)
    {f : α → Program β} (hf : ∀ a, (f a).EndsWith d outcome) : (p.andThen f).EndsWith d outcome := by
  induction p with
  | done a => exact hf a
  | call c next ih =>
    intro answer
    rw [(hp answer).1]
    exact ih answer (hp answer).2

end Program

namespace Attempt

variable {α β : Type} {d : Domain}

/-- An attempt never gets rows of a domain. -/
private def GetsNone (d : Domain) (p : Attempt α) : Prop := p.run.GetsNone d

/-- Once an attempt has got rows of a domain, it is done with what they come to. -/
private def EndsWith (d : Domain) (outcome : List d.Row → Except Mishap α) (p : Attempt α) : Prop :=
  p.run.EndsWith d outcome

private theorem getsNone_ask {c : Call} (h : ∀ answer, d.rows? c answer = none) : (ask c).GetsNone d :=
  fun answer => ⟨h answer, trivial⟩

private theorem rows?_error (d : Domain) (c : Call) (e : Error) : d.rows? c (.error e) = none := by
  cases d <;> cases c <;> rfl

private theorem endsWith_ask {outcome : List d.Row → Except Mishap α} {c : Call} {f : c.Answer → Attempt α}
    (h : ∀ answer, ∃ rows, d.rows? c (.ok answer) = some rows ∧ (f answer).run = .done (outcome rows)) :
    (ask c >>= f).EndsWith d outcome := by
  intro answer
  cases answer with
  | error e =>
    rw [rows?_error]
    trivial
  | ok answer =>
    obtain ⟨rows, hrows, hrun⟩ := h answer
    rw [hrows]
    exact hrun

private theorem endsWith_bind {outcome : List d.Row → Except Mishap β} {p : Attempt α} (hp : p.GetsNone d)
    {f : α → Attempt β} (hf : ∀ a, (f a).EndsWith d outcome) : (p >>= f).EndsWith d outcome := by
  refine Program.endsWith_andThen hp fun a => ?_
  cases a with
  | error e => trivial
  | ok a => exact hf a

end Attempt

namespace Request

variable {r : Request} {d : Domain}

private theorem getsNone_channelIds : r.channelIds.GetsNone d := by
  unfold channelIds
  split
  · trivial
  · exact Attempt.getsNone_ask fun answer => by cases d <;> rfl

private theorem getsNone_senderIds : r.senderIds.GetsNone d := by
  unfold senderIds
  split
  · trivial
  · exact Attempt.getsNone_ask fun answer => by cases d <;> rfl

/-- What has to be checked of the results of a domain. -/
def conditionIn (r : Request) (d : Domain) : Condition := if d.isDated then r.datedCondition else r.undatedCondition

/-- What a searcher makes of the rows it gets. -/
private def outcomeIn (r : Request) (d : Domain) (rows : List d.Row) : Except Mishap (List SearchResult) :=
  r.selected (r.conditionIn d) d.toResult d.primary (rows.filter (d.isFor r.userId))

private theorem run_results_filter {Row : Type} (condition : Condition) (ofRow : Row → SearchResult)
    (primary : Row → String) (rows : List Row) :
    (r.results condition ofRow primary rows).run =
      .done (r.selected condition ofRow primary (rows.filter fun _ => true)) := by
  rw [run_results, List.filter_true]

private theorem endsWith_searchFilesOf (messageIds : Option (List String)) :
    (searchFilesOf r messageIds).EndsWith .files (r.outcomeIn .files) :=
  Attempt.endsWith_bind getsNone_senderIds fun _ =>
    Attempt.endsWith_ask fun rows => ⟨rows, rfl, run_results_filter _ _ _ rows⟩

/-- A searcher that has got rows is done with their outcome. -/
private theorem endsWith_searcher (r : Request) (d : Domain) : (d.searcher r).EndsWith d (r.outcomeIn d) := by
  cases d with
  | messages =>
    show Attempt.EndsWith .messages _ (searchMessages r)
    unfold searchMessages
    split
    · trivial
    · exact Attempt.endsWith_bind getsNone_channelIds fun _ => Attempt.endsWith_bind getsNone_senderIds fun _ =>
        Attempt.endsWith_ask fun rows => ⟨rows, rfl, run_results_filter _ _ _ rows⟩
  | directMessages =>
    show Attempt.EndsWith .directMessages _ (searchDirectMessages r)
    unfold searchDirectMessages
    split
    · trivial
    · exact Attempt.endsWith_bind getsNone_senderIds fun _ =>
        Attempt.endsWith_ask fun rows => ⟨rows, rfl, run_results _ _ _ _ _⟩
  | files =>
    show Attempt.EndsWith .files _ (searchFiles r)
    unfold searchFiles
    split
    · trivial
    · refine Attempt.endsWith_bind getsNone_channelIds fun named => ?_
      split
      · exact endsWith_searchFilesOf none
      · trivial
      · refine Attempt.endsWith_bind (Attempt.getsNone_ask fun answer => rfl) fun messageIds => ?_
        split
        · trivial
        · exact endsWith_searchFilesOf (some messageIds)
  | channels =>
    show Attempt.EndsWith .channels _ (searchChannels r)
    unfold searchChannels
    split
    · trivial
    · exact Attempt.endsWith_ask fun rows => ⟨rows, rfl, run_results_filter _ _ _ rows⟩
  | users =>
    show Attempt.EndsWith .users _ (searchUsers r)
    unfold searchUsers
    split
    · trivial
    · exact Attempt.endsWith_ask fun rows => ⟨rows, rfl, run_results_filter _ _ _ rows⟩

/-! ### Rows that are kept -/

/-- A content mentions none of some terms; blank terms count for nothing. -/
def Spares (terms : List String) (content : String) : Prop :=
  ∀ term ∈ terms, Text.isBlank term = false → ¬Text.Mentions content term

instance (terms : List String) (content : String) : Decidable (Spares terms content) :=
  List.decidableBAll _ _

/-- What a request lets pass in a domain. -/
structure Passes (r : Request) (d : Domain) (content : String) (t : Instant) : Prop where
  spared : Spares r.operators.exclude content
  after : d.isDated = true → (∀ bound ∈ r.operators.after, bound ≤ t) ∧ ∀ bound ∈ r.filters.dateFrom, bound ≤ t
  before : d.isDated = true → (∀ bound ∈ r.operators.before, t ≤ bound) ∧ ∀ bound ∈ r.filters.dateTo, t ≤ bound

private theorem not_mentionsAny_iff {terms : List String} {content : String} :
    (!Condition.mentionsAny terms content) = true ↔ Spares terms content := by
  rw [Bool.not_eq_true', ← Bool.not_eq_true, Condition.mentionsAny_iff_mentions, Spares]
  simp only [not_exists, not_and]

theorem holdsOf_conditionIn {content : String} {t : Instant} :
    (r.conditionIn d).holdsOf content t = true ↔ r.Passes d content t := by
  rw [conditionIn]
  split
  · next hdated =>
    rw [datedCondition, Condition.holdsOf_between, Condition.holdsOf_excluding, Condition.holdsOf, Bool.true_and,
      Bool.and_eq_true, not_mentionsAny_iff, Condition.isWithin_iff, Request.after, Request.before,
      forall_latestBound, forall_earliestBound]
    exact ⟨fun h => ⟨h.1, fun _ => h.2.1, fun _ => h.2.2⟩, fun h => ⟨h.spared, h.after hdated, h.before hdated⟩⟩
  · next hundated =>
    rw [undatedCondition, Condition.holdsOf_excluding, Condition.holdsOf, Bool.true_and, not_mentionsAny_iff]
    exact ⟨fun h => ⟨h, fun hdated => absurd hdated hundated, fun hdated => absurd hdated hundated⟩, Passes.spared⟩

instance (content : String) (t : Instant) : Decidable (r.Passes d content t) :=
  decidable_of_iff _ holdsOf_conditionIn

/-- A row that a searcher keeps. -/
structure Keeps (r : Request) (d : Domain) (row : d.Row) : Prop where
  isFor : d.isFor r.userId row = true
  passes : r.Passes d (d.primary row) (d.createdAt row)

private theorem keeps_iff {row : d.Row} :
    r.Keeps d row ↔ d.isFor r.userId row = true ∧ r.Passes d (d.primary row) (d.createdAt row) :=
  ⟨fun h => ⟨h.isFor, h.passes⟩, fun h => ⟨h.1, h.2⟩⟩

instance (row : d.Row) : Decidable (r.Keeps d row) := decidable_of_iff _ keeps_iff.symm

/-! ### How a row is shown -/

/-- The end of the context around the match in a text is no number of 64 bits. -/
def Overflows (r : Request) (text : String) : Prop := Relevance.context text r.base r.contextRadius = none

instance (text : String) : Decidable (r.Overflows text) := inferInstanceAs (Decidable (_ = none))

private theorem wordSize_le_of_overflows {text : String} (h : r.Overflows text) :
    Relevance.wordSize ≤ (Chars.lower text.toList).length + r.contextRadius := by
  simp only [Overflows, Relevance.context] at h
  split at h
  · cases h
  · split at h
    · cases h
    · next offset length hlocate =>
      have hend := Relevance.end_of_locateQuery hlocate
      rw [Option.map_eq_none_iff, Relevance.windowAround] at h
      split at h
      · omega
      · cases h

/-- The result that a row is shown as. -/
def image (r : Request) (d : Domain) (row : d.Row) : SearchResult :=
  { d.toResult row with
    score := Relevance.score (d.primary row) r.base
    highlights := (Relevance.highlights (d.primary row) r.base).getD []
    context := (Relevance.context (d.primary row) r.base r.contextRadius).getD none }

private theorem annotate_eq_image {row : d.Row} (h : (Relevance.highlights (d.primary row) r.base).isSome = true) :
    r.annotate (d.primary row) (d.toResult row) =
      if r.Overflows (d.primary row) then none else some (r.image d row) := by
  obtain ⟨pieces, hpieces⟩ := Option.isSome_iff_exists.1 h
  split
  · next hoverflows =>
    have hnone : Relevance.context (d.primary row) r.base r.contextRadius = none := hoverflows
    rw [annotate, hpieces, hnone]
    rfl
  · next hfits =>
    obtain ⟨context, hcontext⟩ := Option.ne_none_iff_exists'.1 hfits
    rw [annotate, image, hpieces, hcontext]
    rfl

private theorem holds_image {row : d.Row} :
    (r.conditionIn d).holds (r.image d row) = true ↔ r.Passes d (d.primary row) (d.createdAt row) := by
  rw [← holdsOf_conditionIn, ← d.content_toResult, ← d.timestamp_toResult]
  exact Iff.rfl

private theorem outcomeIn_eq {rows : List d.Row} (h : ∀ row ∈ rows, d.isFor r.userId row = true →
      (Relevance.highlights (d.primary row) r.base).isSome = true) :
    r.outcomeIn d rows =
      if ∃ row ∈ rows, d.isFor r.userId row = true ∧ r.Overflows (d.primary row) then .error .crashed
      else .ok ((rows.filter (r.Keeps d ·)).map (r.image d)) := by
  have hown : ∀ row ∈ rows.filter (d.isFor r.userId), r.annotate (d.primary row) (d.toResult row) =
      if r.Overflows (d.primary row) then none else some (r.image d row) := by
    intro row hrow
    obtain ⟨hmem, hfor⟩ := List.mem_filter.1 hrow
    exact annotate_eq_image (h row hmem hfor)
  split
  · next hcrash =>
    obtain ⟨row, hmem, hfor, hoverflows⟩ := hcrash
    have hrow : row ∈ rows.filter (d.isFor r.userId) := List.mem_filter.2 ⟨hmem, hfor⟩
    have hnone := (hown row hrow).trans (if_pos hoverflows)
    rw [outcomeIn, selected, Outcome.mapM_eq_none hrow hnone]
  · next hfine =>
    have hsome : ∀ row ∈ rows.filter (d.isFor r.userId),
        r.annotate (d.primary row) (d.toResult row) = some (r.image d row) := by
      intro row hrow
      obtain ⟨hmem, hfor⟩ := List.mem_filter.1 hrow
      exact (hown row hrow).trans (if_neg fun hoverflows => hfine ⟨row, hmem, hfor, hoverflows⟩)
    rw [outcomeIn, selected, Outcome.mapM_eq_some_map hsome]
    refine congrArg Except.ok ?_
    rw [Condition.select, List.filter_map, List.filter_filter]
    refine congrArg (List.map (r.image d)) (List.filter_congr fun row _ => ?_)
    rw [Bool.eq_iff_iff, Bool.and_eq_true, decide_eq_true_eq, keeps_iff, Function.comp_apply, holds_image, and_comm]

/-! ### Other terms -/

/-- The request with other terms excluded. -/
def excluding (r : Request) (terms : List String) : Request :=
  { r with operators := { r.operators with exclude := terms } }

private theorem passes_excluding_iff {terms : List String} {content : String} {t : Instant}
    (h : ∀ term ∈ r.operators.exclude, Text.isBlank term = false → term ∈ terms) :
    (r.excluding terms).Passes d content t ↔ r.Passes d content t ∧ Spares terms content :=
  ⟨fun hpasses => ⟨⟨fun term hterm hblank => hpasses.spared term (h term hterm hblank) hblank, hpasses.after,
    hpasses.before⟩, hpasses.spared⟩, fun hpasses => ⟨hpasses.2, hpasses.1.after, hpasses.1.before⟩⟩

/-- More terms only leave out results that mention them. -/
private theorem outcomeIn_excluding {terms : List String} (rows : List d.Row)
    (h : ∀ term ∈ r.operators.exclude, Text.isBlank term = false → term ∈ terms) :
    (r.excluding terms).outcomeIn d rows =
      (r.outcomeIn d rows).map (List.filter fun result => Spares terms result.content) := by
  have hannotate : (r.excluding terms).annotate = r.annotate := rfl
  have huser : (r.excluding terms).userId = r.userId := rfl
  rw [outcomeIn, outcomeIn, selected, selected, hannotate, huser]
  cases (rows.filter (d.isFor r.userId)).mapM fun row => r.annotate (d.primary row) (d.toResult row) with
  | none => rfl
  | some annotated =>
    refine congrArg Except.ok ?_
    rw [Condition.select, Condition.select, List.filter_filter]
    refine List.filter_congr fun result _ => ?_
    rw [Bool.eq_iff_iff, Bool.and_eq_true, decide_eq_true_eq, Condition.holds, Condition.holds, holdsOf_conditionIn,
      holdsOf_conditionIn, passes_excluding_iff h, and_comm]

/-- Order and repetition of the terms do not matter. -/
private theorem outcomeIn_excluding_same {terms : List String} (rows : List d.Row)
    (h : ∀ term, Text.isBlank term = false → (term ∈ terms ↔ term ∈ r.operators.exclude)) :
    (r.excluding terms).outcomeIn d rows = r.outcomeIn d rows := by
  rw [outcomeIn_excluding rows fun term hterm hblank => (h term hblank).2 hterm]
  cases houtcome : r.outcomeIn d rows with
  | error e => rfl
  | ok results =>
    refine congrArg Except.ok (List.filter_eq_self.2 fun result hresult => decide_eq_true ?_)
    have hpasses := holdsOf_conditionIn.1 (holds_of_mem_selected houtcome hresult)
    exact fun term hterm hblank => hpasses.spared term ((h term hblank).1 hterm) hblank

end Request

/-! ### Searchers -/

namespace Domain

open Request

variable {σ : Type} {store : Store σ} {s : σ} {d : Domain} {r : Request} {rows : List d.Row}

private theorem run_of_gets (h : rows ∈ (d.searcher r).gets d store s) :
    ((d.searcher r).run store s).1 = r.outcomeIn d rows :=
  Program.run_of_endsWith (endsWith_searcher r d) h

/-- A searcher that has got some rows, whatever its store has let through, shows those that it keeps, in their order and
each once.  It breaks down when the context overflows on a row, which takes a radius near the end of the numbers of 64
bits.  With more terms excluded and the same rows, it shows what it has shown without those that mention them; the order
and the repetition of the terms do not matter. -/
theorem searcher_guards (hrows : rows ∈ (d.searcher r).gets d store s) :
    ((∀ row ∈ rows, d.isFor r.userId row = true →
        (Relevance.highlights (d.primary row) r.base).isSome = true) →
      ((d.searcher r).run store s).1 =
        if ∃ row ∈ rows, d.isFor r.userId row = true ∧ r.Overflows (d.primary row) then .error .crashed
        else .ok ((rows.filter (r.Keeps d ·)).map (r.image d))) ∧
    (∀ text, r.Overflows text → Relevance.wordSize ≤ (Chars.lower text.toList).length + r.contextRadius) ∧
    ∀ (σ' : Type) (store' : Store σ') (s' : σ') (terms : List String),
      rows ∈ (d.searcher (r.excluding terms)).gets d store' s' →
      ((∀ term ∈ r.operators.exclude, Text.isBlank term = false → term ∈ terms) →
        ((d.searcher (r.excluding terms)).run store' s').1 =
          ((d.searcher r).run store s).1.map (List.filter fun result => Spares terms result.content)) ∧
      ((∀ term, Text.isBlank term = false → (term ∈ terms ↔ term ∈ r.operators.exclude)) →
        ((d.searcher (r.excluding terms)).run store' s').1 = ((d.searcher r).run store s).1) := by
  rw [run_of_gets hrows]
  refine ⟨outcomeIn_eq, fun text => wordSize_le_of_overflows, fun σ' store' s' terms hrows' => ?_⟩
  rw [run_of_gets hrows']
  exact ⟨outcomeIn_excluding rows, outcomeIn_excluding_same rows⟩

/-- A store that answers the same direct messages to every lookup. -/
private def letting (rows : List DirectMessageRow) : Store Unit
  | .searchDirectMessages _, s => (.ok rows, s)
  | _, s => (.error .cancelled, s)

private def fromBob : DirectMessageRow := { id := "d1", senderId := "bob", receiverId := "ann", content := "ab report" }

private def fromCid : DirectMessageRow := { id := "d2", senderId := "cid", receiverId := "dan", content := "ab report" }

private def toBob : DirectMessageRow := { id := "d3", senderId := "ann", receiverId := "bob", content := "ab Draft " }

private def asked : Request where
  base := "ab"
  userId := "ann"

/-- Of three messages that a store lets through, those of others are left out, and a draft once drafts are excluded. -/
theorem searcher_guards_own_messages :
    ((searchDirectMessages asked).run (letting [fromBob, fromCid, toBob]) ()).1 =
        .ok [asked.image .directMessages fromBob, asked.image .directMessages toBob] ∧
      ((searchDirectMessages (asked.excluding [" DRAFT", " "])).run (letting [fromBob, fromCid, toBob]) ()).1 =
        .ok [asked.image .directMessages fromBob] := by
  have hgets : [fromBob, fromCid, toBob] ∈
      (directMessages.searcher asked).gets .directMessages (letting [fromBob, fromCid, toBob]) () := by decide +kernel
  have hmore : [fromBob, fromCid, toBob] ∈ (directMessages.searcher (asked.excluding [" DRAFT", " "])).gets
      .directMessages (letting [fromBob, fromCid, toBob]) () := by decide +kernel
  obtain ⟨hshown, -, hexcluding⟩ := searcher_guards hgets
  obtain ⟨hless, -⟩ := hexcluding _ _ _ _ hmore
  have hkept : [fromBob, fromCid, toBob].filter (asked.Keeps .directMessages ·) = [fromBob, toBob] := by decide +kernel
  have hfits : ¬∃ row ∈ [fromBob, fromCid, toBob], directMessages.isFor asked.userId row = true ∧
      asked.Overflows (directMessages.primary row) := by decide +kernel
  have hall : ((searchDirectMessages asked).run (letting [fromBob, fromCid, toBob]) ()).1 =
      .ok [asked.image .directMessages fromBob, asked.image .directMessages toBob] := by
    refine (hshown (by decide +kernel)).trans ?_
    rw [if_neg hfits, hkept]
    rfl
  refine ⟨hall, (hless (by decide)).trans ?_⟩
  have hfirst : Spares [" DRAFT", " "] (asked.image .directMessages fromBob).content := by decide +kernel
  have hsecond : ¬Spares [" DRAFT", " "] (asked.image .directMessages toBob).content := by decide +kernel
  have hrun : ((directMessages.searcher asked).run (letting [fromBob, fromCid, toBob]) ()).1 = _ := hall
  rw [hrun, Except.map]
  simp [hfirst, hsecond]

private def farSighted : Request where
  base := "ab"
  userId := "ann"
  contextRadius := 18446744073709551615

/-- With the widest context a message that is kept takes the search down. -/
theorem searcher_breaks_down_on_overflow :
    [fromBob] ∈ (directMessages.searcher farSighted).gets .directMessages (letting [fromBob]) () ∧
      (Relevance.highlights (directMessages.primary fromBob) farSighted.base).isSome = true ∧
      farSighted.Keeps .directMessages fromBob ∧
      ((directMessages.searcher farSighted).run (letting [fromBob]) ()).1 = .error .crashed := by
  have hgets : [fromBob] ∈ (directMessages.searcher farSighted).gets .directMessages (letting [fromBob]) () := by
    decide +kernel
  refine ⟨hgets, by decide +kernel, by decide +kernel, ?_⟩
  rw [run_of_gets hgets, outcomeIn_eq (by decide +kernel), if_pos (by decide +kernel)]

end Domain

end WorkspaceSearch
