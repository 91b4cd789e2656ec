import WorkspaceSearch.Proofs.Database.Excluded

/-!
# Excluded terms, twice

Excluded terms are tested twice: the store leaves out the rows whose text they match, and the searchers check the
results once more.  On ASCII texts without NUL both tests come to the same (`TextMatch.sparesText_iff_spares`), for the
names of users as well, which are trimmed only in between (`Request.spares_trim`).  So there is nothing left for the
second test to remove (`Request.excludesOnce`).
-/

namespace WorkspaceSearch

open Request (Spares)
open Database (guardLookup cutPage messageOrder foundMessages_eq_insertionSort searchMessages_eq)

/-! ### Two tests of a text -/

/-- A plain text mentions a term exactly when it matches the pattern of the trimmed term. -/
private theorem Text.mentions_iff_isMatch {content term : String} (hcontent : Text.Plain content)
    (hterm : Text.Plain term) (hblank : Text.isBlank term = false) :
    Text.Mentions content term ↔ Like.isMatch (Like.containing (Text.trim term)) content = true := by
  have htrim : Chars.Plain (Chars.trim term.toList) := Chars.Plain.of_infix hterm (Chars.trim_infix term.toList)
  have htoList : (Text.trim term).toList = Chars.trim term.toList := String.toList_ofList
  have hneedle : Text.Plain (Text.trim term) := by
    rw [Text.Plain, htoList]
    exact htrim
  rw [Like.isMatch_containing_of_plain hneedle hcontent, Text.mentions_iff_contains hblank, Chars.contains_iff_infix,
    hcontent.lower_eq, htrim.lower_eq, Text.Occurs, Chars.Occurs, htoList]

/-- A plain text is spared by plain terms exactly when it mentions none of them. -/
theorem TextMatch.sparesText_iff_spares {t : TextMatch} {primary : String}
    (hterms : ∀ term ∈ t.exclude, Text.Plain term) (hprimary : Text.Plain primary) :
    t.sparesText primary = true ↔ Spares t.exclude primary := by
  simp only [sparesText, excluded, List.all_eq_true, List.mem_map, List.mem_filter, Bool.not_eq_true',
    forall_exists_index, and_imp, Spares]
  constructor
  · intro h term hterm hblank hmentions
    have hmatch := (Text.mentions_iff_isMatch hprimary (hterms term hterm) hblank).1 hmentions
    rw [h _ term hterm hblank rfl] at hmatch
    cases hmatch
  · rintro h _ term hterm hblank rfl
    rw [← Bool.not_eq_true, ← Text.mentions_iff_isMatch hprimary (hterms term hterm) hblank]
    exact h term hterm hblank

/-- The blanks around a text do not matter to excluded terms. -/
theorem Request.spares_trim {terms : List String} {content : String} :
    Spares terms (Text.trim content) ↔ Spares terms content := by
  simp only [Spares, Text.Mentions, Text.trim, String.toList_ofList, Chars.trim_trim]

private theorem Request.holdsOf_undatedCondition {r : Request} {content : String} {t : Instant} :
    r.undatedCondition.holdsOf content t = true ↔ Spares r.operators.exclude content := by
  rw [show r.undatedCondition = r.conditionIn .channels from rfl, holdsOf_conditionIn]
  exact ⟨Passes.spared, fun h => ⟨h, nofun, nofun⟩⟩

private theorem Request.holdsOf_conditionIn_eq {r : Request} {d : Domain} {content : String} {t : Instant} :
    (r.conditionIn d).holdsOf content t =
      (r.undatedCondition.holdsOf content t && (!d.isDated || Condition.isWithin r.after r.before t)) := by
  unfold conditionIn
  split
  · next hdated =>
    rw [datedCondition, Condition.holdsOf_between, hdated, undatedCondition, Bool.not_true, Bool.false_or]
  · next hundated => rw [Bool.eq_false_iff.2 hundated, Bool.not_false, Bool.true_or, Bool.and_true]

theorem Request.exclude_textMatch (r : Request) : r.textMatch.exclude = r.operators.exclude := by
  unfold textMatch
  split <;> rfl

/-! ### Many terms -/

private theorem Clause.length_le_joinDepth (first : Nat) (rest : List Nat) :
    first + rest.length ≤ joinDepth first rest := by
  induction rest generalizing first with
  | nil => exact Nat.le_refl _
  | cons next rest ih =>
    have hrest := ih (max first next + 1)
    simp only [joinDepth, List.foldl_cons, List.length_cons] at hrest ⊢
    omega

/-- A statement with too many conditions is too deep. -/
theorem StatementShape.fits_eq_false {s : StatementShape} (h : depthLimit < s.first.depth + s.rest.length) :
    s.fits = false := by
  have hjoined := Clause.length_le_joinDepth s.first.depth (s.rest.map (·.depth))
  rw [List.length_map] at hjoined
  have hdeep : ¬s.depth ≤ depthLimit := by
    unfold depth
    omega
  rw [fits, decide_eq_false hdeep, Bool.false_and]

theorem TextMatch.length_excluded {t : TextMatch} (h : ∀ term ∈ t.exclude, Text.isBlank term = false) :
    t.excluded.length = t.exclude.length := by
  have hkept : t.exclude.filter (fun term => !Text.isBlank term) = t.exclude :=
    List.filter_eq_self.2 fun term hterm => by rw [h term hterm]; rfl
  rw [excluded, hkept, List.length_map]

/-- Every excluded text is a condition of its own. -/
theorem TextMatch.length_excluded_le_clauses (t : TextMatch) (columns : List Nat) (primary : Nat) :
    t.excluded.length ≤ (t.clauses columns primary).length := by
  rw [clauses, List.length_append, List.length_map]
  exact Nat.le_add_left _ _

/-! ### Two tests of a row -/

/-- The texts with which excluded terms are compared are plain. -/
structure Database.PlainTexts (db : Database) : Prop where
  messages : ∀ m ∈ db.messages.toList, Text.Plain m.content
  directMessages : ∀ m ∈ db.directMessages.toList, Text.Plain m.content
  files : ∀ f ∈ db.files.toList, Text.Plain f.fileName
  channels : ∀ c ∈ db.channels.toList, Text.Plain c.name
  users : ∀ u ∈ db.users.toList, Text.Plain u.firstName ∧ Text.Plain u.lastName

private theorem Database.PlainTexts.matched {db : Database} (h : db.PlainTexts) {d : Domain} {x : d.Held}
    (hx : x ∈ db.held d) : Text.Plain (d.matched x) := by
  cases d with
  | messages => exact h.messages x hx
  | directMessages => exact h.directMessages x hx
  | files => exact h.files x hx
  | channels => exact h.channels x hx
  | users =>
    obtain ⟨hfirst, hlast⟩ := h.users x hx
    intro c hc
    simp only [Domain.matched, Stored.User.rawName, String.toList_append, List.mem_append] at hc
    rcases hc with (hc | hc) | hc
    · exact hfirst c hc
    · obtain rfl : c = ' ' := by simpa using hc
      decide
    · exact hlast c hc

private theorem Domain.spares_shown {d : Domain} {x : d.Held} {terms : List String} :
    Spares terms (d.shown x) ↔ Spares terms (d.matched x) := by
  cases d with
  | users => exact Request.spares_trim
  | _ => exact Iff.rfl

namespace Request

variable {db : Database} {r : Request} {d : Domain} {q : d.Lookup}

/-- The excluded terms are tested by the store alone: it leaves out just the rows that the check of the results would
drop, before it cuts the page out, and nothing is left for that check to drop except by date. -/
structure ExcludesOnce (db : Database) (r : Request) (d : Domain) (q : d.Lookup) : Prop where
  /-- The rows that are looked up are those looked up without the excluded terms that the check lets pass. -/
  rows : ∀ x ∈ db.held d, ∀ n t,
    db.fits d q x = (db.fits d (d.allowing n q) x && r.undatedCondition.holdsOf (d.shown x) t)
  /-- Every row that is answered shows the text of one that is looked up. -/
  shown : ∀ rows, db.look d q = .ok rows → ∀ row ∈ rows, ∃ x ∈ db.held d,
    db.fits d q x = true ∧ (d.toResult row).content = d.shown x
  /-- The check of the results drops nothing but by date. -/
  results : ∀ rows, db.look d q = .ok rows → (r.conditionIn d).select (rows.map d.toResult) =
    (rows.map d.toResult).filter fun result => !d.isDated || Condition.isWithin r.after r.before result.timestamp
  /-- The page is cut out of all rows that the check lets pass, unless the store fails. -/
  pages : ∀ n all, db.look d (d.allowing n q) = .ok all → all.length < n →
    (db.look d q = .error .tooComplex ∧ d.isModest q = false) ∨
      db.look d q = .ok (d.cut q (all.filter fun row => r.undatedCondition.holds (d.toResult row)))

variable (hplain : db.PlainTexts) (hterms : ∀ term ∈ r.operators.exclude, Text.Plain term)
  (hq : d.text q = r.textMatch)

include hplain hterms hq

private theorem holdsOf_shown {x : d.Held} (hx : x ∈ db.held d) (t : Instant) :
    r.undatedCondition.holdsOf (d.shown x) t = (d.text q).sparesText (d.matched x) := by
  have hexclude : (d.text q).exclude = r.operators.exclude := by rw [hq, exclude_textMatch]
  rw [Bool.eq_iff_iff, holdsOf_undatedCondition, Domain.spares_shown,
    TextMatch.sparesText_iff_spares (hexclude ▸ hterms) (hplain.matched hx), hexclude]

/-- On plain texts excluded terms are tested by the store alone. -/
theorem excludesOnce : ExcludesOnce db r d q := by
  have hspared := fun (x : d.Held) hx => holdsOf_shown (x := x) hplain hterms hq hx
  have hshown : ∀ rows, db.look d q = .ok rows → ∀ row ∈ rows, ∃ x ∈ db.held d,
      db.fits d q x = true ∧ (d.toResult row).content = d.shown x := by
    intro rows hrows row hrow
    obtain ⟨x, hx, hfits, hprimary⟩ := Database.exists_held_of_mem_look hrows hrow
    exact ⟨x, hx, hfits, (d.content_toResult row).trans hprimary⟩
  refine ⟨fun x hx n t => ?_, hshown, fun rows hrows => ?_, fun n all hall hn => ?_⟩
  · rw [hspared x hx]
    exact Database.fits_eq_allowing db n q x
  · refine List.filter_congr fun result hresult => ?_
    obtain ⟨row, hrow, rfl⟩ := List.mem_map.1 hresult
    obtain ⟨x, hx, hfits, hcontent⟩ := hshown rows hrows row hrow
    -- a row that is looked up is spared
    rw [Database.fits_eq_allowing db 0, Bool.and_eq_true, ← hspared x hx (d.toResult row).timestamp,
      ← hcontent] at hfits
    rw [Condition.holds, holdsOf_conditionIn_eq, hfits.2, Bool.true_and]
  · refine Database.look_eq_or (fun x hx row hrow => ?_) hall hn
    rw [Condition.holds, d.content_toResult, hrow]
    exact hspared x hx _

end Request

/-! ### Names with blanks around them -/

private def blankNames : Database where
  users := ⟨[⟨1, ⟨"u1", "ann", " Ann", "Lee ", "", none, .integer 0, .text "2024-01-01 00:00:00"⟩⟩]⟩

private def withoutAnn : Request := { base := "lee", operators := { exclude := ["Lee ", " ann", "100%"] } }

/-- A name with blanks around it is compared with terms that have some as well. -/
theorem Request.excludesOnce_blanks :
    blankNames.PlainTexts ∧ (∀ term ∈ withoutAnn.operators.exclude, Text.Plain term) ∧
      withoutAnn.ExcludesOnce blankNames .users withoutAnn.userLookup := by
  have hplain : blankNames.PlainTexts := ⟨by decide, by decide, by decide, by decide, by decide⟩
  have hterms : ∀ term ∈ withoutAnn.operators.exclude, Text.Plain term := by decide
  exact ⟨hplain, hterms, excludesOnce hplain hterms rfl⟩

/-! ### Terms with NUL, and too many terms -/

private def soleRow : Database where
  users := ⟨[⟨1, ⟨"u1", "ann", "", "", "", none, .integer 0, .text "2024-01-01 00:00:00"⟩⟩]⟩
  channels := ⟨[⟨1, ⟨"c1", "general", none, none, "public", .text "2024-01-01 00:00:00"⟩⟩]⟩
  messages := ⟨[⟨1, ⟨"m1", "c1", "u1", "ab c", none, "text", none, .text "2024-01-01 00:00:00"⟩⟩]⟩

private def excludingAll (terms : List String) : Request := { base := "ab", operators := { exclude := terms } }

private def lookupOf (terms : List String) : MessageLookup := (excludingAll terms).messageLookup [] []

/-- The contents that a lookup answers, if it does not fail. -/
private def contents (q : MessageLookup) : Option (List String) :=
  (soleRow.look .messages q).toOption.map fun rows => rows.map (·.content)

private theorem contents_eq (q : MessageLookup) : contents q =
    (guardLookup (q.accessibleChannelIds = some []) q.shape.fits
      (0 < q.limit && soleRow.messages.any (soleRow.messageOverruns q))
      ((cutPage q.limit q.offset ((soleRow.messagesInPlace.filter fun x => soleRow.messageFits q x.1.1).insertionSort
        (messageOrder · ·))).mapM fun x => soleRow.messageRow x.1.1 x.1.2 x.2)).toOption.map
          fun rows => rows.map (·.content) := by
  rw [← foundMessages_eq_insertionSort, ← searchMessages_eq]
  rfl

private theorem fits_lookupOf : (lookupOf (List.replicate 1000 "z")).shape.fits = false := by
  refine StatementShape.fits_eq_false ?_
  have hclauses := (lookupOf (List.replicate 1000 "z")).text.length_excluded_le_clauses [columnDepth, columnDepth]
    columnDepth
  rw [TextMatch.length_excluded fun term hterm => by rw [List.eq_of_mem_replicate hterm]; decide] at hclauses
  have hterms : (lookupOf (List.replicate 1000 "z")).text.exclude.length = 1000 := List.length_replicate
  simp only [MessageLookup.shape, List.length_append, StatementShape.depthLimit, alwaysClause]
  omega

/-- The store leaves out a row that the check of the results would let pass: the pattern of a term ends at its first
NUL.  And it fails over many terms that would all let the row pass. -/
theorem not_excludesOnce_nul_or_deep :
    soleRow.PlainTexts ∧
      ("c\x00d".toList.all Chars.isAscii = true ∧ contents (lookupOf ["c\x00d"]) = some [] ∧
        contents (Domain.allowing 2 .messages (lookupOf ["c\x00d"])) = some ["ab c"] ∧
        (excludingAll ["c\x00d"]).undatedCondition.holdsOf "ab c" .epoch = true) ∧
      contents (lookupOf (List.replicate 1000 "z")) = none ∧
        contents (Domain.allowing 2 .messages (lookupOf (List.replicate 1000 "z"))) = some ["ab c"] ∧
        (excludingAll (List.replicate 1000 "z")).undatedCondition.holdsOf "ab c" .epoch = true := by
  have hfree : ∀ terms, contents (Domain.allowing 2 .messages (lookupOf terms)) = some ["ab c"] := by
    intro terms
    rw [show Domain.allowing 2 .messages (lookupOf terms) = Domain.allowing 2 .messages (lookupOf []) from rfl,
      contents_eq]
    decide +kernel
  refine ⟨⟨by decide, by decide, by decide, by decide, by decide⟩, ⟨by decide, ?_, hfree _, ?_⟩, ?_, hfree _, ?_⟩
  · rw [contents_eq]
    decide +kernel
  · rw [Request.holdsOf_undatedCondition]
    decide +kernel
  · rw [contents_eq, fits_lookupOf]
    rfl
  · rw [Request.holdsOf_undatedCondition]
    intro term hterm
    rw [List.eq_of_mem_replicate hterm]
    decide +kernel

end WorkspaceSearch
