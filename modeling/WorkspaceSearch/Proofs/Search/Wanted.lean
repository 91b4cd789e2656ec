import WorkspaceSearch.Proofs.Query.Normal
import WorkspaceSearch.Proofs.Text.Matching
import WorkspaceSearch.Proofs.Time.Scale
import WorkspaceSearch.Search.Service

/-!
# Wanted messages

What a search asks of a message, operator by operator and filter by filter (`Wanted`).  The lookup in the database
checks most of it, but compares dates on the scale of Julian days only; the condition on results compares the dates
exactly.  On plain texts with timestamps, both together let the wanted messages through and no others (`wanted_iff`).
-/

namespace WorkspaceSearch

open Query (freeText normalText_freeText nonblank_freeText_sublist names infix_of_mem_names)

/-! ### What is asked for -/

/-- The texts of which one must occur: the words of the free text, or the free text as a whole. -/
def ParsedQuery.texts (p : ParsedQuery) : List String := if p.operators.matchAny then p.terms else [p.base]

/-- The bounds that a search puts on the date, in the query or in the filters. -/
def SearchOptions.dateBounds (o : SearchOptions) : List Instant :=
  let ops := (ParsedQuery.ofText o.query).operators
  ops.after.toList ++ o.filters.dateFrom.toList ++ ops.before.toList ++ o.filters.dateTo.toList

/-- A search with a query that reads as `p` wants a message; the names of channels and senders in the query stand for
some identifiers. -/
structure Wanted (db : Database) (p : ParsedQuery) (o : SearchOptions) (channelIds senderIds : List String)
    (m : Stored.Message) : Prop where
  visible : ∀ ids ∈ o.userChannelIds, m.channelId ∈ ids
  text : Text.isBlank p.base = false →
    ∃ text ∈ p.texts, Text.Occurs text m.content ∨ ∃ formatted ∈ m.formattedContent, Text.Occurs text formatted
  channel : channelIds = [] ∨ m.channelId ∈ channelIds
  sender : senderIds = [] ∨ m.senderId ∈ senderIds
  channelFilter : ∀ id ∈ o.filters.channelId, m.channelId = id
  userFilter : ∀ id ∈ o.filters.userId, m.senderId = id
  typeFilter : ∀ name ∈ o.filters.messageType, m.messageType = name
  attached : .file ∈ p.operators.has ∨ .attachment ∈ p.operators.has ∨ o.filters.hasAttachment = some true →
    m.attachmentId ≠ none
  unattached : .file ∉ p.operators.has → .attachment ∉ p.operators.has → o.filters.hasAttachment = some false →
    m.attachmentId = none
  link : .link ∈ p.operators.has → Text.Occurs "http" m.content
  reaction : .reaction ∈ p.operators.has → ∃ reaction ∈ db.reactions.toList, reaction.messageId = m.id
  dated : ∃ t, m.createdAt.Stamps t ∧
    ((∀ bound ∈ p.operators.after, bound ≤ t) ∧ ∀ bound ∈ o.filters.dateFrom, bound ≤ t) ∧
    (∀ bound ∈ p.operators.before, t ≤ bound) ∧ ∀ bound ∈ o.filters.dateTo, t ≤ bound
  spared : ∀ term ∈ p.operators.exclude, ¬Text.Occurs term m.content

/-! ### The texts of a query -/

/-- An ASCII query without NUL in the texts that are searched for. -/
structure PlainQuery (raw : String) : Prop where
  ascii : ∀ c ∈ raw.toList, Chars.isAscii c = true
  base : '\x00' ∉ (ParsedQuery.ofText raw).base.toList
  exclude : ∀ term ∈ (ParsedQuery.ofText raw).operators.exclude, '\x00' ∉ term.toList

namespace PlainQuery

variable {raw : String} (h : PlainQuery raw)

include h

private theorem plain_base : Text.Plain (ParsedQuery.ofText raw).base := by
  intro c hc
  refine ⟨?_, fun hnul => h.base (hnul ▸ hc)⟩
  cases hblank : Chars.isBlank c with
  | true =>
    rw [(normalText_freeText raw).collapsed.eq_space hc hblank]
    rfl
  | false =>
    have hmem : c ∈ Chars.nonblank (freeText raw).toList := List.mem_filter.2 ⟨hc, by rw [hblank]; rfl⟩
    exact h.ascii c (List.mem_of_mem_filter ((nonblank_freeText_sublist raw).subset hmem))

private theorem plain_texts : ∀ text ∈ (ParsedQuery.ofText raw).texts, Text.Plain text := by
  unfold ParsedQuery.texts
  split
  · intro text htext
    obtain ⟨w, hw, rfl⟩ := List.mem_map.1 htext
    rw [Text.Plain, String.toList_ofList]
    exact h.plain_base.of_infix (Chars.infix_of_mem_words hw)
  · intro text htext
    rw [List.mem_singleton.1 htext]
    exact h.plain_base

private theorem excluded_terms :
    ∀ term ∈ (ParsedQuery.ofText raw).operators.exclude, Text.IsWord term ∧ Text.Plain term := by
  intro term hterm
  have hname : term ∈ names (ParsedQuery.ofText raw).operators := List.mem_append_right _ hterm
  obtain ⟨hne, hsolid, hpiece⟩ := infix_of_mem_names hname
  exact ⟨⟨hne, hsolid⟩, fun c hc => ⟨h.ascii c (hpiece.subset hc), fun hnul => h.exclude term hterm (hnul ▸ hc)⟩⟩

end PlainQuery

theorem Text.words_eq_nil_iff {s : String} : Text.words s = [] ↔ Text.isBlank s = true := by
  rw [Text.words, List.map_eq_nil_iff, Chars.words_eq_nil_iff]
  exact Text.isBlank_iff.symm

/-- The texts of a query that is not blank are not empty. -/
private theorem texts_ne_empty {p : ParsedQuery} (h : Text.isBlank p.base = false) :
    ∀ text ∈ p.texts, text.toList ≠ [] := by
  unfold ParsedQuery.texts
  split
  · intro text htext
    obtain ⟨w, hw, rfl⟩ := List.mem_map.1 htext
    rw [String.toList_ofList]
    exact Chars.ne_nil_of_mem_words hw
  · intro text htext hempty
    rw [List.mem_singleton.1 htext] at hempty
    have hblank := Text.isBlank_iff.2 (hempty ▸ Chars.Blank.nil)
    exact Bool.false_ne_true (h.symm.trans hblank)

/-- The texts of which one must occur, of a request: the words of the free text, or the free text as a whole. -/
def Request.texts (r : Request) : List String :=
  if r.operators.matchAny then Text.words r.base else [Text.trim r.base]

/-- The texts looked for are those of the request, if its text is not blank. -/
theorem Request.needles_textMatch (r : Request) :
    r.textMatch.needles = if Text.isBlank r.base then [] else r.texts := by
  unfold textMatch texts TextMatch.needles
  cases hblank : Text.isBlank r.base with
  | true =>
    have hwords := Text.words_eq_nil_iff.2 hblank
    split
    · simp [hwords, Text.isBlank]
    · simp
  | false =>
    have hwords := mt Text.words_eq_nil_iff.1 (Bool.not_eq_true _ ▸ hblank)
    split
    · simp [hwords]
    · simp [hblank]

namespace SearchService

variable (settings : SearchSettings) (o : SearchOptions)

/-- The texts looked for are those of the query, if it is not blank. -/
theorem needles_request :
    (request settings o).textMatch.needles =
      if Text.isBlank (ParsedQuery.ofText o.query).base then [] else (ParsedQuery.ofText o.query).texts := by
  have htrim : Text.trim (ParsedQuery.ofText o.query).base = (ParsedQuery.ofText o.query).base := by
    rw [Text.trim]
    exact (congrArg String.ofList (normalText_freeText o.query).collapsed.trim_eq).trans String.ofList_toList
  have hbase : (request settings o).base = (ParsedQuery.ofText o.query).base := rfl
  have hops : (request settings o).operators = (ParsedQuery.ofText o.query).operators := rfl
  rw [Request.needles_textMatch, Request.texts, hbase, hops, htrim]
  rfl

private theorem exclude_request :
    (request settings o).textMatch.exclude = (ParsedQuery.ofText o.query).operators.exclude := by
  have hops : (request settings o).operators = (ParsedQuery.ofText o.query).operators := rfl
  unfold Request.textMatch
  rw [hops]
  split <;> rfl

end SearchService

/-! ### Dates -/

section

variable {a b : Option Instant} {t : Instant}

private theorem latestBound_eq_or (a b : Option Instant) : latestBound a b = a ∨ latestBound a b = b := by
  rcases a with _ | a <;> rcases b with _ | b
  · exact .inl rfl
  · exact .inr rfl
  · exact .inl rfl
  · rw [latestBound, Instant.later]
    split
    · exact .inl rfl
    · exact .inr rfl

private theorem earliestBound_eq_or (a b : Option Instant) : earliestBound a b = a ∨ earliestBound a b = b := by
  rcases a with _ | a <;> rcases b with _ | b
  · exact .inl rfl
  · exact .inr rfl
  · exact .inl rfl
  · rw [earliestBound, Instant.earlier]
    split
    · exact .inr rfl
    · exact .inl rfl

theorem forall_latestBound :
    (∀ bound ∈ latestBound a b, bound ≤ t) ↔ (∀ bound ∈ a, bound ≤ t) ∧ ∀ bound ∈ b, bound ≤ t := by
  constructor
  · intro h
    rcases a with _ | a <;> rcases b with _ | b
    · simp
    · simpa [latestBound] using h
    · simpa [latestBound] using h
    · have hlater : a.later b ≤ t := h _ rfl
      simp only [Option.mem_def, Option.some.injEq, forall_eq']
      exact ⟨Instant.le_trans (Instant.le_later_left a b) hlater, Instant.le_trans (Instant.le_later_right a b) hlater⟩
  · rintro ⟨ha, hb⟩
    rcases latestBound_eq_or a b with h | h <;> rwa [h]

theorem forall_earliestBound :
    (∀ bound ∈ earliestBound a b, t ≤ bound) ↔ (∀ bound ∈ a, t ≤ bound) ∧ ∀ bound ∈ b, t ≤ bound := by
  constructor
  · intro h
    rcases a with _ | a <;> rcases b with _ | b
    · simp
    · simpa [earliestBound] using h
    · simpa [earliestBound] using h
    · have hearlier : t ≤ a.earlier b := h _ rfl
      simp only [Option.mem_def, Option.some.injEq, forall_eq']
      exact ⟨Instant.le_trans hearlier (Instant.earlier_le_left a b),
        Instant.le_trans hearlier (Instant.earlier_le_right a b)⟩
  · rintro ⟨ha, hb⟩
    rcases earliestBound_eq_or a b with h | h <;> rwa [h]

end

namespace Condition

variable {content : String} {t : Instant}

theorem isWithin_iff {first last : Option Instant} :
    isWithin first last t = true ↔ (∀ bound ∈ first, bound ≤ t) ∧ ∀ bound ∈ last, t ≤ bound := by
  rcases first with _ | first <;> rcases last with _ | last <;> simp [isWithin]

theorem holdsOf_between (c : Condition) (first last : Option Instant) :
    holdsOf content t (c.between first last) = (holdsOf content t c && isWithin first last t) := by
  unfold between
  split
  · next hnone =>
    rw [Bool.and_eq_true, Option.isNone_iff_eq_none, Option.isNone_iff_eq_none] at hnone
    rw [hnone.1, hnone.2, isWithin, Bool.and_true, Bool.and_true]
  · rfl

theorem holdsOf_excluding (c : Condition) (terms : List String) :
    holdsOf content t (c.excluding terms) = (holdsOf content t c && !mentionsAny terms content) := by
  unfold excluding
  split
  · next hblank =>
    have hnormal : normalTerms terms = [] := by
      simp only [normalTerms, List.filter_eq_nil_iff, List.mem_map]
      rintro _ ⟨term, hterm, rfl⟩
      have htrim := Chars.trim_eq_nil_iff.2 (Text.isBlank_iff.1 (List.all_eq_true.1 hblank term hterm))
      rw [htrim]
      decide
    rw [mentionsAny, hnormal, List.any_nil, Bool.not_false, Bool.and_true]
  · rfl

end Condition

/-! ### What a lookup lets through -/

/-- The database lets every date through that is within the bounds. -/
theorem Scalar.Stamps.isWithin_of_exact {s : Scalar} {t : Instant} (hstamp : s.Stamps t) {after before : Option Instant}
    (hstorable : ∀ bound, bound ∈ after ∨ bound ∈ before → t.Storable ∧ bound.Storable)
    (h : Condition.isWithin after before t = true) : Database.isWithin after before s = true := by
  obtain ⟨hafter, hbefore⟩ := Condition.isWithin_iff.1 h
  refine (hstamp.dates.isWithin_iff hafter hbefore).2 fun bound hbound => ?_
  obtain ⟨ht, hb⟩ := hstorable bound hbound
  exact ⟨hb.toRegular.storable_iff.1 hb, ht.toRegular.storable_iff.1 ht⟩

namespace Database

private theorem isAmong_iff {asked : List String} {value : String} :
    isAmong asked value = true ↔ asked = [] ∨ value ∈ asked := by
  simp [isAmong]

private theorem isAsked_iff {asked : Option String} {value : String} :
    isAsked asked value = true ↔ ∀ a ∈ asked, value = a := by
  cases asked with
  | none => simp [isAsked]
  | some a => simpa [isAsked] using @eq_comm _ a value

theorem attachmentFits_iff {required : Bool} {filter : Option Bool} {attachment : Option String} :
    attachmentFits required filter attachment = true ↔
      (required = true ∨ filter = some true → attachment ≠ none) ∧
        (¬required = true → filter = some false → attachment = none) := by
  rcases required with _ | _ <;> rcases filter with _ | _ | _ <;> cases attachment <;> simp [attachmentFits]

variable {db : Database} {q : MessageLookup} {m : Stored.Message}

theorem messageFits_iff :
    db.messageFits q m = true ↔
      ((q.channelIds = [] ∨ m.channelId ∈ q.channelIds) ∧ (∀ ids ∈ q.accessibleChannelIds, m.channelId ∈ ids) ∧
        ∀ id ∈ q.filters.channelId, m.channelId = id) ∧
      ((q.senderIds = [] ∨ m.senderId ∈ q.senderIds) ∧ ∀ id ∈ q.filters.userId, m.senderId = id) ∧
      (q.text.findsIn [m.content, m.formattedContent.getD ""] = true ∧ q.text.sparesText m.content = true) ∧
      (∀ name ∈ q.filters.messageType, m.messageType = name) ∧
      attachmentFits q.requireAttachment q.filters.hasAttachment m.attachmentId = true ∧
      (q.requireLink = true → hasLink m.content = true) ∧
      (q.requireReaction = true → ∃ r ∈ db.reactions.toList, r.messageId = m.id) ∧
      isWithin q.after q.before m.createdAt = true := by
  have haccessible : q.accessibleChannelIds.all (·.contains m.channelId) = true ↔
      ∀ ids ∈ q.accessibleChannelIds, m.channelId ∈ ids := by
    cases q.accessibleChannelIds <;> simp
  have himplies : ∀ a b : Bool, (!a || b) = true ↔ (a = true → b = true) := by decide
  simp only [messageFits, isInChannels, isFromSenders, TextMatch.holds, Bool.and_eq_true, isAmong_iff, isAsked_iff,
    haccessible, himplies, List.any_eq_true, decide_eq_true_eq, and_assoc]

end Database

namespace SearchService

variable {settings : SearchSettings} {o : SearchOptions} {db : Database} {channelIds senderIds : List String}
  {m : Stored.Message} {t : Instant}

/-- A plain message has one of the texts asked for, if any, when one of its columns is found. -/
private theorem findsIn_iff_text (settings : SearchSettings) (hquery : PlainQuery o.query)
    (hcontent : Text.Plain m.content) (hformatted : ∀ text ∈ m.formattedContent, Text.Plain text) :
    (request settings o).textMatch.findsIn [m.content, m.formattedContent.getD ""] = true ↔
      (Text.isBlank (ParsedQuery.ofText o.query).base = false → ∃ text ∈ (ParsedQuery.ofText o.query).texts,
        Text.Occurs text m.content ∨ ∃ formatted ∈ m.formattedContent, Text.Occurs text formatted) := by
  cases hblank : Text.isBlank (ParsedQuery.ofText o.query).base with
  | true => simp [TextMatch.findsIn, needles_request, hblank]
  | false =>
    have hneedles : (request settings o).textMatch.needles = (ParsedQuery.ofText o.query).texts := by
      rw [needles_request, hblank, if_neg Bool.false_ne_true]
    have hcolumns : ∀ column ∈ [m.content, m.formattedContent.getD ""], Text.Plain column := by
      intro column hcolumn
      rcases List.mem_cons.1 hcolumn with rfl | hcolumn
      · exact hcontent
      · rw [List.mem_singleton.1 hcolumn]
        cases hf : m.formattedContent with
        | none =>
          intro c hc
          cases hc
        | some text => exact hformatted text hf
    have hsome : (ParsedQuery.ofText o.query).texts ≠ [] := by
      unfold ParsedQuery.texts ParsedQuery.terms
      split
      · exact mt Text.words_eq_nil_iff.1 (by rw [hblank]; exact Bool.false_ne_true)
      · exact List.cons_ne_nil _ _
    rw [TextMatch.findsIn_iff (hneedles ▸ hquery.plain_texts) hcolumns, hneedles, or_iff_right hsome]
    simp only [true_implies]
    refine exists_congr fun text => and_congr_right fun htext => ?_
    -- a column that is missing is empty, and no text asked for is
    have hempty : ¬Text.Occurs text "" := by
      intro h
      have hnil := List.eq_nil_of_infix_nil h
      exact texts_ne_empty hblank text htext (List.map_eq_nil_iff.1 hnil)
    cases m.formattedContent with
    | none => simp [hempty]
    | some formatted => simp

/-- The condition on results compares dates exactly. -/
private theorem datedCondition_iff (hquery : PlainQuery o.query) (hcontent : Text.Plain m.content) :
    (request settings o).datedCondition.holdsOf m.content t = true ↔
      (∀ term ∈ (ParsedQuery.ofText o.query).operators.exclude, ¬Text.Occurs term m.content) ∧
        Condition.isWithin (request settings o).after (request settings o).before t = true := by
  have hops : (request settings o).operators = (ParsedQuery.ofText o.query).operators := rfl
  rw [Request.datedCondition, Condition.holdsOf_between, Condition.holdsOf_excluding, Condition.holdsOf, Bool.true_and,
    hops, Bool.and_eq_true, Bool.not_eq_true', ← Bool.not_eq_true,
    Condition.mentionsAny_iff hquery.excluded_terms hcontent]
  simp only [not_exists, not_and]

theorem isWithin_request_iff (settings : SearchSettings) :
    Condition.isWithin (request settings o).after (request settings o).before t = true ↔
      ((∀ bound ∈ (ParsedQuery.ofText o.query).operators.after, bound ≤ t) ∧
        ∀ bound ∈ o.filters.dateFrom, bound ≤ t) ∧
      (∀ bound ∈ (ParsedQuery.ofText o.query).operators.before, t ≤ bound) ∧
        ∀ bound ∈ o.filters.dateTo, t ≤ bound :=
  Condition.isWithin_iff.trans (and_congr forall_latestBound forall_earliestBound)

/-- The bounds of the lookup are bounds of the search. -/
private theorem mem_dateBounds {bound : Instant}
    (h : bound ∈ (request settings o).after ∨ bound ∈ (request settings o).before) : bound ∈ o.dateBounds := by
  simp only [SearchOptions.dateBounds, List.mem_append, Option.mem_toList]
  rcases h with h | h
  · rcases latestBound_eq_or (request settings o).operators.after o.filters.dateFrom with heq | heq
    · exact .inl (.inl (.inl (heq ▸ h)))
    · exact .inl (.inl (.inr (heq ▸ h)))
  · rcases earliestBound_eq_or (request settings o).operators.before o.filters.dateTo with heq | heq
    · exact .inl (.inr (heq ▸ h))
    · exact .inr (heq ▸ h)

theorem wantsAttachment_iff {ops : Operators} :
    ops.wantsAttachment = true ↔ .file ∈ ops.has ∨ .attachment ∈ ops.has := by
  simp only [Operators.wantsAttachment, List.any_eq_true, decide_eq_true_eq]
  constructor
  · rintro ⟨tag, htag, rfl | rfl⟩
    · exact .inl htag
    · exact .inr htag
  · rintro (h | h)
    · exact ⟨_, h, .inl rfl⟩
    · exact ⟨_, h, .inr rfl⟩

/-- The messages wanted are those that pass the lookup and the condition on its results. -/
theorem wanted_iff (hquery : PlainQuery o.query) (hbounds : ∀ bound ∈ o.dateBounds, bound.Storable)
    (hcontent : Text.Plain m.content) (hformatted : ∀ text ∈ m.formattedContent, Text.Plain text)
    (hstamp : m.createdAt.Stamps t) (hstorable : o.dateBounds ≠ [] → t.Storable) :
    Wanted db (ParsedQuery.ofText o.query) o channelIds senderIds m ↔
      db.messageFits ((request settings o).messageLookup channelIds senderIds) m = true ∧
        (request settings o).datedCondition.holdsOf m.content t = true := by
  have htext := findsIn_iff_text settings hquery hcontent hformatted
  have hspares : (request settings o).textMatch.sparesText m.content = true ↔
      ∀ term ∈ (ParsedQuery.ofText o.query).operators.exclude, ¬Text.Occurs term m.content := by
    rw [TextMatch.sparesText_iff (exclude_request settings o ▸ hquery.excluded_terms) hcontent, exclude_request]
  have hwithin : Condition.isWithin (request settings o).after (request settings o).before t = true →
      Database.isWithin (request settings o).after (request settings o).before m.createdAt = true :=
    hstamp.isWithin_of_exact fun bound h =>
      ⟨hstorable (List.ne_nil_of_mem (mem_dateBounds h)), hbounds bound (mem_dateBounds h)⟩
  have hattachment : ((request settings o).messageLookup channelIds senderIds).requireAttachment = true ↔
      .file ∈ (ParsedQuery.ofText o.query).operators.has ∨ .attachment ∈ (ParsedQuery.ofText o.query).operators.has :=
    wantsAttachment_iff
  have hlink : ((request settings o).messageLookup channelIds senderIds).requireLink = true ↔
      .link ∈ (ParsedQuery.ofText o.query).operators.has :=
    List.contains_iff_mem
  have hreaction : ((request settings o).messageLookup channelIds senderIds).requireReaction = true ↔
      .reaction ∈ (ParsedQuery.ofText o.query).operators.has :=
    List.contains_iff_mem
  rw [Database.messageFits_iff, datedCondition_iff hquery hcontent, Database.attachmentFits_iff, hattachment, hlink,
    hreaction, Database.hasLink_iff hcontent]
  constructor
  · intro h
    obtain ⟨u, hu, hdated⟩ := h.dated
    obtain rfl := hstamp.unique hu
    have hexact := (isWithin_request_iff settings).2 hdated
    -- the scale of the database is coarser than the exact dates, so it follows from them
    refine ⟨⟨⟨h.channel, h.visible, h.channelFilter⟩, ⟨h.sender, h.userFilter⟩, ⟨htext.2 h.text, hspares.2 h.spared⟩,
      h.typeFilter, ⟨?_, ?_⟩, h.link, h.reaction, hwithin hexact⟩, h.spared, hexact⟩
    · exact fun hasked => h.attached (or_assoc.1 hasked)
    · exact fun hasked => h.unattached (not_or.1 hasked).1 (not_or.1 hasked).2
  · rintro ⟨⟨⟨hchannel, hvisible, hchannelFilter⟩, ⟨hsender, huserFilter⟩, ⟨hfound, -⟩, htypeFilter,
      ⟨hattached, hunattached⟩, hlinked, hreacted, -⟩, hspared, hexact⟩
    exact {
      visible := hvisible
      text := htext.1 hfound
      channel := hchannel
      sender := hsender
      channelFilter := hchannelFilter
      userFilter := huserFilter
      typeFilter := htypeFilter
      attached := fun hasked => hattached (or_assoc.2 hasked)
      unattached := fun hfile hattachment => hunattached (not_or.2 ⟨hfile, hattachment⟩)
      link := hlinked
      reaction := hreacted
      dated := ⟨t, hstamp, (isWithin_request_iff settings).1 hexact⟩
      spared := hspared }

end SearchService

end WorkspaceSearch
