import WorkspaceSearch.Proofs.Toml.Sections
import WorkspaceSearch.Settings.Document

/-!
# Settings are read back from their document

Settings whose numbers are not negative and fit into 64 bits with a sign (`Settings.IsWritable`) are written as a
document of three sections (`Settings.toDocument?_eq`), and the document is read as the same settings
(`Settings.ofDocument?_toDocument?`).
-/

namespace WorkspaceSearch

open Toml (Field Section sectionLines sectionTable)
open Numeral (Bounded Range)

-- the powers of the core library, whatever else is in scope
attribute [local instance (2000)] instPowNat

/-! ### Fields -/

/-- A number that can be written and is not negative. -/
def Settings.IsWritableNumber {range : Range} (n : Bounded range) : Prop :=
  0 ≤ n.val ∧ Range.integer64.holds n.val = true

/-- Settings all of whose numbers can be written and are not negative. -/
structure Settings.IsWritable (s : Settings) : Prop where
  defaultLimit : IsWritableNumber s.search.defaultLimit
  maxResultsPerDomain : IsWritableNumber s.search.maxResultsPerDomain
  domainTimeout : IsWritableNumber s.search.domainTimeout
  contextRadius : IsWritableNumber s.search.contextRadius
  minPrefixLength : IsWritableNumber s.suggestions.minPrefixLength
  historyLimit : IsWritableNumber s.suggestions.historyLimit
  channelLimit : IsWritableNumber s.suggestions.channelLimit
  userLimit : IsWritableNumber s.suggestions.userLimit
  maxConnections : IsWritableNumber s.storage.maxConnections

/-- The field of a number. -/
def Settings.numberField {range : Range} (name : String) (hname : Toml.IsBareName name) (n : Bounded range)
    (h : IsWritableNumber n) : Field where
  name := name
  written := Numeral.digits n.val.toNat
  value := .integer n.val
  bare := hname
  readsBack := by
    have hval : (n.val.toNat : Int) = n.val := Int.toNat_of_nonneg h.1
    have hread := Toml.readsBack_digits (n := n.val.toNat) (by rw [hval]; exact h.2)
    rwa [hval] at hread

/-- The field of a path. -/
def Settings.pathField (path : String) : Field where
  name := "database_path"
  written := Toml.quote path.toList
  value := .string path
  bare := by decide
  readsBack := by
    have hread := Toml.readsBack_quote path.toList
    rwa [String.ofList_toList] at hread

private theorem Settings.numberLine_eq {range : Range} {name : String} (hname : Toml.IsBareName name)
    {n : Bounded range}
    (h : IsWritableNumber n) : numberLine name n = some (.ofList (numberField name hname n h).line) := by
  have hrender : Numeral.render n.val = .ofList (Numeral.digits n.val.toNat) := by
    obtain ⟨k, hk⟩ := Int.eq_ofNat_of_zero_le h.1
    rw [hk]
    rfl
  rw [numberLine, if_pos h.2, hrender]
  refine congrArg some (String.toList_injective ?_)
  simp [numberField, Field.line]

private theorem Settings.readNumber_val {range : Range} (default n : Bounded range) :
    readNumber default (some (.integer n.val)) = some n := dif_pos n.isIn

/-! ### Sections -/

/-- The search section. -/
def Settings.searchSection (s : Settings) (h : s.IsWritable) : Section where
  name := "search"
  fields :=
    [numberField "default_limit" (by decide) s.search.defaultLimit h.defaultLimit,
      numberField "max_results_per_domain" (by decide) s.search.maxResultsPerDomain h.maxResultsPerDomain,
      numberField "domain_timeout_ms" (by decide) s.search.domainTimeout h.domainTimeout,
      numberField "context_radius" (by decide) s.search.contextRadius h.contextRadius]
  bare := by decide
  nodup := by simp [numberField]

/-- The suggestion section. -/
def Settings.suggestionSection (s : Settings) (h : s.IsWritable) : Section where
  name := "suggestions"
  fields :=
    [numberField "min_prefix_len" (by decide) s.suggestions.minPrefixLength h.minPrefixLength,
      numberField "history_limit" (by decide) s.suggestions.historyLimit h.historyLimit,
      numberField "channel_limit" (by decide) s.suggestions.channelLimit h.channelLimit,
      numberField "user_limit" (by decide) s.suggestions.userLimit h.userLimit]
  bare := by decide
  nodup := by simp [numberField]

/-- The storage section. -/
def Settings.storageSection (s : Settings) (h : s.IsWritable) : Section where
  name := "storage"
  fields := s.storage.databasePath.toList.map pathField ++
    [numberField "max_connections" (by decide) s.storage.maxConnections h.maxConnections]
  bare := by decide
  nodup := by cases s.storage.databasePath <;> simp [numberField, pathField]

/-- The sections of a document of settings. -/
def Settings.sections (s : Settings) (h : s.IsWritable) : List Section :=
  [s.searchSection h, s.suggestionSection h, s.storageSection h]

variable {s : Settings}

@[simp]
theorem Settings.name_searchSection (h : s.IsWritable) : (s.searchSection h).name = "search" := rfl

@[simp]
theorem Settings.name_suggestionSection (h : s.IsWritable) : (s.suggestionSection h).name = "suggestions" := rfl

@[simp]
theorem Settings.name_storageSection (h : s.IsWritable) : (s.storageSection h).name = "storage" := rfl

/-! ### Writing -/

private theorem SearchSettings.lines_eq (h : s.IsWritable) :
    s.search.lines = some ((s.searchSection h).fields.map fun f => .ofList f.line) := by
  rw [lines, Settings.numberLine_eq (by decide) h.defaultLimit,
    Settings.numberLine_eq (by decide) h.maxResultsPerDomain, Settings.numberLine_eq (by decide) h.domainTimeout,
    Settings.numberLine_eq (by decide) h.contextRadius]
  rfl

private theorem SuggestionSettings.lines_eq (h : s.IsWritable) :
    s.suggestions.lines = some ((s.suggestionSection h).fields.map fun f => .ofList f.line) := by
  rw [lines, Settings.numberLine_eq (by decide) h.minPrefixLength, Settings.numberLine_eq (by decide) h.historyLimit,
    Settings.numberLine_eq (by decide) h.channelLimit, Settings.numberLine_eq (by decide) h.userLimit]
  rfl

private theorem StorageSettings.lines_eq (h : s.IsWritable) :
    s.storage.lines = some ((s.storageSection h).fields.map fun f => .ofList f.line) := by
  have hpath : ∀ p : String, "database_path = " ++ .ofList (Toml.quote p.toList) ++ "\n" =
      String.ofList (Settings.pathField p).line := by
    intro p
    refine String.toList_injective ?_
    simp [Settings.pathField, Field.line]
  rw [lines, Settings.numberLine_eq (by decide) h.maxConnections, Settings.storageSection, List.map_append,
    List.map_map]
  simp only [hpath, Option.map_some, List.map_singleton, Function.comp_def]

/-- The lines of fields. -/
private theorem flatMap_toList_lines (fields : List Field) :
    (fields.map fun f => String.ofList f.line).flatMap String.toList = fields.flatMap Field.line := by
  simp [List.flatMap_map]

/-- The document of settings is that of their sections. -/
theorem Settings.toDocument?_eq (h : s.IsWritable) :
    ∃ text, s.toDocument? = some text ∧ text.toList = sectionLines (s.sections h) := by
  rw [toDocument?, SearchSettings.lines_eq h, SuggestionSettings.lines_eq h, StorageSettings.lines_eq h]
  refine ⟨_, rfl, ?_⟩
  simp only [String.toList_join, List.flatMap_append, flatMap_toList_lines]
  simp [sections, sectionLines, Section.lines]

/-! ### Reading -/

private theorem SearchSettings.ofValue?_section (h : s.IsWritable) :
    ofValue? (s.searchSection h).value = some s.search := by
  simp [ofValue?, Section.value, Settings.sectionFields, Settings.searchSection, Settings.numberField,
    Settings.readNumber_val]

private theorem SuggestionSettings.ofValue?_section (h : s.IsWritable) :
    ofValue? (s.suggestionSection h).value = some s.suggestions := by
  simp [ofValue?, Section.value, Settings.sectionFields, Settings.suggestionSection, Settings.numberField,
    Settings.readNumber_val]

private theorem StorageSettings.ofValue?_section (h : s.IsWritable) :
    ofValue? (s.storageSection h).value = some s.storage := by
  obtain ⟨search, suggestions, path, connections⟩ := s
  cases path <;> simp [ofValue?, Section.value, Settings.sectionFields, Settings.storageSection, Settings.numberField,
    Settings.pathField, Settings.readPath, Settings.readNumber_val]

/-- The sections of settings are read as the settings. -/
private theorem Settings.ofValue?_sections (h : s.IsWritable) : ofValue? (sectionTable (s.sections h)) = some s := by
  simp [ofValue?, sectionTable, sections, sectionFields, readSection,
    SearchSettings.ofValue?_section h, SuggestionSettings.ofValue?_section h, StorageSettings.ofValue?_section h]

theorem Settings.ofDocument?_toDocument? (h : s.IsWritable) :
    ∃ text, s.toDocument? = some text ∧ ofDocument? text = some s := by
  obtain ⟨text, hwrite, htext⟩ := toDocument?_eq h
  have hnames : ((s.sections h).map (·.name)).Nodup := by simp [sections]
  refine ⟨text, hwrite, ?_⟩
  rw [ofDocument?, Toml.parse?_document hnames htext]
  exact ofValue?_sections h

end WorkspaceSearch
