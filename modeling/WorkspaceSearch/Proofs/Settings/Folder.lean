import WorkspaceSearch.Proofs.Settings.Document
import WorkspaceSearch.Settings.Folder

/-!
# Saved settings are loaded again

Whatever the settings file held, valid settings with numbers that fit into 64 bits with a sign are loaded as they were
saved, unless something is in the way of the folder or of the file.  Settings that are not valid are neither saved nor
loaded (`SettingsFolder.saved_loads`).
-/

namespace WorkspaceSearch

open Numeral (Bounded Range)

-- the powers of the core library, whatever else is in scope
attribute [local instance (2000)] instPowNat

/-! ### Valid settings -/

namespace Settings

variable {s : Settings}

/-- The numbers of settings. -/
def numbers (s : Settings) : List Int :=
  [s.search.defaultLimit.val, s.search.maxResultsPerDomain.val, s.search.domainTimeout.val, s.search.contextRadius.val,
    s.suggestions.minPrefixLength.val, s.suggestions.historyLimit.val, s.suggestions.channelLimit.val,
    s.suggestions.userLimit.val, s.storage.maxConnections.val]

private theorem problem?_of_validate (h : s.validate = .ok ()) : s.problem? = none := by
  unfold validate at h
  split at h
  · cases h
  · assumption

private theorem defaultLimit_nonneg (h : s.validate = .ok ()) : 0 ≤ s.search.defaultLimit.val := by
  have hnone := problem?_of_validate h
  unfold problem? at hnone
  split at hnone
  · cases hnone
  · omega

private theorem isWritableNumber {range : Range} {n : Bounded range} (hlow : 0 ≤ n.val)
    (hhigh : n.val ≤ 2 ^ (63 : Nat) - 1) : IsWritableNumber n := by
  have hbound : -(2 ^ (63 : Nat)) ≤ n.val := by omega
  exact ⟨hlow, Bool.and_eq_true_iff.2 ⟨decide_eq_true hbound, decide_eq_true hhigh⟩⟩

private theorem nonneg_of_range {range : Range} (hlow : range.low = 0) (n : Bounded range) : 0 ≤ n.val :=
  hlow ▸ of_decide_eq_true (Bool.and_eq_true_iff.1 n.isIn).1

private theorem isWritable (hvalid : s.validate = .ok ()) (hfits : ∀ n ∈ s.numbers, n ≤ 2 ^ (63 : Nat) - 1) :
    s.IsWritable where
  defaultLimit := isWritableNumber (defaultLimit_nonneg hvalid) (hfits _ (by simp [numbers]))
  maxResultsPerDomain := isWritableNumber (nonneg_of_range rfl _) (hfits _ (by simp [numbers]))
  domainTimeout := isWritableNumber (nonneg_of_range rfl _) (hfits _ (by simp [numbers]))
  contextRadius := isWritableNumber (nonneg_of_range rfl _) (hfits _ (by simp [numbers]))
  minPrefixLength := isWritableNumber (nonneg_of_range rfl _) (hfits _ (by simp [numbers]))
  historyLimit := isWritableNumber (nonneg_of_range rfl _) (hfits _ (by simp [numbers]))
  channelLimit := isWritableNumber (nonneg_of_range rfl _) (hfits _ (by simp [numbers]))
  userLimit := isWritableNumber (nonneg_of_range rfl _) (hfits _ (by simp [numbers]))
  maxConnections := isWritableNumber (nonneg_of_range rfl _) (hfits _ (by simp [numbers]))

end Settings

/-! ### The folder -/

namespace SettingsFolder

variable {f : SettingsFolder} {s : Settings}

private theorem save_of_invalid {e : Error} (h : s.validate = .error e) : f.save s = (.error (.invalid e), f) := by
  unfold save
  rw [h]

/-- Whatever stood in the folder, the file holds the document afterwards. -/
private theorem save_of_valid {text : String} (hvalid : s.validate = .ok ()) (hwrite : s.toDocument? = some text)
    (hfolder : f ≠ .blocked) (hfile : f ≠ .present .folder) : f.save s = (.ok (), .present (.file text)) := by
  have hwritten : ∀ {old : SettingsEntry}, old ≠ .folder → write s old = (.ok (), .present (.file text)) := by
    intro old hold
    simp only [write, hwrite, if_neg hold]
  unfold save
  rw [hvalid]
  cases f with
  | missing => exact hwritten (by decide)
  | blocked => exact absurd rfl hfolder
  | present old => exact hwritten fun h => hfile (congrArg present h)

private theorem save_blocked (hvalid : s.validate = .ok ()) : save .blocked s = (.error .noFolder, .blocked) := by
  unfold save
  rw [hvalid]

private theorem save_folder {text : String} (hvalid : s.validate = .ok ()) (hwrite : s.toDocument? = some text) :
    save (.present .folder) s = (.error .unwritable, .present .folder) := by
  unfold save
  rw [hvalid]
  simp only [write, hwrite, ↓reduceIte]

private theorem load_file {text : String} (h : Settings.ofDocument? text = some s) (hvalid : s.validate = .ok ()) :
    load (.present (.file text)) = .ok s := by
  simp only [load, entry, h, hvalid]

private theorem validate_of_load (h : f.load = .ok s) : s.validate = .ok () := by
  unfold load at h
  split at h
  · cases h
    rfl
  · cases h
  · split at h
    · cases h
    · split at h
      · cases h
      · cases h
        assumption

/-- Valid settings with numbers of 64 bits with a sign are saved and loaded as they were, unless a file is in the way of
the folder or a folder in the way of the file.  Settings that are not valid leave the folder as it is, and none are
loaded from it. -/
theorem saved_loads :
    (∀ (f : SettingsFolder) (s : Settings), s.validate = .ok () → (∀ n ∈ s.numbers, n ≤ 2 ^ (63 : Nat) - 1) →
      (f.save s).1 = .ok () ∧ (f.save s).2.load = .ok s ∨
        f = .blocked ∧ f.save s = (.error .noFolder, f) ∨
        f = .present .folder ∧ f.save s = (.error .unwritable, f)) ∧
    (∀ (f : SettingsFolder) (s : Settings) (e : Error), s.validate = .error e → f.save s = (.error (.invalid e), f)) ∧
    ∀ (f : SettingsFolder) (s : Settings), f.load = .ok s → s.validate = .ok () := by
  refine ⟨fun f s hvalid hfits => ?_, fun f s e => save_of_invalid, fun f s => validate_of_load⟩
  obtain ⟨text, hwrite, hread⟩ := Settings.ofDocument?_toDocument? (Settings.isWritable hvalid hfits)
  by_cases hfolder : f = .blocked
  · subst hfolder
    exact .inr (.inl ⟨rfl, save_blocked hvalid⟩)
  by_cases hfile : f = .present .folder
  · subst hfile
    exact .inr (.inr ⟨rfl, save_folder hvalid hwrite⟩)
  rw [save_of_valid hvalid hwrite hfolder hfile]
  exact .inl ⟨rfl, load_file hread hvalid⟩

/-- Settings with a path that cannot be written without escapes. -/
def oddSettings : Settings where
  storage := { databasePath := some "C:\\\"a'\n'''#=\x00" }

theorem saved_loads_odd_path :
    oddSettings.validate = .ok () ∧ (∀ n ∈ oddSettings.numbers, n ≤ 2 ^ (63 : Nat) - 1) ∧
      (save .missing oddSettings).1 = .ok () ∧ (save .missing oddSettings).2.load = .ok oddSettings := by
  have hvalid : oddSettings.validate = .ok () := rfl
  have hfits : ∀ n ∈ oddSettings.numbers, n ≤ 2 ^ (63 : Nat) - 1 := by decide
  refine ⟨hvalid, hfits, ?_⟩
  rcases saved_loads.1 .missing oddSettings hvalid hfits with hsaved | ⟨hfolder, -⟩ | ⟨hfile, -⟩
  · exact hsaved
  · cases hfolder
  · cases hfile

end SettingsFolder

end WorkspaceSearch
