import WorkspaceSearch.Settings.Document

/-!
# The folder of the settings

Settings are kept in one file of a folder.  Without the file they are loaded as their defaults; otherwise the file must
hold a document of valid settings.  Only valid settings are saved, and saving makes the folder when it is missing.
-/

namespace WorkspaceSearch

/-- What stands in the folder under the name of the settings file. -/
inductive SettingsEntry where
  | missing
  | file (text : String)
  /-- A folder, which is in the way of the file. -/
  | folder
  deriving DecidableEq, Repr, Inhabited

/-- The folder of the settings. -/
inductive SettingsFolder where
  | missing
  /-- A file is in the way of the folder. -/
  | blocked
  | present (entry : SettingsEntry)
  deriving DecidableEq, Repr, Inhabited

/-- Why settings cannot be loaded, saved or reset. -/
inductive SettingsFault where
  | unreadable
  | unparsable
  | invalid (error : Error)
  | noFolder
  | notWritable
  | unwritable
  | notRemovable
  deriving DecidableEq, Repr

namespace SettingsFault

/-- The path of the settings file in a folder. -/
def filePath (folder : String) : String := folder ++ "/config.toml"

/-- The wording of a fault, given the path of the folder. -/
def message (folder : String) : SettingsFault → String
  | .unreadable => "Failed to read config file: " ++ filePath folder
  | .unparsable => "Failed to parse config file: " ++ filePath folder
  | .invalid e => e.message
  | .noFolder => "Failed to create config directory: " ++ folder
  | .notWritable => "Failed to serialize config"
  | .unwritable => "Failed to write config file: " ++ filePath folder
  | .notRemovable => "Failed to remove config file: " ++ filePath folder

end SettingsFault

namespace SettingsFolder

/-- The entry of the settings file. -/
def entry : SettingsFolder → SettingsEntry
  | .present entry => entry
  | _ => .missing

/-- The text of the settings file, if there is one. -/
def text? (f : SettingsFolder) : Option String :=
  match f.entry with
  | .file text => some text
  | _ => none

/-- Loads settings. -/
def load (f : SettingsFolder) : Except SettingsFault Settings :=
  match f.entry with
  | .missing => .ok {}
  | .folder => .error .unreadable
  | .file text =>
    match Settings.ofDocument? text with
    | none => .error .unparsable
    | some s =>
      match s.validate with
      | .error e => .error (.invalid e)
      | .ok () => .ok s

/-- Writes the settings file of a folder that is there. -/
def write (s : Settings) (entry : SettingsEntry) : Except SettingsFault Unit × SettingsFolder :=
  match s.toDocument? with
  | none => (.error .notWritable, .present entry)
  | some text => if entry = .folder then (.error .unwritable, .present entry) else (.ok (), .present (.file text))

/-- Saves settings; the folder afterwards is also part of the answer. -/
def save (f : SettingsFolder) (s : Settings) : Except SettingsFault Unit × SettingsFolder :=
  match s.validate with
  | .error e => (.error (.invalid e), f)
  | .ok () =>
    match f with
    | .blocked => (.error .noFolder, f)
    | .missing => write s .missing
    | .present entry => write s entry

/-- Removes the settings file. -/
def reset (f : SettingsFolder) : Except SettingsFault Unit × SettingsFolder :=
  match f with
  | .present .folder => (.error .notRemovable, f)
  | .present _ => (.ok (), .present .missing)
  | f => (.ok (), f)

end SettingsFolder

end WorkspaceSearch
