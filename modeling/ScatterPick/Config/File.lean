import ScatterPick.Config.JsonForm
import ScatterPick.Config.YamlForm
import ScatterPick.Files.Tree

/-!
# Settings files

Settings are kept in JSON where the path says so, and in YAML elsewhere. Reading picks the format
by the same rule as writing.
-/

namespace ScatterPick

open Files

/-- Why settings could not be saved or loaded. -/
inductive SettingsError where
  | directoryNotMade (path : String) (cause : Refusal)
  | fileNotMade (path : String) (cause : Refusal)
  | notRead (path : String) (cause : Refusal)
  | json (cause : Json.Failure)
  | yaml (cause : YamlProblem)
  /-- No home directory is set. -/
  | homeless
  | noDefaultFile (path : String)

/-- The wording of an error. -/
def SettingsError.message : SettingsError → String
  | directoryNotMade path cause =>
    "Failed to create dir " ++ Text.quoted path ++ ": " ++ cause.message
  | fileNotMade path cause => "Failed to create file " ++ Text.quoted path ++ ": " ++ cause.message
  | notRead path cause => "Failed to read " ++ Text.quoted path ++ ": " ++ cause.message
  | json cause => "Deserialization error: " ++ cause.message
  | yaml .malformed => "Deserialization error"
  | yaml (.misfit failure) => "Deserialization error: " ++ failure.message
  | homeless => "HOME env var not set: environment variable not found"
  | noDefaultFile path => "Config file " ++ Text.quoted path ++ " does not exist"

/-- Whether a path has the extension of JSON files, in letters of any case. -/
def isJsonPath (path : String) : Bool :=
  (extension? path).any fun ext => ext.map Char.toLower = ['j', 's', 'o', 'n']

namespace Settings

/-- The text of settings in the format of a path. -/
def write (s : Settings) (path : String) : String :=
  if isJsonPath path then s.toJson.pretty else s.writeYaml

/-- Reads settings from a text in the format of a path. -/
def read (path text : String) : Except SettingsError Settings :=
  if isJsonPath path then (Settings.readJson text).mapError .json
  else (Settings.readYaml text).mapError .yaml

/-- Saves settings, with the directories around the file. -/
def save (s : Settings) (path : String) (files : Tree) : Except SettingsError Tree := do
  let files ← match parent? path with
    | some outer =>
      (files.makeDirectories outer).mapError (.directoryNotMade outer)
    | none => .ok files
  (files.write path (Bytes.ofText (s.write path))).mapError (.fileNotMade path)

/-- Loads settings. -/
def load (path : String) (files : Tree) : Except SettingsError Settings := do
  let text ← (files.readText path).mapError (.notRead path)
  read path text

/-- The path of the settings below a home directory. -/
def defaultPath (home : Option String) : Except SettingsError String :=
  match home with
  | some home => .ok (join (join home ".lassoplot") "selection.yaml")
  | none => .error .homeless

/-- Loads the settings below a home directory. -/
def loadDefault (home : Option String) (files : Tree) : Except SettingsError Settings := do
  let path ← defaultPath home
  if files.contains path then load path files else throw (.noDefaultFile path)

end Settings

end ScatterPick
