import SmartHome.Decode.Source
import SmartHome.Document.Loader

/-!
# Settings

Settings say where the device types and the home are. They are read from a document of a fixed name,
if it is there, and environment variables override them.
-/

namespace SmartHome

structure Settings where
  typesDirectory : Path
  homeFile : Path
  logLevel : String
  deriving DecidableEq

inductive SettingsError where
  | document (error : DocumentError)
  | undecodable (fault : Decode.Fault)

namespace Settings

/-- The name of the settings document. -/
def fileName : String := "synthetic_home.yaml"

/-- The settings without a document and without variables. -/
def default : Settings := ⟨⟨"device_types"⟩, ⟨"home.yaml"⟩, "info"⟩

/-- Decode settings; fields that are left out have their defaults. -/
def decode (s : Decode.Source) : Except Decode.Fault Settings :=
  s.fields "Settings" ["device_types_path", "home_file", "log_level"] .refused
    (fun (settings : Settings) name v => match name with
      | "device_types_path" => do
        pure { settings with typesDirectory := ⟨← v.textAs "path string"⟩ }
      | "home_file" => do pure { settings with homeFile := ⟨← v.textAs "path string"⟩ }
      | _ => do pure { settings with logLevel := ← v.text })
    default

/-- The settings of a loaded document. -/
def ofValue (v : Yaml.Value) : Except SettingsError Settings :=
  (decode (.value v)).mapError .undecodable

/-- The variables that override settings. -/
def typesVariable : String := "SYNTHETIC_HOME_DEVICE_TYPES"
def homeVariable : String := "SYNTHETIC_HOME_FILE"
def logVariable : String := "SYNTHETIC_HOME_LOG"

/-- The settings with the variables that are set in their places. -/
def override (s : Settings) (environment : Dict String String) : Settings where
  typesDirectory := ((environment.get? typesVariable).map fun text => ⟨text⟩).getD s.typesDirectory
  homeFile := ((environment.get? homeVariable).map fun text => ⟨text⟩).getD s.homeFile
  logLevel := (environment.get? logVariable).getD s.logLevel

/-- The settings that hold in a directory. -/
def load (workspace : Workspace) (directory : Path) : Except SettingsError Settings := do
  let path := directory.join ⟨fileName⟩
  let s ← if workspace.files.pathExists path then do
      ofValue (← (Document.load workspace Document.here path).mapError .document)
    else pure default
  pure (s.override workspace.environment)

end Settings

namespace SettingsError

def message : SettingsError → String
  | document e => e.message
  | undecodable fault =>
    "invalid configuration value for '" ++ Settings.fileName ++ "': " ++ fault.message

end SettingsError

end SmartHome
