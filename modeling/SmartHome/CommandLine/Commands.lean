import SmartHome.CommandLine.Arguments
import SmartHome.Compiled.Json
import SmartHome.Device.Listing
import SmartHome.Home.Decode
import SmartHome.Home.Selections
import SmartHome.Settings
import SmartHome.Vocabulary

/-!
# Commands

A command is a function of the files, the variables and the arguments. It says what it was doing
when it failed, except for a preset selected for a device that is not there.
-/

namespace SmartHome

namespace CommandLine

inductive CommandError where
  | settings (error : SettingsError)
  | loadingTypes (directory : Path) (cause : HomeError)
  | loadingHome (file : Path) (cause : HomeError)
  | selecting (cause : HomeError)
  | compiling (file : Path) (cause : HomeError)

namespace CommandError

def message : CommandError → String
  | settings e => e.message
  | loadingTypes p e => "Failed to load device types from " ++ Quoted.text p.text ++ ": " ++ e.message
  | loadingHome p e => "Failed to load home from " ++ Quoted.text p.text ++ ": " ++ e.message
  | selecting e => e.message
  | compiling p e => "Failed to compile " ++ Quoted.text p.text ++ ": " ++ e.message

end CommandError

/-- The settings with the arguments that are given in their places. -/
def withArguments (s : Settings) (a : Arguments) : Settings :=
  { s with
    homeFile := a.homeFile.getD s.homeFile
    typesDirectory := a.typesDirectory.getD s.typesDirectory }

/-- The device types of the settings' directory. -/
def loadTypes (workspace : Workspace) (s : Settings) : Except CommandError Registry :=
  (Registry.ofDirectory workspace s.typesDirectory).mapError (.loadingTypes s.typesDirectory)

/-- The last selection for each device, in the order of the first ones. -/
def selections (presets : List PresetChoice) : Selections :=
  presets.foldl (fun s c => s.set c.area c.device c.key) .empty

/-- Compile the home of the settings with presets selected. -/
def compiledHome (workspace : Workspace) (s : Settings) (presets : List PresetChoice) :
    Except CommandError CompiledHome := do
  let catalog ← loadTypes workspace s
  let h ← (Home.load workspace s.homeFile).mapError (.loadingHome s.homeFile)
  let h ← ((selections presets).applied h).mapError .selecting
  (CompiledHome.build h catalog Vocabulary.table.resolve).mapError (.compiling s.homeFile)

/-- The number of devices, entities and areas of a compiled home. -/
def summary (c : CompiledHome) : String :=
  "OK: " ++ toString c.devices.length ++ " devices with " ++ toString c.entityCount
    ++ " entities in " ++ toString c.areas.length ++ " areas"

/-- How the program is used. -/
def usage : String := "\n".intercalate [
  "Synthetic Home - compile device models into entities",
  "",
  "Usage:",
  "  synthetic-home compile [HOME] [--device-types DIR] [--preset [AREA/]DEVICE=KEY]...",
  "  synthetic-home check [HOME] [--device-types DIR] [--preset [AREA/]DEVICE=KEY]...",
  "  synthetic-home dump [--device-types DIR]",
  "",
  "Defaults come from synthetic_home.yaml and SYNTHETIC_HOME_* variables.",
  "",
  "Examples:",
  "  synthetic-home check home.yaml",
  "  synthetic-home compile home.yaml --preset 'Porch/Camera=motion-detected'",
  "  synthetic-home dump --device-types ./device_types"]

/-- The settings of the working directory under the arguments. -/
def settingsFor (workspace : Workspace) (a : Arguments) : Except CommandError Settings := do
  let s ← (Settings.load workspace Document.here).mapError .settings
  pure (withArguments s a)

/-- The text that a command writes. -/
def run (workspace : Workspace) (a : Arguments) : Except CommandError String :=
  match a.command with
  | .help => .ok usage
  | .compile => do
    let c ← compiledHome workspace (← settingsFor workspace a) a.presets
    pure (Json.ofCompiledHome c).pretty
  | .check => do pure (summary (← compiledHome workspace (← settingsFor workspace a) a.presets))
  | .list => do pure (← loadTypes workspace (← settingsFor workspace a)).listing

end CommandLine

end SmartHome
