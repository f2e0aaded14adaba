import SmartHome.Files.Path

/-!
# Command line arguments

The first argument is the command. What follows are options with their values and at most one other
argument, the home; the listing of the device types takes none. A preset is selected by
`[AREA/]DEVICE=KEY`: the key stands behind the first equals sign, and the area, if there is one, in
front of the first slash before it.
-/

namespace SmartHome

namespace CommandLine

inductive Command where
  /-- Compile the home and write it out. -/
  | compile
  /-- Compile the home and count what is in it. -/
  | check
  /-- List the device types. -/
  | list
  | help
  deriving DecidableEq

/-- A preset selected for a device; without an area, for a service. -/
structure PresetChoice where
  area : Option String
  device : String
  key : String
  deriving DecidableEq

structure Arguments where
  command : Command
  homeFile : Option Path
  typesDirectory : Option Path
  presets : List PresetChoice
  deriving DecidableEq

inductive UsageError where
  | unknownCommand (argument : String)
  | directoryMissing
  | presetMissing
  | invalidPreset (argument : String)
  | unknownOption (argument : String)
  | unexpectedArgument (argument : String)
  deriving DecidableEq

namespace UsageError

def message : UsageError → String
  | unknownCommand a => "Unknown command: " ++ a
  | directoryMissing => "--device-types requires a directory"
  | presetMissing => "--preset requires [AREA/]DEVICE=KEY"
  | invalidPreset a => "Invalid preset '" ++ a ++ "', expected [AREA/]DEVICE=KEY"
  | unknownOption a => "Unknown option: " ++ a
  | unexpectedArgument a => "Unexpected argument: " ++ a

end UsageError

namespace PresetChoice

/-- The selection that a text means. -/
def parse? (s : String) : Option PresetChoice := do
  let (target, key) ← Split.splitFirst? '=' s.toList
  if target.isEmpty || key.isEmpty then none
  else match Split.splitFirst? '/' target with
    | some (area, device) =>
      some ⟨some (String.ofList area), String.ofList device, String.ofList key⟩
    | none => some ⟨none, String.ofList target, String.ofList key⟩

/-- The text of a selection. -/
def text (c : PresetChoice) : String :=
  (match c.area with
    | some area => area ++ "/" ++ c.device
    | none => c.device) ++ "=" ++ c.key

end PresetChoice

namespace Command

/-- The command of a word. -/
def ofWord? : String → Option Command
  | "compile" => some compile
  | "check" => some check
  | "dump" => some list
  | "help" | "--help" | "-h" => some help
  | _ => none

end Command

namespace Arguments

def typesOption : String := "--device-types"

def presetOption : String := "--preset"

/-- The argument is written like an option. -/
def isOption (argument : String) : Bool := ['-', '-'].isPrefixOf argument.toList

/-- Read the arguments behind the command, from left to right. -/
def parseRest (a : Arguments) : List String → Except UsageError Arguments
  | [] => .ok a
  | s :: rest =>
    if s = typesOption then match rest with
      | [] => .error .directoryMissing
      | path :: rest => parseRest { a with typesDirectory := some ⟨path⟩ } rest
    else if s = presetOption then match rest with
      | [] => .error .presetMissing
      | text :: rest => match PresetChoice.parse? text with
        | some choice => parseRest { a with presets := a.presets ++ [choice] } rest
        | none => .error (.invalidPreset text)
    else if isOption s then .error (.unknownOption s)
    else if a.homeFile = none ∧ a.command ≠ .list then
      parseRest { a with homeFile := some ⟨s⟩ } rest
    else .error (.unexpectedArgument s)

/-- Read the arguments; without any, they ask for help. -/
def parse : List String → Except UsageError Arguments
  | [] => .ok ⟨.help, none, none, []⟩
  | s :: rest => match Command.ofWord? s with
    | some command => parseRest ⟨command, none, none, []⟩ rest
    | none => .error (.unknownCommand s)

end Arguments

end CommandLine

end SmartHome
