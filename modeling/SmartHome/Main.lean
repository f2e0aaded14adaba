import SmartHome.CommandLine.Missing

/-!
# The program

A command is run on the files and variables that are known, which are few at first. What it misses
is looked for, and the command is run again, until it misses nothing that was not looked for before.
Of every directory on the way to a file all documents become known, so what is known of a directory
is never only a part of it.
-/

namespace SmartHome

namespace Program

/-- The text of a place. -/
def pathOf (place : Place) : String := "/" ++ "/".intercalate (place.map OsText.shown)

/-- The file at a path. -/
def readEntry (path : String) : IO Entry := do
  try
    let bytes ← IO.FS.readBinFile path
    pure (.file (String.fromUTF8? bytes))
  catch _ => pure (.file none)

/-- What the directory at a place allows; to look the directory up in itself is to go through it. -/
def readAccess (place : Place) : IO Access := do
  let directory := (← IO.currentDir) / pathOf place
  let list ← try
      let _ ← directory.readDir
      pure true
    catch _ => pure false
  pure ⟨list, ← (directory / ".").isDir⟩

/-- The places of the documents in a directory. -/
def documentPlaces (place : Place) : IO (List Place) := do
  let directory := (← IO.currentDir) / pathOf place
  try
    let names := (← directory.readDir).toList.map (·.fileName)
    let names := names.filter fun (name : String) => Document.isDocumentName name
    let files ← names.filterM fun (name : String) => do pure !(← (directory / name).isDir)
    pure (files.map fun name => place ++ [OsText.ofText name])
  catch _ => pure []

/-- Add what is at a place, with the documents of all directories on the way. -/
def learnPlace (files : FileTree) (place : Place) : IO FileTree := do
  let path := (← IO.currentDir) / pathOf place
  if !(← path.pathExists) then return files
  let here ← if ← path.isDir then do pure (Entry.directory (← readAccess place))
    else readEntry (pathOf place)
  let mut entries := files.entries.insert place here
  for n in List.range (place.length + 1) do
    for document in ← documentPlaces (place.take n) do
      if !entries.contains document then
        entries := entries.insert document (← readEntry (pathOf document))
  pure { files with entries := entries }

/-- Add a variable if it is set. -/
def learnVariable (environment : Dict String String) (name : String) : IO (Dict String String) := do
  match ← IO.getEnv name with
  | some value => pure (environment.insert name value)
  | none => pure environment

/-- Look for something that is missing. -/
def learn (w : Workspace) : Missing → IO Workspace
  | .path p => do
    pure { w with files := ← (p.places w.files.workingDirectory).foldlM learnPlace w.files }
  | .environment name => do pure { w with environment := ← learnVariable w.environment name }

/-- The working directory and the variables for the settings. -/
def initial : IO Workspace := do
  let directory : Path := ⟨(← IO.currentDir).toString⟩
  let place := (directory.places []).getLast?.getD []
  let files ← learnPlace ⟨place, .empty⟩ place
  let names := [Settings.typesVariable, Settings.homeVariable, Settings.logVariable]
  pure ⟨files, ← names.foldlM learnVariable .empty⟩

/-- Run a command until it misses nothing new. -/
partial def run (a : CommandLine.Arguments) (sought : List Missing) (w : Workspace) :
    IO (Except CommandLine.CommandError String) := do
  match CommandLine.run w a with
  | .ok text => pure (.ok text)
  | .error e => match Missing.ofCommand? e with
    | none => pure (.error e)
    | some m =>
      if m ∈ sought then pure (.error e) else run a (m :: sought) (← learn w m)

/-- Write the text of a command, or an error with the status that goes with it. -/
def start (arguments : List String) : IO UInt32 := do
  match CommandLine.Arguments.parse arguments with
  | .error e =>
    IO.eprintln ("Error: " ++ e.message)
    IO.eprintln CommandLine.usage
    pure 2
  | .ok a =>
    if a.command = .help then
      IO.eprintln CommandLine.usage
      return 0
    match ← run a [] (← initial) with
    | .ok text =>
      IO.println text
      pure 0
    | .error e =>
      IO.eprintln ("Error: " ++ e.message)
      pure 1

end Program

end SmartHome

def main (arguments : List String) : IO UInt32 := SmartHome.Program.start arguments
