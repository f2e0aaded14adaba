import SmartHome.Document.Argument
import SmartHome.Files.Path

/-!
# Why a document cannot be loaded
-/

namespace SmartHome

inductive DocumentError where
  | notFound (path : Path)
  /-- Something is there, but it cannot be read as text. -/
  | unreadable (path : Path)
  /-- The text is not one well-formed document. -/
  | malformed (path : Path)
  /-- The argument of a tag that names a path is no text. -/
  | invalidIncludePath (tag : String) (argument : Yaml.Value)
  | directoryNotFound (path : Path)
  | circularInclude (path : Path)
  | variableNotSet (name : String)
  /-- The argument of a tag that names a variable is no text. -/
  | invalidVariableName
  deriving DecidableEq, Inhabited

namespace DocumentError

def message : DocumentError → String
  | notFound p => "configuration file '" ++ p.text ++ "' does not exist"
  | unreadable p => "failed to read " ++ p.text
  | malformed p => "failed to parse YAML in " ++ p.text
  | invalidIncludePath tag argument =>
    "invalid include path '!" ++ tag ++ " " ++ argument.describe ++ "': path must be a string"
  | directoryNotFound p => "directory not found: " ++ p.text
  | circularInclude p => "circular include detected: " ++ p.text
  | variableNotSet name => "environment variable '" ++ name ++ "' not set"
  | invalidVariableName =>
    "invalid configuration value for '!env_var': environment variable name must be a string"

end DocumentError

end SmartHome
