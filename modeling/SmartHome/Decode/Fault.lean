import SmartHome.Number.Basic
import SmartHome.Platform
import SmartHome.Text.Quoted

/-!
# Why a document cannot be decoded

A fault is what is wrong and, in a text, the trail of keys and indices that leads to the value in
question.
-/

namespace SmartHome

namespace Decode

/-- What stands where something else was expected. -/
inductive Found where
  | null
  | bool (value : Bool)
  | number (value : Number)
  | string (value : String)
  | sequence
  | map
  | tagged
  deriving DecidableEq

namespace Found

def describe : Found → String
  | null => "unit value"
  | bool b => "boolean `" ++ toString b ++ "`"
  | number (.int i) => "integer `" ++ toString i ++ "`"
  | number (.float x) => "floating point `" ++ FloatLayout.quoted.render x ++ "`"
  | string s => "string " ++ Quoted.text s
  | sequence => "sequence"
  | map => "map"
  | tagged => "enum"

end Found

/-- The ways in which a document fails to be what it should. -/
inductive Problem where
  | missingField (name : String)
  | duplicateField (name : String)
  | unknownField (name : String) (known : List String)
  | unknownVariant (name : String) (known : List String)
  | invalidType (found : Found) (expected : String)
  | invalidValue (found : Found) (expected : String)
  /-- An entity template that is neither a key nor a mapping with one. -/
  | noTemplate
  /-- A local tag inside an entity template. -/
  | taggedTemplate
  /-- A supported attribute that is neither a name nor two names around an equals sign. -/
  | invalidSpec (text : String)
  /-- A template refers to an attribute that the device type does not support. -/
  | unsupportedByTemplate (platform : Platform) (key name : String)
  | duplicatePreset (key : String)
  /-- A preset sets an attribute that the device type does not support. -/
  | unsupportedByPreset (key name : String)
  /-- The text is not one well-formed document. -/
  | malformed
  deriving DecidableEq

namespace Problem

def backquote (s : String) : String := "`" ++ s ++ "`"

/-- The names that were possible. -/
def alternatives : List String → String
  | [] => "there are none"
  | [a] => "expected " ++ backquote a
  | [a, b] => "expected " ++ backquote a ++ " or " ++ backquote b
  | names => "expected one of " ++ String.intercalate ", " (names.map backquote)

/-- The message for a supported attribute that is malformed. -/
def invalidSpecMessage (text : String) : String :=
  "invalid supported attribute '" ++ text ++ "', expected 'name' or 'entity_name=device_name'"

def message : Problem → String
  | missingField name => "missing field " ++ backquote name
  | duplicateField name => "duplicate field " ++ backquote name
  | unknownField name known => "unknown field " ++ backquote name ++ ", " ++ alternatives known
  | unknownVariant name known => "unknown variant " ++ backquote name ++ ", " ++ alternatives known
  | invalidType found expected =>
    "invalid type: " ++ found.describe ++ ", expected " ++ expected
  | invalidValue found expected =>
    "invalid value: " ++ found.describe ++ ", expected " ++ expected
  | noTemplate => "data did not match any variant of untagged enum EntityTemplateDocument"
  | taggedTemplate => "untagged and internally tagged enums do not support enum input"
  | invalidSpec text => invalidSpecMessage text
  | unsupportedByTemplate platform key name =>
    "entity '" ++ platform.name ++ "." ++ key ++ "' references attribute '" ++ name
      ++ "' which is not a supported attribute"
  | duplicatePreset key => "duplicate restorable attributes key '" ++ key ++ "'"
  | unsupportedByPreset key name =>
    "restorable attributes '" ++ key ++ "' sets attribute '" ++ name
      ++ "' which is not a supported attribute"
  | malformed => "not a well-formed document"

end Problem

/-- A step of a trail: the value of a key, an element, or the value of a key that is no scalar. -/
inductive Step where
  | key (name : String)
  | index (i : Nat)
  | unnamed
  deriving DecidableEq

/-- The steps from the document to a value. -/
abbrev Trail := List Step

namespace Trail

/-- The steps written one behind the other; a key stands behind a point unless it is the first. -/
def render (t : Trail) : String :=
  let dotted (before : String) := if before.isEmpty then "" else before ++ "."
  t.foldl (fun before step => match step with
    | .key name => dotted before ++ name
    | .unnamed => dotted before ++ "?"
    | .index i => (if before.isEmpty then "." else before) ++ "[" ++ toString i ++ "]") ""

end Trail

/-- What is wrong, and where if that is known. -/
structure Fault where
  trail : Trail
  problem : Problem
  deriving DecidableEq

namespace Fault

/-- The message, behind the trail if there is one. -/
def message (f : Fault) : String :=
  if f.trail.isEmpty then f.problem.message
  else f.trail.render ++ ": " ++ f.problem.message

end Fault

end Decode

end SmartHome
