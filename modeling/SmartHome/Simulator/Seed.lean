import SmartHome.Entity.Basic
import SmartHome.Text.Quoted

/-!
# Seeding a simulator from an entity

A simulator starts from the attributes of an entity of its platform; attributes that are not set
leave its defaults. An attribute with an unsuitable value is reported with the reason.
-/

namespace SmartHome

/-- Why the value of an attribute is unsuitable. -/
inductive SeedProblem where
  | noPosition
  | noVolume
  | noTrack
  | noText
  | noInteger
  /-- A text that names none of the possible states. -/
  | unknownState (name : String) (known : List String)
  /-- A value that cannot be a state at all. -/
  | noState (found : Json)
  /-- A state with something attached to it. -/
  | loadedState (found : Json)
  /-- An object without a field, or with several. -/
  | manyStates
  deriving DecidableEq

namespace SeedProblem

/-- What a value is. -/
def describe : Json → String
  | .null => "null"
  | .bool b => "boolean `" ++ toString b ++ "`"
  | .number (.int i) => "integer `" ++ toString i ++ "`"
  | .number (.float x) => "floating point `" ++ FloatLayout.json.render x ++ "`"
  | .string s => "string " ++ Quoted.text s
  | .array _ => "sequence"
  | .object _ => "map"

def message : SeedProblem → String
  | noPosition => "expected an integer from 0 to 100"
  | noVolume => "expected a number from 0 to 1"
  | noTrack => "expected a track index"
  | noText => "expected a string"
  | noInteger => "expected an integer"
  | unknownState name known =>
    "unknown variant `" ++ name ++ "`, expected one of "
      ++ String.intercalate ", " (known.map fun s => "`" ++ s ++ "`")
  | noState found => "invalid type: " ++ describe found ++ ", expected string or map"
  | loadedState found => "invalid type: " ++ describe found ++ ", expected unit"
  | manyStates => "invalid value: map, expected map with a single key"

end SeedProblem

inductive SeedError where
  | wrongPlatform (expected actual : Platform)
  | invalid (name : String) (problem : SeedProblem)
  deriving DecidableEq

namespace SeedError

def message : SeedError → String
  | wrongPlatform expected actual =>
    "expected a " ++ expected.name ++ " entity, got " ++ actual.name
  | invalid name problem =>
    "invalid value for attribute '" ++ name ++ "': " ++ problem.message

end SeedError

namespace Entity

/-- The entity is one of the platform. -/
def requirePlatform (e : Entity) (p : Platform) : Except SeedError Unit :=
  if e.platform = p then .ok () else .error (.wrongPlatform p e.platform)

/-- Read an attribute if it is set. -/
def read {α : Type} (e : Entity) (name : String) (value? : Json → Except SeedProblem α) :
    Except SeedError (Option α) :=
  match e.get? name with
  | none => .ok none
  | some v => match value? v with
    | .ok a => .ok (some a)
    | .error p => .error (.invalid name p)

/-- The value of a successful reading; without one, there is a problem. -/
def orProblem {α : Type} (p : SeedProblem) : Option α → Except SeedProblem α
  | some a => .ok a
  | none => .error p

/-- The device class, if it is set. -/
def deviceClass (e : Entity) : Except SeedError (Option String) :=
  e.read "device_class" fun v => orProblem .noText v.toText?

/-- The feature flags; none are set without the attribute. -/
def features (e : Entity) : Except SeedError UInt64 := do
  let w ← e.read "supported_features" fun v => orProblem .noInteger v.toWord?
  pure (w.getD 0)

end Entity

end SmartHome
