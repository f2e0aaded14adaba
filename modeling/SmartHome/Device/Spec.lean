import SmartHome.Text.Split

/-!
# Supported attributes of an entity

An entity takes an attribute over from its device under the same name, or under another one: then
both are given, the entity's before an equals sign and the device's behind it.
-/

namespace SmartHome

inductive AttributeSpec where
  | direct (name : String)
  | renamed (entityKey deviceKey : String)
  deriving DecidableEq

namespace AttributeSpec

/-- The name on the device. -/
def deviceKey : AttributeSpec → String
  | direct name => name
  | renamed _ key => key

/-- The name on the entity. -/
def entityKey : AttributeSpec → String
  | direct name => name
  | renamed key _ => key

def isRenamed : AttributeSpec → Bool
  | direct _ => false
  | renamed _ _ => true

/-- A name, or two names around the only equals sign; no name is empty. -/
def parse? (s : String) : Option AttributeSpec :=
  match Split.splitFirst? '=' s.toList with
  | none => if s.isEmpty then none else some (direct s)
  | some (entity, device) =>
    if entity.isEmpty || device.isEmpty || device.contains '=' then none
    else some (renamed (String.ofList entity) (String.ofList device))

def text : AttributeSpec → String
  | direct name => name
  | renamed entity device => entity ++ "=" ++ device

end AttributeSpec

end SmartHome
