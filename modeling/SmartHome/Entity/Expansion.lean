import SmartHome.Entity.Basic
import SmartHome.Entity.Substitution
import SmartHome.Home.Basic

/-!
# Expanding a device into its entities

A device has one entity for each template of its type, in the order of the templates. An entity
takes over those attributes of its template that are set on the device, under its own names and with
symbols replaced; of two attributes with one name the later value counts.
-/

namespace SmartHome

namespace Entity

/-- The name under which an entity has its feature flags. -/
def featuresKey : String := "supported_features"

/-- What an entity makes of the device's value of an attribute. -/
def attributeValue (resolver : Resolver) (entityKey : String) (v : Json) :
    Except HomeError Json :=
  if entityKey = featuresKey then (Substitution.flags resolver v).map .ofWord
  else Substitution.value resolver v

/-- Take one attribute over. -/
def takeOver (resolver : Resolver) (device : Attributes) (taken : Attributes)
    (spec : AttributeSpec) : Except HomeError Attributes :=
  match device.get? spec.deviceKey with
  | none => .ok taken
  | some v => (attributeValue resolver spec.entityKey v).map (taken.insert spec.entityKey ·)

/-- The entity of a template. -/
def ofTemplate (resolver : Resolver) (d : Device) (platform : Platform) (t : EntityTemplate) :
    Except HomeError Entity := do
  let attributes ← t.specs.foldlM (takeOver resolver d.attributes) .empty
  pure ⟨platform, t.key, attributes⟩

/-- The entities of a device. -/
def ofDevice (resolver : Resolver) (d : Device) (t : DeviceType) : Except HomeError (List Entity) :=
  t.templates.mapM fun e => ofTemplate resolver d e.1 e.2

end Entity

end SmartHome
