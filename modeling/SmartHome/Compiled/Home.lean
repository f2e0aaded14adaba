import SmartHome.Compiled.UniqueId
import SmartHome.Entity.Expansion
import SmartHome.Home.Presets
import SmartHome.Home.Validation

/-!
# Compiled homes

To compile a home is to validate all of it and then, device after device, to apply the presets and
to expand the device into its entities. The first error ends it, so an error of validation comes
before any other.
-/

namespace SmartHome

/-- A device after its presets, with its entities. -/
structure CompiledDevice where
  uniqueId : String
  device : Device
  area : Option String
  entities : List Entity
  deriving DecidableEq

namespace CompiledDevice

/-- The identifier of one of the device's entities. -/
def entityId (c : CompiledDevice) (e : Entity) : String := UniqueId.ofEntity c.uniqueId e.key

/-- The first entity with a key. -/
def entity? (c : CompiledDevice) (key : String) : Option Entity := c.entities.find? (·.key = key)

/-- Compile a device of a home whose types are given. -/
def ofDevice (types : Registry) (resolver : Resolver) (area : Option String) (d : Device) :
    Except HomeError CompiledDevice :=
  match types.get? d.typeId with
  | none => .error (.unknownType d.name d.typeId)
  | some t => do
    let device ← d.applyPresets t
    let entities ← Entity.ofDevice resolver device t
    pure ⟨UniqueId.ofDevice area d.name, device, area, entities⟩

end CompiledDevice

structure CompiledHome where
  /-- The names of the areas, also of those without devices. -/
  areas : List String
  devices : List CompiledDevice
  deriving DecidableEq

namespace CompiledHome

/-- Compile a home. -/
def build (h : Home) (catalog : Registry) (resolver : Resolver) : Except HomeError CompiledHome := do
  let types ← h.validTypes catalog
  let devices ← h.devices.mapM fun e => CompiledDevice.ofDevice types resolver e.1 e.2
  pure ⟨h.areaNames, devices⟩

/-- The first device with a name in an area, or among the services. -/
def device? (c : CompiledHome) (area : Option String) (name : String) : Option CompiledDevice :=
  c.devices.find? fun d => d.area = area ∧ d.device.name = name

/-- The number of entities of all devices. -/
def entityCount (c : CompiledHome) : Nat := (c.devices.flatMap (·.entities)).length

end CompiledHome

end SmartHome
