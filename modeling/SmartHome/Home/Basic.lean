import SmartHome.Device.Registry

/-!
# Homes

A home has areas with devices, and services: devices that stand in no area. It may declare device
types of its own. A device is found by its area and its name; of several with one name in an area,
the first counts.
-/

namespace SmartHome

/-- What a device says about its make. -/
structure DeviceInfo where
  model : Option String
  manufacturer : Option String
  softwareVersion : Option String
  deriving DecidableEq

structure Device where
  name : String
  typeId : String
  info : Option DeviceInfo
  attributes : Attributes
  /-- The presets to apply, one after the other. -/
  presetKeys : List String
  deriving DecidableEq

namespace Device

/-- Change the first device with the name, if there is one. -/
def updateFirst? (name : String) (f : Device → Device) : List Device → Option (List Device)
  | [] => none
  | d :: ds => if d.name = name then some (f d :: ds) else (updateFirst? name f ds).map (d :: ·)

theorem updateFirst?_isSome (name : String) (f : Device → Device) (ds : List Device) :
    (updateFirst? name f ds).isSome = (ds.find? (·.name = name)).isSome := by
  induction ds with
  | nil => rfl
  | cons d ds ih => by_cases h : d.name = name <;> simp [updateFirst?, h, ih]

end Device

structure Home where
  areas : Dict String (List Device)
  services : List Device
  /-- The device types that the home declares itself. -/
  localTypes : Option Registry

namespace Home

/-- The names of the areas, in document order. -/
def areaNames (h : Home) : List String := h.areas.keys

/-- Every device with its area: the areas in document order, then the services. -/
def devices (h : Home) : List (Option String × Device) :=
  (h.areas.entries.flatMap fun e => e.2.map fun d => (some e.1, d))
    ++ h.services.map fun d => (none, d)

/-- The devices of an area, or the services; none for an area that the home does not have. -/
def devicesIn? (h : Home) : Option String → Option (List Device)
  | some area => h.areas.get? area
  | none => some h.services

/-- The first device with the name in an area, or among the services. -/
def device? (h : Home) (area : Option String) (name : String) : Option Device := do
  (← h.devicesIn? area).find? (·.name = name)

/-- Change the first device with the name in an area, or among the services. -/
def updateDevice? (h : Home) (area : Option String) (name : String) (f : Device → Device) :
    Option Home := do
  let ds ← Device.updateFirst? name f (← h.devicesIn? area)
  match area with
  | some area => some { h with areas := h.areas.insert area ds }
  | none => some { h with services := ds }

end Home

end SmartHome
