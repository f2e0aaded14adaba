import SmartHome.Compiled.Home
import SmartHome.Json.Printer

/-!
# Compiled homes as JSON

What a device does not say about its make, and an empty list of presets, are left out; a service has
null for its area.
-/

namespace SmartHome

namespace Json

/-- A text field, unless there is nothing to write. -/
def optionalField (name : String) : Option String → List (String × Json)
  | some s => [(name, string s)]
  | none => []

def ofTexts (ss : List String) : Json := array (ss.map string)

def ofAttributes (attributes : Attributes) : Json := object attributes.entries

def ofDeviceInfo (info : DeviceInfo) : Json :=
  object (optionalField "model" info.model ++ optionalField "manufacturer" info.manufacturer
    ++ optionalField "sw_version" info.softwareVersion)

def ofDevice (d : Device) : Json :=
  object ([("name", string d.name), ("device_type", string d.typeId)]
    ++ (match d.info with
      | some info => [("device_info", ofDeviceInfo info)]
      | none => [])
    ++ [("attributes", ofAttributes d.attributes)]
    ++ (if d.presetKeys.isEmpty then []
      else [("restorable_attribute_keys", ofTexts d.presetKeys)]))

def ofEntity (e : Entity) : Json :=
  object [("platform", string e.platform.name), ("key", string e.key),
    ("attributes", ofAttributes e.attributes)]

def ofCompiledDevice (c : CompiledDevice) : Json :=
  object [("unique_id", string c.uniqueId), ("device", ofDevice c.device),
    ("area_name", match c.area with
      | some area => string area
      | none => null),
    ("entities", array (c.entities.map ofEntity))]

def ofCompiledHome (c : CompiledHome) : Json :=
  object [("areas", ofTexts c.areas), ("devices", array (c.devices.map ofCompiledDevice))]

end Json

end SmartHome
