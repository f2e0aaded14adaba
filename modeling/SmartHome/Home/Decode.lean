import SmartHome.Device.Directory
import SmartHome.Home.Basic

/-!
# Decoding homes

The structure of a home is decoded first, and only then the device types that it declares, so a
fault in the structure is reported before one in a device type. A declared type stands under its
own identifier.
-/

namespace SmartHome

namespace Decode

/-- What a device says about its make. -/
def deviceInfo (s : Source) : Except Fault DeviceInfo :=
  s.fields "DeviceInfo" ["model", "manufacturer", "sw_version"] .refused
    (fun (info : DeviceInfo) name v => match name with
      | "model" => do pure { info with model := ← v.optional Source.text }
      | "manufacturer" => do pure { info with manufacturer := ← v.optional Source.text }
      | _ => do pure { info with softwareVersion := ← v.optional Source.text })
    ⟨none, none, none⟩

/-- The fields of a device as far as they are known. -/
structure DeviceFields where
  name : Option String
  typeId : Option String
  info : Option DeviceInfo
  attributes : Attributes
  presetKeys : List String

def device (s : Source) : Except Fault Device := do
  let f ← s.fields "Device"
    ["name", "device_type", "device_info", "attributes", "restorable_attribute_keys"] .refused
    (fun (f : DeviceFields) name v => match name with
      | "name" => do pure { f with name := some (← v.text) }
      | "device_type" => do pure { f with typeId := some (← v.text) }
      | "device_info" => do pure { f with info := ← v.optional deviceInfo }
      | "attributes" => do pure { f with attributes := ← Decode.attributes v }
      | _ => do pure { f with presetKeys := ← v.texts })
    ⟨none, none, none, .empty, []⟩
  pure ⟨← s.required "name" f.name, ← s.required "device_type" f.typeId, f.info, f.attributes,
    f.presetKeys⟩

/-- A home whose own device types are not decoded yet. -/
structure HomeDraft where
  areas : Dict String (List Device)
  services : List Device
  localTypes : Option (Dict String Source)

/-- The device types that a home declares, each under its identifier. -/
def declaredTypes (s : Source) : Except Fault (Dict String Source) :=
  s.fields "RegistryDocument" ["device_types"] .refused
    (fun _ _ v => v.dict Source.text pure) .empty

def homeDraft (s : Source) : Except Fault HomeDraft :=
  s.fields "HomeDocument" ["device_entities", "services", "device_type_registry"] .refused
    (fun (h : HomeDraft) name v => match name with
      | "device_entities" => do
        pure { h with areas := ← v.dict Source.text fun area => area.list device }
      | "services" => do pure { h with services := ← v.list device }
      | _ => do pure { h with localTypes := ← v.optional declaredTypes })
    ⟨.empty, [], none⟩

end Decode

namespace Registry

/-- The source that messages name for the device types of a home. -/
def declaredIn : String := "device_type_registry"

/-- Add a device type that a home declares under an identifier. -/
def addDeclared (r : Registry) (e : String × Decode.Source) : Except HomeError Registry := do
  let t ← decodeType declaredIn e.2
  if t.id = e.1 then r.insert t
  else throw (.misnamedType (declaredIn ++ ".device_types." ++ e.1) t.id)

/-- The device types that a home declares. -/
def ofDeclared (types : Dict String Decode.Source) : Except HomeError Registry :=
  types.entries.foldlM addDeclared empty

end Registry

namespace Home

/-- The home of a loaded document that comes from `source`. -/
def ofValue (v : Yaml.Value) (source : String) : Except HomeError Home := do
  let draft ← (Decode.homeDraft (.value v)).mapError (.undecodableHome source)
  let types ← draft.localTypes.mapM Registry.ofDeclared
  pure ⟨draft.areas, draft.services, types⟩

/-- The home of a document at a path. -/
def load (workspace : Workspace) (path : Path) : Except HomeError Home := do
  let v ← (Document.load workspace Document.here path).mapError .ofDocument
  ofValue v path.text

/-- The home of a text that comes from `source`. -/
def ofText (workspace : Workspace) (text source : String) : Except HomeError Home := do
  let v ← (Document.loadText workspace Document.here text ⟨source⟩).mapError .ofDocument
  ofValue v source

end Home

end SmartHome
