import SmartHome.Home.Basic

/-!
# Validating homes

A home's devices have the types of a catalog with the home's own types over them. Every device needs
a type among these and may only set attributes which that type supports; the first device in
document order that breaks the rule is reported, its type before its attributes. That there are no
types at all is reported before anything else.
-/

namespace SmartHome

namespace Home

/-- The catalog with the home's own device types over it. -/
def mergedTypes (h : Home) (catalog : Registry) : Registry :=
  match h.localTypes with
  | some types => catalog.overlay types
  | none => catalog

/-- What is wrong with a device as far as its type and its attributes are concerned. -/
def deviceProblem? (types : Registry) (d : Device) : Option HomeError :=
  match types.get? d.typeId with
  | none => some (.unknownType d.name d.typeId)
  | some t => (d.attributes.keys.find? (!t.supports ·)).map
    (.unsupportedAttribute d.name d.typeId ·)

/-- What is wrong with the home as a whole or with its first faulty device. -/
def problem? (h : Home) (types : Registry) : Option HomeError :=
  if types.isEmpty then some .noTypes
  else h.devices.findSome? fun e => deviceProblem? types e.2

/-- The merged types, if all is well with the home. -/
def validTypes (h : Home) (catalog : Registry) : Except HomeError Registry :=
  match h.problem? (h.mergedTypes catalog) with
  | some e => .error e
  | none => .ok (h.mergedTypes catalog)

/-- The home with the merged types in the place of its own, if all is well with it. Nothing of the
catalog is needed for it any more. -/
def validate (h : Home) (catalog : Registry) : Except HomeError Home :=
  (h.validTypes catalog).map fun types => { h with localTypes := some types }

end Home

end SmartHome
