import SmartHome.Home.Basic

/-!
# Applying presets to a device

A device that selects presets loses all its state attributes, and then the presets are written over
what is left, one after the other: a preset replaces the state and is not merged with it. A device
that selects none is left as it is, and so is one that selects a preset which its type does not
have. `applyPresets` gives the device afterwards, `inPlace` changes it step by step.
-/

namespace SmartHome

namespace Device

/-- The presets of the given keys, one for each; the first unknown key is an error. -/
def presetsFor (d : Device) (t : DeviceType) (keys : List String) :
    Except HomeError (List Preset) :=
  keys.mapM fun key => match t.preset? key with
    | some p => .ok p
    | none => .error (.unknownPreset d.name t.id key t.presetKeys)

/-- Attributes without the state attributes of a type. -/
def withoutState (t : DeviceType) (attributes : Attributes) : Attributes :=
  t.stateNames.foldl Dict.erase attributes

/-- Attributes after presets. -/
def afterPresets (t : DeviceType) (presets : List Preset) (attributes : Attributes) : Attributes :=
  presets.foldl (fun a p => a.overlay p.values) (withoutState t attributes)

/-- The device after the presets that it selects. -/
def applyPresets (d : Device) (t : DeviceType) : Except HomeError Device :=
  if d.presetKeys.isEmpty then .ok d
  else (d.presetsFor t d.presetKeys).map fun presets =>
    { d with attributes := afterPresets t presets d.attributes }

/-- What is done to a device: it ends in a result or an error, and leaves the device in some state
by both. -/
abbrev Change := ExceptT HomeError (StateM Device)

def Change.attributes (f : Attributes → Attributes) : Change Unit :=
  modify fun d => { d with attributes := f d.attributes }

/-- Take the state away and write presets over what is left, one attribute after the other. -/
def Change.overwrite (t : DeviceType) (presets : List Preset) : Change Unit := do
  t.stateNames.forM fun name => attributes (·.erase name)
  presets.forM fun p => p.values.entries.forM fun e => attributes (·.insert e.1 e.2)

/-- Apply the presets that the device selects. They are looked up before anything is changed. -/
def Change.presets (t : DeviceType) : Change Unit := do
  let d ← get
  if d.presetKeys.isEmpty then pure ()
  else overwrite t (← MonadExcept.ofExcept (d.presetsFor t d.presetKeys))

/-- What comes of applying the presets, and the device as it is left. -/
def inPlace (d : Device) (t : DeviceType) : Except HomeError Unit × Device :=
  (Change.presets t).run.run d

end Device

end SmartHome
