import SmartHome.Decode.Fault
import SmartHome.Device.Spec
import SmartHome.Json.Basic

/-!
# Device types

A device type says which attributes its devices may set, which entities a device consists of and
which presets put it into a named state. What a template takes over and what a preset sets are
supported attributes, and no two presets share a key; a draft in which this fails becomes no device
type, and the first violation is reported.
-/

namespace SmartHome

/-- An attribute configures a device, or is part of its state. -/
inductive AttributeKind where
  | static
  | state
  deriving DecidableEq

/-- One entity of every device of a type: its role on its platform, and the attributes that it takes
over, in order. -/
structure EntityTemplate where
  key : String
  specs : List AttributeSpec
  deriving DecidableEq

/-- A named set of values for state attributes. -/
structure Preset where
  key : String
  values : Attributes
  deriving DecidableEq

structure DeviceType where
  id : String
  description : String
  entities : Dict Platform (List EntityTemplate)
  kinds : Dict String AttributeKind
  presets : List Preset
  supports_templates : ∀ e ∈ entities.entries, ∀ t ∈ e.2, ∀ s ∈ t.specs, s.deviceKey ∈ kinds.keys
  supports_presets : ∀ p ∈ presets, ∀ k ∈ p.values.keys, k ∈ kinds.keys
  nodup_presets : (presets.map Preset.key).Nodup

/-- A device type as it is written. -/
structure DeviceTypeDraft where
  id : String
  description : String
  entities : Dict Platform (List EntityTemplate)
  supportedAttributes : List String
  stateAttributes : List String
  presets : List Preset

namespace DeviceTypeDraft

/-- The kind of each attribute; one that is listed as a state attribute is one, in the place where
it is listed first. -/
def kinds (d : DeviceTypeDraft) : Dict String AttributeKind :=
  (Dict.ofList (d.supportedAttributes.map fun name => (name, AttributeKind.static))).insertAll
    (d.stateAttributes.map fun name => (name, AttributeKind.state))

/-- The first attribute that a template takes over although it is not supported. -/
def templateProblem? (kinds : Dict String AttributeKind)
    (entities : List (Platform × List EntityTemplate)) : Option Decode.Problem :=
  entities.findSome? fun e => e.2.findSome? fun t => t.specs.findSome? fun s =>
    if s.deviceKey ∈ kinds.keys then none
    else some (.unsupportedByTemplate e.1 t.key s.deviceKey)

/-- The first preset with the key of one before it, or with an attribute that is not supported. -/
def presetProblem? (kinds : Dict String AttributeKind) (before : List String) :
    List Preset → Option Decode.Problem
  | [] => none
  | p :: ps =>
    if p.key ∈ before then some (.duplicatePreset p.key)
    else match p.values.keys.find? (· ∉ kinds.keys) with
      | some name => some (.unsupportedByPreset p.key name)
      | none => presetProblem? kinds (p.key :: before) ps

theorem supported_of_templateProblem? {kinds : Dict String AttributeKind}
    {entities : List (Platform × List EntityTemplate)}
    (h : templateProblem? kinds entities = none) :
    ∀ e ∈ entities, ∀ t ∈ e.2, ∀ s ∈ t.specs, s.deviceKey ∈ kinds.keys := by
  intro e he t ht s hs
  have h1 := List.findSome?_eq_none_iff.1 (List.findSome?_eq_none_iff.1
    (List.findSome?_eq_none_iff.1 h e he) t ht) s hs
  by_cases hk : s.deviceKey ∈ kinds.keys
  · exact hk
  · simp [hk] at h1

theorem sound_of_presetProblem? {kinds : Dict String AttributeKind} {before : List String}
    {ps : List Preset} (h : presetProblem? kinds before ps = none) :
    (∀ p ∈ ps, ∀ k ∈ p.values.keys, k ∈ kinds.keys) ∧ (ps.map Preset.key).Nodup
      ∧ ∀ p ∈ ps, p.key ∉ before := by
  induction ps generalizing before with
  | nil => simp
  | cons p ps ih =>
    simp only [presetProblem?] at h
    split at h
    · simp at h
    rename_i hp
    split at h
    · simp at h
    rename_i hf
    obtain ⟨h1, h2, h3⟩ := ih h
    have hv : ∀ k ∈ p.values.keys, k ∈ kinds.keys := by
      intro k hk
      simpa using List.find?_eq_none.1 hf k hk
    refine ⟨?_, ?_, ?_⟩
    · intro q hq
      rcases List.mem_cons.1 hq with rfl | hq
      · exact hv
      · exact h1 q hq
    · rw [List.map_cons, List.nodup_cons]
      refine ⟨fun hm => ?_, h2⟩
      obtain ⟨q, hq, hk⟩ := List.mem_map.1 hm
      exact h3 q hq (by simp [hk])
    · intro q hq
      rcases List.mem_cons.1 hq with rfl | hq
      · exact hp
      · exact fun hb => h3 q hq (List.mem_cons_of_mem _ hb)

/-- The device type of a draft, or the first violation: templates before presets, each in document
order, and of one preset its key before its attributes. -/
def toDeviceType (d : DeviceTypeDraft) : Except Decode.Problem DeviceType :=
  match ht : templateProblem? d.kinds d.entities.entries with
  | some p => .error p
  | none => match hp : presetProblem? d.kinds [] d.presets with
    | some p => .error p
    | none => .ok {
        id := d.id
        description := d.description
        entities := d.entities
        kinds := d.kinds
        presets := d.presets
        supports_templates := supported_of_templateProblem? ht
        supports_presets := (sound_of_presetProblem? hp).1
        nodup_presets := (sound_of_presetProblem? hp).2.1 }

end DeviceTypeDraft

namespace DeviceType

/-- The kind of an attribute, if the type supports it. -/
def kind? (t : DeviceType) (name : String) : Option AttributeKind := t.kinds.get? name

def supports (t : DeviceType) (name : String) : Bool := t.kinds.contains name

/-- Every supported attribute, in document order. -/
def attributeNames (t : DeviceType) : List String := t.kinds.keys

/-- The state attributes, in document order. -/
def stateNames (t : DeviceType) : List String :=
  (t.kinds.entries.filter fun e => e.2 = .state).map Prod.fst

def preset? (t : DeviceType) (key : String) : Option Preset := t.presets.find? (·.key = key)

/-- The keys of the presets, in document order. -/
def presetKeys (t : DeviceType) : List String := t.presets.map Preset.key

/-- Every entity template with its platform, in document order. -/
def templates (t : DeviceType) : List (Platform × EntityTemplate) :=
  t.entities.entries.flatMap fun e => e.2.map fun template => (e.1, template)

end DeviceType

end SmartHome
