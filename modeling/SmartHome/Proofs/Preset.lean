import Mathlib.Data.List.Nodup
import SmartHome.Home.Presets
import SmartHome.Proofs.Dictionary
import SmartHome.Proofs.Failure

/-!
# What presets make of a device

Applying presets fails on the first selected key that no preset of the type has
(`failure?_applyPresets`), and touches nothing of a device but its attributes
(`applyPresets_frame`). An attribute afterwards has the value of the last preset that sets it, and
else its own unless it is a state attribute (`get?_afterPresets`). So a device that selects a single
preset has its state from that preset and from nowhere else (`state_of_single`), and to apply the
presets once more changes no value (`applyPresets_again`).
-/

namespace SmartHome

namespace DeviceType

theorem preset?_eq_none_iff {t : DeviceType} {key : String} :
    t.preset? key = none ↔ key ∉ t.presetKeys := by
  simp only [preset?, presetKeys, List.find?_eq_none, decide_eq_true_eq, List.mem_map, not_exists,
    not_and]

/-- A key finds the one preset that has it. -/
theorem preset?_eq_some_iff {t : DeviceType} {key : String} {p : Preset} :
    t.preset? key = some p ↔ p ∈ t.presets ∧ p.key = key := by
  constructor
  · intro h
    exact ⟨List.mem_of_find?_eq_some h, by simpa using List.find?_some h⟩
  · rintro ⟨hp, rfl⟩
    rcases hq : t.preset? p.key with _ | q
    · exact absurd (List.mem_map_of_mem hp) (preset?_eq_none_iff.1 hq)
    · have hk : q.key = p.key := by simpa using List.find?_some hq
      rw [List.inj_on_of_nodup_map t.nodup_presets (List.mem_of_find?_eq_some hq) hp hk]

theorem supports_iff {t : DeviceType} {name : String} :
    t.supports name = true ↔ name ∈ t.attributeNames :=
  Dict.contains_iff

theorem mem_stateNames_iff {t : DeviceType} {name : String} :
    name ∈ t.stateNames ↔ t.kind? name = some .state := by
  rw [kind?, Dict.get?_eq_some_iff]
  simp [stateNames]

end DeviceType

namespace Device

variable {t : DeviceType} {d d' : Device}

theorem failure?_presetsFor (keys : List String) : failure? (d.presetsFor t keys)
    = keys.findSome? fun key => if key ∈ t.presetKeys then none
      else some (.unknownPreset d.name t.id key t.presetKeys) := by
  unfold presetsFor
  rw [failure?_mapM]
  congr 1
  funext key
  split_ifs with hk
  · rcases hp : t.preset? key with _ | p
    · exact absurd hk (DeviceType.preset?_eq_none_iff.1 hp)
    · rfl
  · rw [DeviceType.preset?_eq_none_iff.2 hk]
    rfl

theorem presetsFor_eq_ok_iff {keys : List String} {ps : List Preset} : d.presetsFor t keys = .ok ps
    ↔ List.Forall₂ (fun key p => t.preset? key = some p) keys ps := by
  unfold presetsFor
  rw [mapM_eq_ok_iff]
  constructor
  · refine fun h => h.imp fun key p hp => ?_
    split at hp <;> cases hp
    assumption
  · refine fun h => h.imp fun key p hp => ?_
    rw [hp]

theorem failure?_applyPresets (d : Device) (t : DeviceType) : failure? (d.applyPresets t)
    = d.presetKeys.findSome? fun key => if key ∈ t.presetKeys then none
      else some (.unknownPreset d.name t.id key t.presetKeys) := by
  unfold applyPresets
  split_ifs with h
  · rw [List.isEmpty_iff.1 h]
    rfl
  · rw [failure?_map, failure?_presetsFor]

theorem applyPresets_frame (h : d.applyPresets t = .ok d') :
    d' = { d with attributes := d'.attributes } := by
  unfold applyPresets at h
  split_ifs at h
  · cases h
    rfl
  · obtain ⟨ps, -, rfl⟩ := map_eq_ok_iff.1 h
    rfl

theorem applyPresets_single {key : String} (hk : d.presetKeys = [key])
    (h : d.applyPresets t = .ok d') :
    ∃ p, t.preset? key = some p
      ∧ d'.attributes = (withoutState t d.attributes).overlay p.values := by
  unfold applyPresets at h
  rw [hk, if_neg (by simp)] at h
  obtain ⟨ps, hps, rfl⟩ := map_eq_ok_iff.1 h
  obtain ⟨p, qs, hp, hqs, rfl⟩ := List.forall₂_cons_left_iff.1 (presetsFor_eq_ok_iff.1 hps)
  obtain rfl := List.forall₂_nil_left_iff.1 hqs
  exact ⟨p, hp, rfl⟩

theorem get?_withoutState (t : DeviceType) (attributes : Attributes) (name : String) :
    (withoutState t attributes).get? name
      = if t.kind? name = some .state then none else attributes.get? name := by
  unfold withoutState
  rw [Dict.get?_foldl_erase]
  simp only [DeviceType.mem_stateNames_iff]

/-- A device that selects a single preset has exactly the preset's state. -/
theorem state_of_single {key : String} (hk : d.presetKeys = [key])
    (h : d.applyPresets t = .ok d') :
    ∃ p, t.preset? key = some p ∧ ∀ name, t.kind? name = some .state →
      d'.attributes.get? name = p.values.get? name := by
  obtain ⟨p, hp, ha⟩ := applyPresets_single hk h
  refine ⟨p, hp, fun name hs => ?_⟩
  rw [ha, Dict.get?_overlay, get?_withoutState, if_pos hs, Option.or_none]

section Again

/-- The value that the last preset to set an attribute gives it. -/
def written? (presets : List Preset) (name : String) : Option Json :=
  presets.reverse.findSome? (·.values.get? name)

theorem written?_cons (p : Preset) (ps : List Preset) (name : String) :
    written? (p :: ps) name = (written? ps name).or (p.values.get? name) := by
  unfold written?
  rw [List.reverse_cons, List.findSome?_append, List.findSome?_singleton]

theorem mem_keys_of_written? {ps : List Preset} {name : String} {v : Json}
    (h : written? ps name = some v) : ∃ p ∈ ps, name ∈ p.values.keys := by
  obtain ⟨p, hp, hv⟩ := List.exists_of_findSome?_eq_some h
  exact ⟨p, List.mem_reverse.1 hp, Dict.mem_keys_iff.2 ⟨v, hv⟩⟩

theorem written?_of_lastWith {ps : List Preset} {name : String} {p : Preset}
    (h : LastWith (name ∈ ·.values.keys) ps p) (hp : name ∈ p.values.keys) :
    written? ps name = p.values.get? name := by
  obtain ⟨pre, post, rfl, hpost⟩ := h
  obtain ⟨v, hv⟩ := Dict.mem_keys_iff.1 hp
  have hnone : post.reverse.findSome? (·.values.get? name) = none :=
    List.findSome?_eq_none_iff.2 fun q hq =>
      Dict.get?_eq_none_iff.2 (hpost q (List.mem_reverse.1 hq))
  unfold written?
  rw [List.reverse_append, List.reverse_cons, List.append_assoc, List.findSome?_append, hnone,
    Option.none_or, List.singleton_append, List.findSome?_cons, hv]

theorem written?_eq_none {ps : List Preset} {name : String}
    (h : ∀ p ∈ ps, name ∉ p.values.keys) : written? ps name = none :=
  List.findSome?_eq_none_iff.2 fun p hp => Dict.get?_eq_none_iff.2 (h p (List.mem_reverse.1 hp))

theorem get?_foldl_overlay (name : String) : ∀ (ps : List Preset) (attributes : Attributes),
    (ps.foldl (fun a p => a.overlay p.values) attributes).get? name
      = (written? ps name).or (attributes.get? name)
  | [], _ => rfl
  | p :: ps, attributes => by
    rw [List.foldl_cons, get?_foldl_overlay name ps, Dict.get?_overlay, written?_cons,
      Option.or_assoc]

theorem get?_afterPresets (t : DeviceType) (ps : List Preset) (attributes : Attributes)
    (name : String) : (afterPresets t ps attributes).get? name
      = (written? ps name).or
        (if t.kind? name = some .state then none else attributes.get? name) := by
  unfold afterPresets
  rw [get?_foldl_overlay, get?_withoutState]

theorem get?_afterPresets_again (t : DeviceType) (ps : List Preset) (attributes : Attributes)
    (name : String) : (afterPresets t ps (afterPresets t ps attributes)).get? name
      = (afterPresets t ps attributes).get? name := by
  rw [get?_afterPresets, get?_afterPresets]
  rcases written? ps name with _ | v
  · rw [Option.none_or, Option.none_or]
    split_ifs <;> rfl
  · rw [Option.some_or, Option.some_or]

theorem mem_keys_afterPresets {ps : List Preset} {attributes : Attributes} {name : String}
    (h : name ∈ (afterPresets t ps attributes).keys) :
    name ∈ attributes.keys ∨ ∃ p ∈ ps, name ∈ p.values.keys := by
  obtain ⟨v, hv⟩ := Dict.mem_keys_iff.1 h
  rw [get?_afterPresets] at hv
  rcases Option.or_eq_some_iff.1 hv with hw | ⟨-, hv⟩
  · exact .inr (mem_keys_of_written? hw)
  · split_ifs at hv
    exact .inl (Dict.mem_keys_iff.2 ⟨v, hv⟩)

theorem mem_presets_of_presetsFor {keys : List String} {ps : List Preset}
    (h : d.presetsFor t keys = .ok ps) : ∀ p ∈ ps, p ∈ t.presets := by
  intro p hp
  obtain ⟨key, -, hk⟩ := exists_of_forall₂ (presetsFor_eq_ok_iff.1 h) hp
  exact List.mem_of_find?_eq_some hk

theorem applyPresets_eq_ok_iff : d.applyPresets t = .ok d'
    ↔ d.presetKeys = [] ∧ d' = d ∨ d.presetKeys ≠ [] ∧ ∃ ps,
      d.presetsFor t d.presetKeys = .ok ps
        ∧ d' = { d with attributes := afterPresets t ps d.attributes } := by
  unfold applyPresets
  split_ifs with hk
  · simp [List.isEmpty_iff.1 hk, eq_comm]
  · rw [List.isEmpty_iff] at hk
    simp only [hk, false_and, false_or, Ne, not_false_eq_true, true_and, map_eq_ok_iff,
      eq_comm (a := d')]

/-- The presets of a type set only what the type supports. -/
theorem mem_attributeNames_of_applyPresets (ha : ∀ k ∈ d.attributes.keys, k ∈ t.attributeNames)
    (h : d.applyPresets t = .ok d') : ∀ k ∈ d'.attributes.keys, k ∈ t.attributeNames := by
  obtain ⟨-, rfl⟩ | ⟨-, ps, hps, rfl⟩ := applyPresets_eq_ok_iff.1 h
  · exact ha
  · intro k hk
    obtain hk | ⟨p, hp, hk⟩ := mem_keys_afterPresets hk
    · exact ha k hk
    · exact t.supports_presets p (mem_presets_of_presetsFor hps p hp) k hk

/-- The devices are the same but for the order of their attributes. -/
structure Alike (d e : Device) : Prop where
  name_eq : d.name = e.name
  typeId_eq : d.typeId = e.typeId
  info_eq : d.info = e.info
  presetKeys_eq : d.presetKeys = e.presetKeys
  get?_eq : ∀ name, d.attributes.get? name = e.attributes.get? name

/-- Presets that a device has applied are applied again without a change of any value. -/
theorem applyPresets_again (h : d.applyPresets t = .ok d') :
    ∃ d'', d'.applyPresets t = .ok d'' ∧ d''.Alike d' := by
  obtain ⟨hk, rfl⟩ | ⟨hk, ps, hps, rfl⟩ := applyPresets_eq_ok_iff.1 h
  · exact ⟨d', h, rfl, rfl, rfl, rfl, fun _ => rfl⟩
  · refine ⟨_, applyPresets_eq_ok_iff.2 (.inr ⟨hk, ps, hps, rfl⟩), rfl, rfl, rfl, rfl, ?_⟩
    exact get?_afterPresets_again t ps d.attributes

end Again

end Device

end SmartHome
