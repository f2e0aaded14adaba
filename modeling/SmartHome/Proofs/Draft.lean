import SmartHome.Device.Decode
import SmartHome.Proofs.Preset

/-!
# From drafts to device types

What a draft makes of its two lists of attributes is a dictionary whose keys are the names in the
order in which they come first (`keys_kinds`) and whose values tell state from the rest
(`get?_kinds`); against it templates and presets are looked through for a problem. The search among
the presets carries the keys along that it has passed, and finds a preset behind others that are all
right (`presetProblem?_eq_some_iff`). So the problem that is reported is the first one in the draft
(`toDeviceType_eq_error_iff`), and a device type holds what its draft says (`toDeviceType_exact`).
-/

namespace SmartHome

namespace DeviceTypeDraft

variable {d : DeviceTypeDraft} {t : DeviceType} {name : String} {problem : Decode.Problem}

/-- The draft lists the attribute as a supported one, as a state attribute, or as both. -/
def Lists (d : DeviceTypeDraft) (name : String) : Prop :=
  name ∈ d.supportedAttributes ∨ name ∈ d.stateAttributes

instance : Decidable (d.Lists name) := inferInstanceAs (Decidable (_ ∨ _))

/-- What the templates take over, with the platform and the template, in document order. -/
def uses (d : DeviceTypeDraft) : List (Platform × EntityTemplate × AttributeSpec) :=
  d.entities.entries.flatMap fun e => e.2.flatMap fun t => t.specs.map fun s => (e.1, t, s)

section Kinds

theorem keys_kinds (d : DeviceTypeDraft) : d.kinds.keys = d.supportedAttributes.eraseDups
    ++ d.stateAttributes.eraseDups.filter (· ∉ d.supportedAttributes) := by
  unfold kinds
  rw [Dict.keys_insertAll_eraseDups, Dict.keys_ofList]
  simp [List.map_map, Function.comp_def, List.mem_eraseDups]

theorem get?_kinds (d : DeviceTypeDraft) (name : String) : d.kinds.get? name
    = if name ∈ d.stateAttributes then some .state
      else if name ∈ d.supportedAttributes then some .static else none := by
  unfold kinds Dict.ofList
  rw [Dict.get?_insertAll_map, Dict.get?_insertAll_map, Dict.get?_empty]

theorem get?_kinds_eq_state_iff :
    d.kinds.get? name = some .state ↔ name ∈ d.stateAttributes := by
  rw [get?_kinds]
  split_ifs with hs hn <;> simp [hs]

theorem get?_kinds_eq_static_iff : d.kinds.get? name = some .static
    ↔ name ∈ d.supportedAttributes ∧ name ∉ d.stateAttributes := by
  rw [get?_kinds]
  split_ifs with hs hn
  · simp [hs]
  · simp [hs, hn]
  · simp [hn]

theorem mem_keys_kinds_iff : name ∈ d.kinds.keys ↔ d.Lists name := by
  simp only [keys_kinds, Lists, List.mem_append, List.mem_filter, List.mem_eraseDups,
    decide_eq_true_eq]
  tauto

end Kinds

section Problems

theorem templateProblem?_eq (d : DeviceTypeDraft) : templateProblem? d.kinds d.entities.entries
    = d.uses.findSome? fun u => if u.2.2.deviceKey ∈ d.kinds.keys then none
      else some (.unsupportedByTemplate u.1 u.2.1.key u.2.2.deviceKey) := by
  unfold templateProblem? uses
  simp only [findSome?_flatMap, List.findSome?_map, Function.comp_def]

/-- What is wrong with a preset behind others with these keys. -/
def ownProblem? (kinds : Dict String AttributeKind) (before : List String) (p : Preset) :
    Option Decode.Problem :=
  if p.key ∈ before then some (.duplicatePreset p.key)
  else (p.values.keys.find? (· ∉ kinds.keys)).map (.unsupportedByPreset p.key ·)

theorem presetProblem?_cons (kinds : Dict String AttributeKind) (before : List String) (p : Preset)
    (ps : List Preset) : presetProblem? kinds before (p :: ps)
      = (ownProblem? kinds before p).or (presetProblem? kinds (p.key :: before) ps) := by
  unfold ownProblem?
  rw [presetProblem?]
  split_ifs
  · rfl
  · cases p.values.keys.find? (· ∉ kinds.keys) <;> rfl

section Presets

variable {kinds : Dict String AttributeKind} {before : List String} {p : Preset} {ps : List Preset}

theorem ownProblem?_eq_none_iff : ownProblem? kinds before p = none
    ↔ p.key ∉ before ∧ ∀ name ∈ p.values.keys, name ∈ kinds.keys := by
  unfold ownProblem?
  split_ifs with h <;> simp [h]

theorem ownProblem?_eq_some_iff : ownProblem? kinds before p = some problem
    ↔ p.key ∈ before ∧ problem = .duplicatePreset p.key
      ∨ p.key ∉ before ∧ ∃ name, FirstFailing (· ∈ kinds.keys) p.values.keys name
        ∧ problem = .unsupportedByPreset p.key name := by
  unfold ownProblem?
  have hfind : ∀ name, p.values.keys.find? (· ∉ kinds.keys) = some name
      ↔ FirstFailing (· ∈ kinds.keys) p.values.keys name := by
    intro name
    simp only [decide_not]
    exact FirstFailing.find?_iff fun _ => decide_eq_true_iff.symm
  split_ifs with h
  · simp [h, eq_comm]
  · simp only [h, Option.map_eq_some_iff, hfind, eq_comm (b := problem), false_and, false_or,
      not_false_eq_true, true_and]

theorem presetProblem?_eq_none_iff : presetProblem? kinds before ps = none
    ↔ (∀ p ∈ ps, ∀ name ∈ p.values.keys, name ∈ kinds.keys) ∧ (ps.map Preset.key).Nodup
      ∧ ∀ p ∈ ps, p.key ∉ before := by
  refine ⟨sound_of_presetProblem?, ?_⟩
  induction ps generalizing before with
  | nil => exact fun _ => rfl
  | cons p ps ih =>
    rintro ⟨hnames, hn, hb⟩
    rw [List.map_cons, List.nodup_cons] at hn
    obtain ⟨hp, hps⟩ := List.forall_mem_cons.1 hnames
    obtain ⟨hpb, hpsb⟩ := List.forall_mem_cons.1 hb
    have hrest : presetProblem? kinds (p.key :: before) ps = none := by
      refine ih ⟨hps, hn.2, fun q hq hm => ?_⟩
      rcases List.mem_cons.1 hm with hk | hm
      · exact hn.1 (hk ▸ List.mem_map_of_mem hq)
      · exact hpsb q hq hm
    rw [presetProblem?_cons, ownProblem?_eq_none_iff.2 ⟨hpb, hp⟩, hrest]
    rfl

/-- The presets before the one that is blamed are all right, and it is blamed with their keys in
view. -/
theorem presetProblem?_eq_some_iff : presetProblem? kinds before ps = some problem
    ↔ ∃ pre p post, ps = pre ++ p :: post ∧ presetProblem? kinds before pre = none
      ∧ ownProblem? kinds ((pre.map Preset.key).reverse ++ before) p = some problem := by
  -- the keys that the search carries along grow with each preset that it passes
  induction ps generalizing before with
  | nil => simp [presetProblem?]
  | cons q ps ih =>
    rw [presetProblem?_cons, Option.or_eq_some_iff, ih]
    constructor
    · rintro (hq | ⟨hq, pre, p, post, rfl, hpre, hp⟩)
      · exact ⟨[], q, ps, rfl, rfl, hq⟩
      · refine ⟨q :: pre, p, post, rfl, ?_, ?_⟩
        · rw [presetProblem?_cons, hq, hpre]
          rfl
        · simpa using hp
    · rintro ⟨_ | ⟨x, pre⟩, p, post, hsplit, hpre, hp⟩
      · cases hsplit
        exact .inl hp
      · obtain ⟨rfl, rfl⟩ := List.cons.inj hsplit
        rw [presetProblem?_cons, Option.or_eq_none_iff] at hpre
        exact .inr ⟨hpre.1, pre, p, post, rfl, hpre.2, by simpa using hp⟩

end Presets

end Problems

section FirstProblem

/-- Presets with attributes that the draft lists, no two with one key. -/
structure SoundPresets (d : DeviceTypeDraft) (ps : List Preset) : Prop where
  lists : ∀ p ∈ ps, ∀ name ∈ p.values.keys, d.Lists name
  nodup : (ps.map Preset.key).Nodup

/-- The first thing that is wrong with a draft. -/
inductive FirstProblem (d : DeviceTypeDraft) : Decode.Problem → Prop
  | template {platform t s}
      (h : FirstFailing (fun u => d.Lists u.2.2.deviceKey) d.uses (platform, t, s)) :
    FirstProblem d (.unsupportedByTemplate platform t.key s.deviceKey)
  | duplicate {pre p post} (hu : ∀ u ∈ d.uses, d.Lists u.2.2.deviceKey)
      (hp : d.presets = pre ++ p :: post) (hpre : d.SoundPresets pre)
      (hk : p.key ∈ pre.map Preset.key) :
    FirstProblem d (.duplicatePreset p.key)
  | preset {pre p post name} (hu : ∀ u ∈ d.uses, d.Lists u.2.2.deviceKey)
      (hp : d.presets = pre ++ p :: post) (hpre : d.SoundPresets pre)
      (hk : p.key ∉ pre.map Preset.key) (hn : FirstFailing d.Lists p.values.keys name) :
    FirstProblem d (.unsupportedByPreset p.key name)

theorem failure?_toDeviceType (d : DeviceTypeDraft) : failure? d.toDeviceType
    = (templateProblem? d.kinds d.entities.entries).or (presetProblem? d.kinds [] d.presets) := by
  unfold toDeviceType
  split
  · rename_i p hu
    rw [failure?_error, hu, Option.some_or]
  · rename_i hu
    split
    · rename_i p hp
      rw [failure?_error, hu, hp, Option.none_or]
    · rename_i hp
      rw [failure?_ok, hu, hp, Option.none_or]

theorem templateProblem?_eq_none_iff : templateProblem? d.kinds d.entities.entries = none
    ↔ ∀ u ∈ d.uses, d.Lists u.2.2.deviceKey := by
  rw [templateProblem?_eq, List.findSome?_eq_none_iff]
  simp only [mem_keys_kinds_iff, ite_eq_left_iff, reduceCtorEq, imp_false, not_not]

theorem templateProblem?_eq_some_iff :
    templateProblem? d.kinds d.entities.entries = some problem ↔ ∃ u,
      FirstFailing (fun u => d.Lists u.2.2.deviceKey) d.uses u
        ∧ problem = .unsupportedByTemplate u.1 u.2.1.key u.2.2.deviceKey := by
  rw [templateProblem?_eq, FirstFailing.findSome?_iff (P := fun u => d.Lists u.2.2.deviceKey)]
  · refine exists_congr fun u => and_congr_right fun hu => ?_
    obtain ⟨-, -, -, -, hnot⟩ := hu
    rw [if_neg (mt mem_keys_kinds_iff.1 hnot), Option.some.injEq, eq_comm]
  · intro u _
    rw [← mem_keys_kinds_iff]
    simp

theorem soundPresets_iff {ps : List Preset} :
    presetProblem? d.kinds [] ps = none ↔ d.SoundPresets ps := by
  simp only [presetProblem?_eq_none_iff, mem_keys_kinds_iff, List.not_mem_nil, not_false_eq_true,
    implies_true, and_true]
  exact ⟨fun h => ⟨h.1, h.2⟩, fun h => ⟨h.lists, h.nodup⟩⟩

theorem toDeviceType_eq_error_iff :
    d.toDeviceType = .error problem ↔ d.FirstProblem problem := by
  rw [← failure?_eq_some_iff, failure?_toDeviceType, Option.or_eq_some_iff,
    templateProblem?_eq_none_iff, templateProblem?_eq_some_iff, presetProblem?_eq_some_iff]
  simp only [soundPresets_iff, ownProblem?_eq_some_iff, List.append_nil, List.mem_reverse,
    mem_keys_kinds_iff]
  constructor
  · rintro (⟨u, hu, rfl⟩ | ⟨hu, pre, p, post, hp, hpre, ⟨hk, rfl⟩ | ⟨hk, name, hn, rfl⟩⟩)
    · exact .template hu
    · exact .duplicate hu hp hpre hk
    · exact .preset hu hp hpre hk hn
  · rintro (hu | ⟨hu, hp, hpre, hk⟩ | ⟨hu, hp, hpre, hk, hn⟩)
    · exact .inl ⟨_, hu, rfl⟩
    · exact .inr ⟨hu, _, _, _, hp, hpre, .inl ⟨hk, rfl⟩⟩
    · exact .inr ⟨hu, _, _, _, hp, hpre, .inr ⟨hk, _, hn, rfl⟩⟩

theorem exists_toDeviceType_iff : (∃ t, d.toDeviceType = .ok t)
    ↔ (∀ u ∈ d.uses, d.Lists u.2.2.deviceKey) ∧ d.SoundPresets d.presets := by
  rw [← failure?_eq_none_iff, failure?_toDeviceType, Option.or_eq_none_iff,
    templateProblem?_eq_none_iff, soundPresets_iff]

theorem mem_uses_iff {u : Platform × EntityTemplate × AttributeSpec} : u ∈ d.uses
    ↔ ∃ e ∈ d.entities.entries, e.1 = u.1 ∧ u.2.1 ∈ e.2 ∧ u.2.2 ∈ u.2.1.specs := by
  unfold uses
  simp only [List.mem_flatMap, List.mem_map]
  constructor
  · rintro ⟨e, he, t, ht, s, hs, rfl⟩
    exact ⟨e, he, rfl, ht, hs⟩
  · rintro ⟨e, he, hu, ht, hs⟩
    exact ⟨e, he, u.2.1, ht, u.2.2, hs, by rw [hu]⟩

/-- A device type has everything as its draft has it. -/
theorem toDeviceType_frame (h : d.toDeviceType = .ok t) : t.id = d.id
    ∧ t.description = d.description ∧ t.entities = d.entities ∧ t.kinds = d.kinds
    ∧ t.presets = d.presets := by
  unfold toDeviceType at h
  split at h
  · cases h
  · split at h
    · cases h
    · cases h
      exact ⟨rfl, rfl, rfl, rfl, rfl⟩

end FirstProblem

/-- A draft becomes a device type if its templates and presets refer to listed attributes only and
no two presets have one key; else its first problem is reported, which is one of the templates if
these have any, and of the first preset with a problem its key before its attributes. The attributes
of the device type are the listed ones in the order in which they come first, each of them state
just if it is listed as such, and a key finds the one preset that has it. -/
theorem toDeviceType_exact (d : DeviceTypeDraft) :
    ((∃ t, d.toDeviceType = .ok t)
        ↔ (∀ e ∈ d.entities.entries, ∀ t ∈ e.2, ∀ s ∈ t.specs, d.Lists s.deviceKey)
          ∧ (∀ p ∈ d.presets, ∀ name ∈ p.values.keys, d.Lists name)
          ∧ (d.presets.map Preset.key).Nodup)
      ∧ (∀ problem, d.toDeviceType = .error problem ↔ d.FirstProblem problem)
      ∧ (∀ s, Decode.deviceTypeDraft s = .ok d →
        Decode.deviceType s = d.toDeviceType.mapError fun problem => ⟨[], problem⟩)
      ∧ ∀ t, d.toDeviceType = .ok t → t.attributeNames.Nodup
        ∧ t.attributeNames = d.supportedAttributes.eraseDups
          ++ d.stateAttributes.eraseDups.filter (· ∉ d.supportedAttributes)
        ∧ (∀ name, t.kind? name = some .state ↔ name ∈ d.stateAttributes)
        ∧ (∀ name, t.kind? name = some .static
          ↔ name ∈ d.supportedAttributes ∧ name ∉ d.stateAttributes)
        ∧ (∀ key p, t.preset? key = some p ↔ p ∈ d.presets ∧ p.key = key)
        ∧ t.id = d.id ∧ t.description = d.description ∧ t.entities = d.entities
        ∧ t.presets = d.presets := by
  refine ⟨?_, fun problem => toDeviceType_eq_error_iff, fun s hs => ?_, fun t h => ?_⟩
  · rw [exists_toDeviceType_iff]
    have hpresets : d.SoundPresets d.presets
        ↔ (∀ p ∈ d.presets, ∀ name ∈ p.values.keys, d.Lists name)
          ∧ (d.presets.map Preset.key).Nodup :=
      ⟨fun h => ⟨h.lists, h.nodup⟩, fun h => ⟨h.1, h.2⟩⟩
    refine and_congr ?_ hpresets
    constructor
    · intro h e he t ht s hs
      have hu : (e.1, t, s) ∈ d.uses := mem_uses_iff.2 ⟨e, he, rfl, ht, hs⟩
      exact h _ hu
    · intro h u hu
      obtain ⟨e, he, -, ht, hs⟩ := mem_uses_iff.1 hu
      exact h e he _ ht _ hs
  · unfold Decode.deviceType
    rcases h : d.toDeviceType with problem | t <;> simp only [hs, h, bind, Except.bind] <;> rfl
  · obtain ⟨hid, hdescription, hentities, hkinds, hpresets⟩ := toDeviceType_frame h
    refine ⟨t.kinds.nodup, ?_, fun name => ?_, fun name => ?_, fun key p => ?_, hid, hdescription,
      hentities, hpresets⟩
    · rw [DeviceType.attributeNames, hkinds, keys_kinds]
    · rw [DeviceType.kind?, hkinds, get?_kinds_eq_state_iff]
    · rw [DeviceType.kind?, hkinds, get?_kinds_eq_static_iff]
    · rw [DeviceType.preset?_eq_some_iff, hpresets]

def lowPreset : Preset := ⟨"low", .ofList [("speed", .number (.int 30))]⟩

def fanDraft (presets : List Preset) : DeviceTypeDraft where
  id := "fan"
  description := "A fan"
  entities := .ofList [(.fan, [⟨"fan", [.direct "model", .renamed "percentage" "speed"]⟩])]
  supportedAttributes := ["model", "speed", "model"]
  stateAttributes := ["on", "speed"]
  presets := presets

/-- The speed is listed twice, and is state in the place of the first time; a preset whose key is
there already is reported as such even if nothing in it is supported. -/
theorem toDeviceType_exact_fan :
    (∃ t, (fanDraft [lowPreset]).toDeviceType = .ok t ∧ t.attributeNames = ["model", "speed", "on"]
        ∧ t.kind? "speed" = some .state ∧ t.preset? "low" = some lowPreset)
      ∧ (fanDraft [lowPreset, ⟨"low", .ofList [("level", .null)]⟩]).toDeviceType
        = .error (.duplicatePreset "low") := by
  constructor
  · obtain ⟨t, ht⟩ := (toDeviceType_exact (fanDraft [lowPreset])).1.2
      ⟨by decide, by decide, by decide⟩
    obtain ⟨-, hnames, hstate, -, hpreset, -⟩ := (toDeviceType_exact _).2.2.2 t ht
    exact ⟨t, ht, hnames.trans (by decide), (hstate _).2 (by decide), (hpreset _ _).2 (by decide)⟩
  · have hp : (fanDraft [lowPreset, ⟨"low", .ofList [("level", .null)]⟩]).presets
        = [lowPreset] ++ ⟨"low", .ofList [("level", .null)]⟩ :: [] := rfl
    exact ((toDeviceType_exact _).2.1 _).2
      (.duplicate (by decide) hp ⟨by decide, by decide⟩ (by decide))

end DeviceTypeDraft

end SmartHome
