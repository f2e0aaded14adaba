import SmartHome.Proofs.Compile

/-!
# Which error a home is rejected with

A home is compiled exactly if there are types at all, every device is `Typed`, and every device is
`Expandable`; else it is `Rejected` with one error (`build_outcome`). The error is that of the first
device without a proper type, whatever is wrong with the devices before it otherwise, and only in a
home without such a device that of the first one which does not expand. Feature flags are demands of
their own: a symbol that has a value, but no number, is no flag (`build_symbol_not_a_flag`).
-/

namespace SmartHome

namespace Device

variable (types : Registry) (resolver : Resolver)

/-- The device has a type, and its type supports every attribute that the device sets. -/
def Typed (d : Device) : Prop :=
  ∃ t, types.get? d.typeId = some t ∧ ∀ k ∈ d.attributes.keys, k ∈ t.attributeNames

/-- The error of a device that is not `Typed`: the type before the attributes, and these in their
order. -/
inductive Mistyped (d : Device) : HomeError → Prop
  | unknownType (ht : types.get? d.typeId = none) : Mistyped d (.unknownType d.name d.typeId)
  | unsupported {t k} (ht : types.get? d.typeId = some t)
      (hk : FirstFailing (· ∈ t.attributeNames) d.attributes.keys k) :
    Mistyped d (.unsupportedAttribute d.name d.typeId k)

/-- The type has every preset that the device selects, and the resolver meets every demand of the
device with its presets applied. -/
def Expandable (d : Device) : Prop :=
  ∀ t, types.get? d.typeId = some t → (∀ key ∈ d.presetKeys, key ∈ t.presetKeys)
    ∧ ∀ d', d.applyPresets t = .ok d' → ∀ q ∈ Demand.ofDevice d' t, q.Met resolver

/-- The error of a device that is not `Expandable`: the presets before the demands, and either in
their order. -/
inductive Inexpandable (d : Device) : HomeError → Prop
  | unknownPreset {t key} (ht : types.get? d.typeId = some t)
      (hk : FirstFailing (· ∈ t.presetKeys) d.presetKeys key) :
    Inexpandable d (.unknownPreset d.name d.typeId key t.presetKeys)
  | refused {t d' q e} (ht : types.get? d.typeId = some t) (hd : d.applyPresets t = .ok d')
      (hq : FirstFailing (Demand.Met resolver) (Demand.ofDevice d' t) q)
      (he : q.Refused resolver e) : Inexpandable d e

end Device

/-- The home is rejected with the error. -/
inductive Home.Rejected (h : Home) (types : Registry) (resolver : Resolver) : HomeError → Prop
  | noTypes (he : types.list = []) : Rejected h types resolver .noTypes
  | mistyped {p e} (he : types.list ≠ [])
      (hp : FirstFailing (fun p => p.2.Typed types) h.devices p) (hm : p.2.Mistyped types e) :
    Rejected h types resolver e
  | inexpandable {p e} (he : types.list ≠ []) (ht : ∀ p ∈ h.devices, p.2.Typed types)
      (hp : FirstFailing (fun p => p.2.Expandable types resolver) h.devices p)
      (hm : p.2.Inexpandable types resolver e) : Rejected h types resolver e

namespace Device

variable {types : Registry} {resolver : Resolver} {d : Device} {t : DeviceType} {e : HomeError}

section Typing

theorem typed_iff : d.Typed types ↔ Home.deviceProblem? types d = none := by
  simp only [Typed, Home.deviceProblem?_eq_none_iff, DeviceType.supports_iff]

theorem mistyped_iff : d.Mistyped types e ↔ Home.deviceProblem? types d = some e := by
  unfold Home.deviceProblem?
  rcases ht : types.get? d.typeId with _ | t
  · constructor
    · rintro (_ | ⟨ht', -⟩)
      · rfl
      · rw [ht] at ht'
        cases ht'
    · intro h
      cases h
      exact .unknownType ht
  · simp only [Option.map_eq_some_iff,
      FirstFailing.find?_iff fun _ => (DeviceType.supports_iff (t := t)).symm]
    constructor
    · rintro (ht' | ⟨ht', hk⟩) <;> rw [ht] at ht' <;> cases ht'
      exact ⟨_, hk, rfl⟩
    · rintro ⟨k, hk, rfl⟩
      exact .unsupported ht hk

end Typing

section Expansion

theorem failure?_applyPresets_eq_none_iff :
    failure? (d.applyPresets t) = none ↔ ∀ key ∈ d.presetKeys, key ∈ t.presetKeys := by
  simp [failure?_applyPresets, List.findSome?_eq_none_iff]

theorem failure?_applyPresets_eq_some_iff : failure? (d.applyPresets t) = some e
    ↔ ∃ key, FirstFailing (· ∈ t.presetKeys) d.presetKeys key
      ∧ e = .unknownPreset d.name t.id key t.presetKeys := by
  rw [failure?_applyPresets, FirstFailing.findSome?_iff (P := (· ∈ t.presetKeys)) (by simp)]
  refine exists_congr fun key => and_congr_right fun hk => ?_
  obtain ⟨_, _, _, _, hn⟩ := hk
  simp [hn, eq_comm]

variable {area : Option String} (ht : types.get? d.typeId = some t)

include ht

theorem expandable_iff : d.Expandable types resolver
    ↔ failure? (CompiledDevice.ofDevice types resolver area d) = none := by
  have hx : d.Expandable types resolver ↔ (∀ key ∈ d.presetKeys, key ∈ t.presetKeys)
      ∧ ∀ d', d.applyPresets t = .ok d' → ∀ q ∈ Demand.ofDevice d' t, q.Met resolver := by
    unfold Expandable
    rw [ht]
    simp
  rw [hx, CompiledDevice.failure?_ofDevice ht, ← failure?_applyPresets_eq_none_iff]
  rcases d.applyPresets t with e | d'
  · simp [bind, Except.bind]
  · simp only [failure?_ok, true_and, Except.ok.injEq, forall_eq']
    simp only [bind, Except.bind, Entity.failure?_ofDevice, List.findSome?_eq_none_iff,
      Demand.met_iff]

theorem inexpandable_iff : d.Inexpandable types resolver e
    ↔ failure? (CompiledDevice.ofDevice types resolver area d) = some e := by
  rw [CompiledDevice.failure?_ofDevice ht]
  constructor
  · rintro (⟨ht', hk⟩ | ⟨ht', hd, hq, he⟩) <;> rw [ht] at ht' <;> cases ht'
    · have hp := failure?_applyPresets_eq_some_iff.2 ⟨_, hk, rfl⟩
      rw [failure?_eq_some_iff.1 hp, Registry.id_of_get? ht]
      rfl
    · rw [hd]
      refine (Entity.failure?_ofDevice resolver _ t).trans ?_
      refine (FirstFailing.findSome?_iff fun _ _ => Demand.met_iff).2 ⟨_, hq, ?_⟩
      exact Demand.refused_iff.1 he
  · intro h
    rcases hd : d.applyPresets t with e' | d' <;> rw [hd] at h
    · cases h
      obtain ⟨key, hk, rfl⟩ := failure?_applyPresets_eq_some_iff.1 (failure?_eq_some_iff.2 hd)
      rw [Registry.id_of_get? ht]
      exact .unknownPreset ht hk
    · have h := (Entity.failure?_ofDevice resolver d' t).symm.trans h
      obtain ⟨q, hq, he⟩ := (FirstFailing.findSome?_iff fun _ _ => Demand.met_iff).1 h
      exact .refused ht hd hq (Demand.refused_iff.2 he)

end Expansion

end Device

namespace CompiledHome

theorem list_eq_nil_iff {r : Registry} : r.list = [] ↔ r.isEmpty = true := by
  simp [Registry.list, Registry.isEmpty, Dict.values, Dict.isEmpty]

variable {h : Home} {catalog : Registry} {resolver : Resolver} {e : HomeError}

theorem problem?_eq_none_iff_typed {types : Registry} : h.problem? types = none
    ↔ types.list ≠ [] ∧ ∀ p ∈ h.devices, p.2.Typed types := by
  simp only [Home.problem?_eq_none_iff, Device.typed_iff, Ne, list_eq_nil_iff, Bool.not_eq_true]

theorem problem?_eq_some_iff {types : Registry} : h.problem? types = some e
    ↔ types.list = [] ∧ e = .noTypes ∨ types.list ≠ [] ∧
      ∃ p, FirstFailing (fun p => p.2.Typed types) h.devices p ∧ p.2.Mistyped types e := by
  unfold Home.problem?
  split_ifs with he
  · have hn := list_eq_nil_iff.2 he
    simp [hn, eq_comm]
  · simp only [list_eq_nil_iff, he, Device.mistyped_iff, Bool.false_eq_true, false_and, false_or,
      not_false_eq_true, true_and, Ne]
    exact FirstFailing.findSome?_iff fun _ _ => Device.typed_iff

/-- Compiling the devices of a valid home fails on the first that is not expandable. -/
theorem findSome?_failure?_iff {types : Registry} (ht : ∀ p ∈ h.devices, p.2.Typed types) :
    (h.devices.findSome? fun p => failure? (CompiledDevice.ofDevice types resolver p.1 p.2))
        = some e
      ↔ ∃ p, FirstFailing (fun p => p.2.Expandable types resolver) h.devices p
        ∧ p.2.Inexpandable types resolver e := by
  rw [FirstFailing.findSome?_iff (P := fun p => p.2.Expandable types resolver)]
  · refine exists_congr fun p => and_congr_right fun hp => ?_
    obtain ⟨t, hg, -⟩ := ht p hp.mem
    exact (Device.inexpandable_iff hg).symm
  · intro p hp
    obtain ⟨t, hg, -⟩ := ht p hp
    exact Device.expandable_iff hg

/-- A home is compiled exactly if there are types, each device has one that supports its attributes,
and each device knows its presets and has its demands met; else it is rejected, with the one error
that `Rejected` gives. In a valid home every device finds its type again, and a home that is not
valid is rejected as by `validate`. -/
theorem build_outcome (h : Home) (catalog : Registry) (resolver : Resolver) :
    ((∃ c, build h catalog resolver = .ok c) ↔ (h.mergedTypes catalog).list ≠ []
        ∧ (∀ p ∈ h.devices, p.2.Typed (h.mergedTypes catalog))
        ∧ ∀ p ∈ h.devices, p.2.Expandable (h.mergedTypes catalog) resolver)
      ∧ (∀ e, build h catalog resolver = .error e
        ↔ h.Rejected (h.mergedTypes catalog) resolver e)
      ∧ (∀ types, h.validTypes catalog = .ok types →
        ∀ p ∈ h.devices, ∃ t, types.get? p.2.typeId = some t)
      ∧ ∀ e, h.validate catalog = .error e → build h catalog resolver = .error e := by
  refine ⟨?_, fun e => ?_, fun types hv p hp => ?_, fun e hv => ?_⟩
  · rw [← failure?_eq_none_iff, failure?_build, Option.or_eq_none_iff, problem?_eq_none_iff_typed,
      List.findSome?_eq_none_iff, and_assoc]
    refine and_congr_right fun _ => and_congr_right fun ht => forall₂_congr fun p hp => ?_
    obtain ⟨t, hg, -⟩ := ht p hp
    exact (Device.expandable_iff hg).symm
  · rw [← failure?_eq_some_iff, failure?_build, Option.or_eq_some_iff, problem?_eq_some_iff,
      problem?_eq_none_iff_typed]
    constructor
    · rintro ((⟨he, rfl⟩ | ⟨he, p, hp, hm⟩) | ⟨⟨he, ht⟩, hf⟩)
      · exact .noTypes he
      · exact .mistyped he hp hm
      · obtain ⟨p, hp, hm⟩ := (findSome?_failure?_iff ht).1 hf
        exact .inexpandable he ht hp hm
    · rintro (he | ⟨he, hp, hm⟩ | ⟨he, ht, hp, hm⟩)
      · exact .inl (.inl ⟨he, rfl⟩)
      · exact .inl (.inr ⟨he, _, hp, hm⟩)
      · exact .inr ⟨⟨he, ht⟩, (findSome?_failure?_iff ht).2 ⟨_, hp, hm⟩⟩
  · obtain ⟨hp', rfl⟩ := Home.validTypes_eq_ok_iff.1 hv
    exact Home.exists_type_of_problem? hp' hp
  · unfold Home.validate at hv
    rw [← failure?_eq_some_iff, failure?_map, Home.failure?_validTypes] at hv
    rw [← failure?_eq_some_iff, failure?_build, hv, Option.some_or]

end CompiledHome

section Flag

/-- The text of a demand that has to be a symbol. -/
def Demand.token? : Demand → Option String
  | symbol token => some token
  | flag item => item.toText?

/-- A lamp that shows its feature flags. -/
def lampType : DeviceType where
  id := "lamp"
  description := "A lamp"
  entities := .ofList [(.light, [⟨"light", [.direct "supported_features"]⟩])]
  kinds := .ofList [("supported_features", .static)]
  presets := []
  supports_templates := by decide
  supports_presets := by simp
  nodup_presets := by simp

/-- A lamp with a colour mode for a feature flag. -/
def lamp : Device :=
  ⟨"Lamp", "lamp", none, .ofList [("supported_features", .string "light.ColorMode.HS")], []⟩

def lampHome : Home := ⟨.empty, [lamp], none⟩

def lampTable : SymbolTable :=
  SymbolTable.empty.register "light" "ColorMode" "HS" (.string "hs")

/-- Every preset is known here and every symbol has a value, but the value is no feature flag. -/
theorem build_symbol_not_a_flag :
    (lampHome.mergedTypes (.collect [lampType])).list ≠ []
      ∧ (∀ p ∈ lampHome.devices, p.2.Typed (lampHome.mergedTypes (.collect [lampType])))
      ∧ (∀ p ∈ lampHome.devices, ∀ t,
        (lampHome.mergedTypes (.collect [lampType])).get? p.2.typeId = some t →
          (∀ key ∈ p.2.presetKeys, key ∈ t.presetKeys)
          ∧ ∀ d', p.2.applyPresets t = .ok d' → ∀ q ∈ Demand.ofDevice d' t,
            ∀ token, q.token? = some token → ∃ v, Denotes lampTable.resolve token v)
      ∧ CompiledHome.build lampHome (.collect [lampType]) lampTable.resolve
        = .error (.unresolved "light.ColorMode.HS" .notAFlag) := by
  have hd : lampHome.devices = [(none, lamp)] := rfl
  have hq : Demand.ofDevice lamp lampType = [.flag (.string "light.ColorMode.HS")] := rfl
  simp only [hd, List.forall_mem_singleton]
  refine ⟨by decide, ⟨lampType, rfl, by decide⟩, fun t ht => ?_, rfl⟩
  obtain rfl : lampType = t := Option.some.inj ht
  refine ⟨by decide, fun d' h q hm token ht => ?_⟩
  cases h
  rw [hq, List.mem_singleton] at hm
  subst hm
  cases ht
  exact ⟨.string "hs", ⟨"light", "ColorMode", "HS", by decide, by decide, by decide⟩, rfl, rfl⟩

end Flag

end SmartHome
