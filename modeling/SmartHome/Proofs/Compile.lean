import SmartHome.Compiled.Home
import SmartHome.Proofs.Demand
import SmartHome.Proofs.Overlay
import SmartHome.Proofs.Preset

/-!
# The steps of compiling a home

Each step of the compiler is given by when it succeeds, with what, and by its failure:
validation (`problem?_eq_none_iff`), one device (`ofDevice_eq_ok_iff`, `failure?_ofDevice`) and the
whole home (`build_eq_ok_iff`, `failure?_build`). Compiling reads the registry only at the types of
the home's devices and in whether it is empty, so registries that agree there give the same outcome,
an error included (`build_congr`).
-/

namespace SmartHome

namespace Home

variable {h : Home} {catalog types : Registry}

theorem deviceProblem?_eq_none_iff {d : Device} : deviceProblem? types d = none
    ↔ ∃ t, types.get? d.typeId = some t ∧ ∀ k ∈ d.attributes.keys, t.supports k = true := by
  unfold deviceProblem?
  rcases types.get? d.typeId with _ | t
  · simp
  · simp [List.find?_eq_none]

theorem problem?_eq_none_iff : h.problem? types = none
    ↔ types.isEmpty = false ∧ ∀ e ∈ h.devices, deviceProblem? types e.2 = none := by
  unfold problem?
  split_ifs with he
  · simp [he]
  · simp [he, List.findSome?_eq_none_iff]

theorem problem?_congr {h' : Home} {types' : Registry} (hd : h.devices = h'.devices)
    (he : types.isEmpty = types'.isEmpty)
    (hg : ∀ e ∈ h.devices, types.get? e.2.typeId = types'.get? e.2.typeId) :
    h.problem? types = h'.problem? types' := by
  unfold problem?
  rw [he, ← hd]
  split_ifs
  · rfl
  · refine findSome?_congr fun e hm => ?_
    unfold deviceProblem?
    rw [hg e hm]

theorem failure?_validTypes (h : Home) (catalog : Registry) :
    failure? (h.validTypes catalog) = h.problem? (h.mergedTypes catalog) := by
  unfold validTypes
  rcases h.problem? (h.mergedTypes catalog) with _ | e <;> rfl

theorem validTypes_eq_ok_iff : h.validTypes catalog = .ok types
    ↔ h.problem? (h.mergedTypes catalog) = none ∧ types = h.mergedTypes catalog := by
  unfold validTypes
  rcases h.problem? (h.mergedTypes catalog) with _ | e <;> simp [eq_comm]

theorem validate_eq_ok_iff {h' : Home} : h.validate catalog = .ok h'
    ↔ h.problem? (h.mergedTypes catalog) = none
      ∧ h' = { h with localTypes := some (h.mergedTypes catalog) } := by
  unfold validate
  rw [map_eq_ok_iff]
  constructor
  · rintro ⟨types, hv, rfl⟩
    obtain ⟨hp, rfl⟩ := validTypes_eq_ok_iff.1 hv
    exact ⟨hp, rfl⟩
  · rintro ⟨hp, rfl⟩
    exact ⟨_, validTypes_eq_ok_iff.2 ⟨hp, rfl⟩, rfl⟩

theorem exists_type_of_problem? (hp : h.problem? types = none) {e : Option String × Device}
    (he : e ∈ h.devices) : ∃ t, types.get? e.2.typeId = some t :=
  (deviceProblem?_eq_none_iff.1 ((problem?_eq_none_iff.1 hp).2 e he)).imp fun _ => And.left

end Home

namespace Entity

variable {resolver : Resolver} {d : Device} {t : DeviceType}

theorem ofTemplate_frame {p : Platform} {template : EntityTemplate} {e : Entity}
    (h : ofTemplate resolver d p template = .ok e) : e.platform = p ∧ e.key = template.key := by
  obtain ⟨as, -, he⟩ := bind_eq_ok_iff.1 h
  cases he
  exact ⟨rfl, rfl⟩

theorem ofDevice_keys {es : List Entity} (h : ofDevice resolver d t = .ok es) :
    es.map (fun e => (e.platform, e.key)) = t.templates.map fun p => (p.1, p.2.key) := by
  refine map_eq_of_forall₂ (fun p e he => ?_) (mapM_eq_ok_iff.1 h)
  obtain ⟨hp, hk⟩ := ofTemplate_frame he
  rw [hp, hk]

/-- A template reads the device's attributes by name, so their order is of no influence. -/
theorem ofTemplate_congr {d' : Device}
    (ha : ∀ name, d.attributes.get? name = d'.attributes.get? name) (p : Platform)
    (template : EntityTemplate) :
    ofTemplate resolver d p template = ofTemplate resolver d' p template := by
  have ht : takeOver resolver d.attributes = takeOver resolver d'.attributes := by
    funext taken spec
    unfold takeOver
    rw [ha]
  unfold ofTemplate
  rw [ht]

theorem ofDevice_congr {d' : Device}
    (ha : ∀ name, d.attributes.get? name = d'.attributes.get? name) :
    ofDevice resolver d t = ofDevice resolver d' t :=
  mapM_congr fun e _ => ofTemplate_congr ha e.1 e.2

end Entity

namespace CompiledDevice

variable {types : Registry} {resolver : Resolver} {area : Option String} {d : Device}
  {t : DeviceType}

theorem ofDevice_of_get? (ht : types.get? d.typeId = some t) : ofDevice types resolver area d
    = d.applyPresets t >>= fun device => Entity.ofDevice resolver device t >>= fun entities =>
      pure ⟨UniqueId.ofDevice area d.name, device, area, entities⟩ := by
  unfold ofDevice
  rw [ht]

theorem ofDevice_eq_ok_iff {c : CompiledDevice} : ofDevice types resolver area d = .ok c
    ↔ ∃ t d' es, types.get? d.typeId = some t ∧ d.applyPresets t = .ok d'
      ∧ Entity.ofDevice resolver d' t = .ok es
      ∧ c = ⟨UniqueId.ofDevice area d.name, d', area, es⟩ := by
  constructor
  · intro h
    rcases ht : types.get? d.typeId with _ | t
    · unfold ofDevice at h
      rw [ht] at h
      cases h
    · rw [ofDevice_of_get? ht] at h
      obtain ⟨d', hd, h⟩ := bind_eq_ok_iff.1 h
      obtain ⟨es, hes, h⟩ := bind_eq_ok_iff.1 h
      cases h
      exact ⟨t, d', es, rfl, hd, hes, rfl⟩
  · rintro ⟨t, d', es, ht, hd, hes, rfl⟩
    rw [ofDevice_of_get? ht]
    exact bind_eq_ok_iff.2 ⟨d', hd, bind_eq_ok_iff.2 ⟨es, hes, rfl⟩⟩

theorem failure?_ofDevice (ht : types.get? d.typeId = some t) :
    failure? (ofDevice types resolver area d)
      = failure? (d.applyPresets t >>= fun device => Entity.ofDevice resolver device t) := by
  rw [ofDevice_of_get? ht]
  rcases d.applyPresets t with e | d'
  · rfl
  · exact failure?_bind_pure _ _

theorem ofDevice_congr {types' : Registry} (ht : types.get? d.typeId = types'.get? d.typeId) :
    ofDevice types resolver area d = ofDevice types' resolver area d := by
  unfold ofDevice
  rw [ht]

end CompiledDevice

namespace CompiledHome

variable {h : Home} {catalog : Registry} {resolver : Resolver}

theorem build_eq_ok_iff {c : CompiledHome} : build h catalog resolver = .ok c
    ↔ h.problem? (h.mergedTypes catalog) = none ∧ c.areas = h.areaNames
      ∧ List.Forall₂ (fun e cd =>
          CompiledDevice.ofDevice (h.mergedTypes catalog) resolver e.1 e.2 = .ok cd)
        h.devices c.devices := by
  unfold build
  simp only [bind_eq_ok_iff, Home.validTypes_eq_ok_iff, mapM_eq_ok_iff]
  constructor
  · rintro ⟨types, ⟨hp, rfl⟩, cds, hc, h⟩
    cases h
    exact ⟨hp, rfl, hc⟩
  · rintro ⟨hp, ha, hc⟩
    rcases c with ⟨areas, cds⟩
    exact ⟨_, ⟨hp, rfl⟩, cds, hc, by rw [← ha]; rfl⟩

/-- A home fails at its validation, or else at its first device that fails. -/
theorem failure?_build (h : Home) (catalog : Registry) (resolver : Resolver) :
    failure? (build h catalog resolver) = (h.problem? (h.mergedTypes catalog)).or
      (h.devices.findSome? fun e =>
        failure? (CompiledDevice.ofDevice (h.mergedTypes catalog) resolver e.1 e.2)) := by
  unfold build
  rw [← Home.failure?_validTypes]
  refine failure?_bind fun types ht => ?_
  obtain ⟨-, rfl⟩ := Home.validTypes_eq_ok_iff.1 ht
  rw [failure?_bind_pure, failure?_mapM]

/-- Homes with the same devices whose registries agree on the types of these compile alike. -/
theorem build_congr {h' : Home} {catalog' : Registry} (ha : h.areaNames = h'.areaNames)
    (hd : h.devices = h'.devices)
    (he : (h.mergedTypes catalog).isEmpty = (h'.mergedTypes catalog').isEmpty)
    (hg : ∀ e ∈ h.devices,
      (h.mergedTypes catalog).get? e.2.typeId = (h'.mergedTypes catalog').get? e.2.typeId) :
    build h catalog resolver = build h' catalog' resolver := by
  have hm : (h.devices.mapM fun e =>
        CompiledDevice.ofDevice (h.mergedTypes catalog) resolver e.1 e.2)
      = h.devices.mapM fun e =>
        CompiledDevice.ofDevice (h'.mergedTypes catalog') resolver e.1 e.2 :=
    mapM_congr fun e hm => CompiledDevice.ofDevice_congr (hg e hm)
  unfold build Home.validTypes
  rw [Home.problem?_congr hd he hg]
  rcases h'.problem? (h'.mergedTypes catalog') with _ | e
  · rw [hd] at hm
    simp only [bind, Except.bind, ha, hd, hm]
  · rfl

end CompiledHome

end SmartHome
