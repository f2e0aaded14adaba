import Mathlib.Data.List.Nodup
import SmartHome.Proofs.Correspondence

/-!
# Compiling a compiled home

The devices of a compiled home, put back into the areas that they come from, make a home again
(`devices_resolved`). Its devices set no attribute that their types do not support, a preset's
included (`mem_attributeNames_of_build`), and to apply their presets again changes no value, so it
compiles to the same home but for the order of the devices' attributes (`build_resolved`). Symbols
are no obstacle: a device keeps them, and only its entities have the values.
-/

namespace SmartHome

universe u v

/-- A list in which equal keys stand together is put together from the parts with one key. -/
theorem flatMap_filter_key {α : Type u} {κ : Type v} [DecidableEq κ] {key : α → κ} :
    ∀ {gs : List (κ × Nat)} {l : List α}, (gs.map Prod.fst).Nodup →
      l.map key = (gs.flatMap fun g => List.replicate g.2 g.1) →
      (gs.flatMap fun g => l.filter fun x => key x = g.1) = l
  | [], l, _, hl => by
    rw [List.flatMap_nil, List.map_eq_nil_iff] at hl
    rw [hl, List.flatMap_nil]
  | g :: gs, l, hn, hl => by
    rw [List.map_cons, List.nodup_cons] at hn
    rw [List.flatMap_cons] at hl
    obtain ⟨l₁, l₂, rfl, h₁, h₂⟩ := List.map_eq_append_iff.1 hl
    have hk₁ : ∀ x ∈ l₁, key x = g.1 := by
      intro x hx
      exact List.eq_of_mem_replicate (h₁ ▸ List.mem_map_of_mem hx)
    have hk₂ : ∀ x ∈ l₂, key x ∈ gs.map Prod.fst := by
      intro x hx
      have hm : key x ∈ gs.flatMap fun g => List.replicate g.2 g.1 := h₂ ▸ List.mem_map_of_mem hx
      obtain ⟨g', hg', hx'⟩ := List.mem_flatMap.1 hm
      rw [List.eq_of_mem_replicate hx']
      exact List.mem_map_of_mem hg'
    have hg : ((l₁ ++ l₂).filter fun x => key x = g.1) = l₁ := by
      rw [List.filter_append, List.filter_eq_self.2 (by simpa using hk₁), List.filter_eq_nil_iff.2,
        List.append_nil]
      intro x hx he
      exact hn.1 (of_decide_eq_true he ▸ hk₂ x hx)
    -- the parts of the other keys lie behind the part of the first
    have hgs : ∀ g' ∈ gs, ((l₁ ++ l₂).filter fun x => key x = g'.1)
        = l₂.filter fun x => key x = g'.1 := by
      intro g' hg'
      rw [List.filter_append, List.filter_eq_nil_iff.2, List.nil_append]
      intro x hx he
      rw [decide_eq_true_eq, hk₁ x hx] at he
      exact hn.1 (he ▸ List.mem_map_of_mem hg')
    rw [List.flatMap_cons, hg, List.flatMap_congr hgs, flatMap_filter_key hn.2 h₂]

namespace CompiledHome

/-- The devices in an area, or the services, with their presets applied. -/
def resolvedIn (c : CompiledHome) (area : Option String) : List Device :=
  (c.devices.filter fun cd => cd.area = area).map CompiledDevice.device

end CompiledHome

namespace Home

/-- The home with the devices of a compiled home in its areas and for its services. -/
def resolved (h : Home) (c : CompiledHome) : Home where
  areas := ⟨h.areas.entries.map fun e => (e.1, c.resolvedIn (some e.1)), by
    rw [List.map_map]
    exact h.areas.nodup⟩
  services := c.resolvedIn none
  localTypes := h.localTypes

variable {h : Home} {catalog : Registry} {resolver : Resolver} {c : CompiledHome}

theorem areaNames_resolved (h : Home) (c : CompiledHome) :
    (h.resolved c).areaNames = h.areaNames := by
  unfold areaNames resolved Dict.keys
  rw [List.map_map]
  rfl

/-- The areas of a home and the services, each with the number of its devices. -/
def groups (h : Home) : List (Option String × Nat) :=
  h.areas.entries.map (fun e => (some e.1, e.2.length)) ++ [(none, h.services.length)]

theorem nodup_groups (h : Home) : (h.groups.map Prod.fst).Nodup := by
  have hs : h.groups.map Prod.fst = (h.areas.entries.map Prod.fst).map some ++ [none] := by
    simp [groups, Function.comp_def]
  rw [hs]
  refine List.nodup_append.2 ⟨h.areas.nodup.map (fun _ _ => Option.some.inj), by simp, ?_⟩
  intro a ha b hb hab
  obtain ⟨x, -, rfl⟩ := List.mem_map.1 ha
  rw [List.mem_singleton.1 hb] at hab
  cases hab

theorem map_fst_devices (h : Home) :
    h.devices.map Prod.fst = h.groups.flatMap fun g => List.replicate g.2 g.1 := by
  unfold devices groups
  rw [List.map_append, List.flatMap_append, List.map_flatMap, List.flatMap_map]
  simp [Function.comp_def]

/-- The row of a home's compiled devices is the row of its devices with their presets applied. -/
theorem devices_resolved (hb : CompiledHome.build h catalog resolver = .ok c) :
    (h.resolved c).devices = c.devices.map fun cd => (cd.area, cd.device) := by
  have ha : c.devices.map CompiledDevice.area = h.devices.map Prod.fst := by
    refine map_eq_of_forall₂ (fun p cd hc => ?_) (CompiledHome.build_eq_ok_iff.1 hb).2.2
    exact (CompiledDevice.represents_of_ofDevice hc).area_eq
  have hf : ∀ area, ((c.devices.filter fun cd => cd.area = area).map fun cd => (cd.area, cd.device))
      = (c.resolvedIn area).map fun d => (area, d) := by
    intro area
    unfold CompiledHome.resolvedIn
    rw [List.map_map]
    refine List.map_congr_left fun cd hcd => ?_
    have harea : cd.area = area := by simpa using (List.mem_filter.1 hcd).2
    simp [harea]
  have hs := flatMap_filter_key h.nodup_groups (ha.trans h.map_fst_devices)
  conv_rhs => rw [← hs]
  rw [List.map_flatMap]
  unfold devices groups resolved
  simp only [List.flatMap_append, List.flatMap_map, hf, List.flatMap_singleton]

end Home

namespace CompiledDevice

variable {types : Registry} {resolver : Resolver} {area : Option String} {d : Device}
  {c : CompiledDevice}

/-- The compiled devices are the same but for the order of the device's attributes. -/
structure Alike (c c' : CompiledDevice) : Prop where
  uniqueId_eq : c.uniqueId = c'.uniqueId
  area_eq : c.area = c'.area
  entities_eq : c.entities = c'.entities
  device : c.device.Alike c'.device

/-- A compiled device is compiled again to the same but for the order of its attributes. -/
theorem ofDevice_again (h : ofDevice types resolver area d = .ok c) :
    ∃ c', ofDevice types resolver c.area c.device = .ok c' ∧ c'.Alike c := by
  obtain ⟨t, d', es, ht, hd, hes, rfl⟩ := ofDevice_eq_ok_iff.1 h
  have hf := Device.applyPresets_frame hd
  obtain ⟨d'', hd', ha⟩ := Device.applyPresets_again hd
  have ht' : types.get? d'.typeId = some t := by
    rw [hf]
    exact ht
  have hes' : Entity.ofDevice resolver d'' t = .ok es := by
    rw [Entity.ofDevice_congr ha.get?_eq]
    exact hes
  refine ⟨_, ofDevice_eq_ok_iff.2 ⟨t, d'', es, ht', hd', hes', rfl⟩, ?_, rfl, rfl, ha⟩
  rw [hf]

/-- The device has a type, and all its attributes are supported. -/
theorem typed_of_ofDevice (hd : Home.deviceProblem? types d = none)
    (h : ofDevice types resolver area d = .ok c) :
    ∃ t, types.get? c.device.typeId = some t
      ∧ ∀ k ∈ c.device.attributes.keys, k ∈ t.attributeNames := by
  obtain ⟨t, d', es, ht, hd', -, rfl⟩ := ofDevice_eq_ok_iff.1 h
  obtain ⟨t', ht', ha⟩ := Home.deviceProblem?_eq_none_iff.1 hd
  cases ht.symm.trans ht'
  have hf := Device.applyPresets_frame hd'
  refine ⟨t, ?_, Device.mem_attributeNames_of_applyPresets (fun k hk => ?_) hd'⟩
  · rw [hf]
    exact ht
  · exact DeviceType.supports_iff.1 (ha k hk)

end CompiledDevice

namespace CompiledHome

variable {h : Home} {catalog : Registry} {resolver : Resolver} {c : CompiledHome}

/-- Every attribute of a compiled device is supported by its type. -/
theorem mem_attributeNames_of_build (hb : build h catalog resolver = .ok c) {cd : CompiledDevice}
    (hm : cd ∈ c.devices) : ∃ t, (h.mergedTypes catalog).get? cd.device.typeId = some t
      ∧ ∀ k ∈ cd.device.attributes.keys, k ∈ t.attributeNames := by
  obtain ⟨p, hp, hc⟩ := exists_device_of_mem hb hm
  have hn := (Home.problem?_eq_none_iff.1 (build_eq_ok_iff.1 hb).1).2 p hp
  exact CompiledDevice.typed_of_ofDevice hn hc

theorem problem?_resolved (hb : build h catalog resolver = .ok c) :
    (h.resolved c).problem? (h.mergedTypes catalog) = none := by
  refine Home.problem?_eq_none_iff.2
    ⟨(Home.problem?_eq_none_iff.1 (build_eq_ok_iff.1 hb).1).1, fun p hp => ?_⟩
  rw [Home.devices_resolved hb] at hp
  obtain ⟨cd, hcd, rfl⟩ := List.mem_map.1 hp
  obtain ⟨t, ht, ha⟩ := mem_attributeNames_of_build hb hcd
  exact Home.deviceProblem?_eq_none_iff.2
    ⟨t, ht, fun k hk => DeviceType.supports_iff.2 (ha k hk)⟩

/-- A compiled home is a fixed point: its devices, put back into the home, set only what their types
support, and compile to the same areas, identifiers and entities, and to the same attributes in
some order. -/
theorem build_resolved (hb : build h catalog resolver = .ok c) :
    (h.resolved c).devices = c.devices.map (fun cd => (cd.area, cd.device))
      ∧ (∀ cd ∈ c.devices, ∃ t, (h.mergedTypes catalog).get? cd.device.typeId = some t
        ∧ ∀ k ∈ cd.device.attributes.keys, k ∈ t.attributeNames)
      ∧ ∃ c', build (h.resolved c) catalog resolver = .ok c' ∧ c'.areas = c.areas
        ∧ List.Forall₂ CompiledDevice.Alike c'.devices c.devices := by
  have hd := Home.devices_resolved hb
  have hm : (h.resolved c).mergedTypes catalog = h.mergedTypes catalog := rfl
  have hagain : ∀ cd ∈ c.devices, ∃ cd',
      CompiledDevice.ofDevice (h.mergedTypes catalog) resolver cd.area cd.device = .ok cd'
        ∧ cd'.Alike cd := by
    intro cd hcd
    obtain ⟨p, -, hc⟩ := exists_device_of_mem hb hcd
    exact CompiledDevice.ofDevice_again hc
  have hok : failure? (build (h.resolved c) catalog resolver) = none := by
    rw [failure?_build, hm, problem?_resolved hb, Option.none_or, hd, List.findSome?_map,
      List.findSome?_eq_none_iff]
    intro cd hcd
    obtain ⟨cd', hcd', -⟩ := hagain cd hcd
    exact failure?_eq_none_iff.2 ⟨cd', hcd'⟩
  obtain ⟨c', hb'⟩ := failure?_eq_none_iff.1 hok
  obtain ⟨-, ha', hd'⟩ := build_eq_ok_iff.1 hb'
  refine ⟨hd, fun cd => mem_attributeNames_of_build hb, c', hb', ?_, ?_⟩
  · rw [ha', Home.areaNames_resolved, (build_eq_ok_iff.1 hb).2.1]
  · rw [hd, hm, List.forall₂_map_left_iff] at hd'
    refine (((List.forall₂_and_left _ _).2 ⟨hagain, hd'⟩).imp ?_).flip
    rintro cd cd' ⟨⟨x, hx, ha⟩, hcd'⟩
    cases hx.symm.trans hcd'
    exact ha

end CompiledHome

/-- A camera whose preset sets its resolution beside its state. -/
def nightCameraType : DeviceType :=
  { cameraType with
    presets := [⟨"night", .ofList [("motion", .bool false), ("resolution", .string "480p")]⟩]
    supports_presets := by decide
    nodup_presets := by decide }

/-- Two cameras that say nothing about their resolution, one in a room and one in none. -/
def nightHome : Home where
  areas := ⟨[("Attic", []), ("Hall", [⟨"Camera", "camera", none, .empty, ["night"]⟩])], by decide⟩
  services := [⟨"Camera", "camera", none, .ofList [("motion", .bool true)], ["night"]⟩]
  localTypes := some (.collect [nightCameraType])

/-- The resolution that the preset adds is supported; when the state is cleared for the second time
it comes to stand first, and nothing else changes. -/
theorem build_resolved_night :
    ∃ c c', CompiledHome.build nightHome .empty SymbolTable.empty.resolve = .ok c
      ∧ CompiledHome.build (nightHome.resolved c) .empty SymbolTable.empty.resolve = .ok c'
      ∧ c'.areas = ["Attic", "Hall"] ∧ List.Forall₂ CompiledDevice.Alike c'.devices c.devices
      ∧ c.devices.map (·.device.attributes.keys)
        = [["motion", "resolution"], ["motion", "resolution"]]
      ∧ c'.devices.map (·.device.attributes.keys)
        = [["resolution", "motion"], ["resolution", "motion"]] := by
  rcases hb : CompiledHome.build nightHome .empty SymbolTable.empty.resolve with e | c
  · cases hb
  · obtain ⟨-, -, c', hb', ha, hd⟩ := CompiledHome.build_resolved hb
    refine ⟨c, c', rfl, hb', ?_, hd, ?_, ?_⟩
    · rw [ha]
      cases hb
      rfl
    · cases hb
      rfl
    · cases hb
      cases hb'
      rfl

end SmartHome
