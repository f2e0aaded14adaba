import Mathlib.Algebra.GroupWithZero.Nat
import SmartHome.Proofs.Address
import SmartHome.Proofs.Compile

/-!
# A compiled home device by device

A compiled home has a device for each device of the home, at the same place of the row
(`build_correspondence`): nothing is lost, doubled or moved, an area without devices is still an
area, and looking a device up by its area and its name gives the compiled form of the device that
the same look-up gives in the home.
-/

namespace SmartHome

namespace CompiledDevice

/-- The compiled device is that of a device in an area: all but its attributes is kept, and it has
an entity for each template of its type. -/
structure Represents (types : Registry) (area : Option String) (d : Device)
    (c : CompiledDevice) : Prop where
  area_eq : c.area = area
  name_eq : c.device.name = d.name
  typeId_eq : c.device.typeId = d.typeId
  info_eq : c.device.info = d.info
  presetKeys_eq : c.device.presetKeys = d.presetKeys
  uniqueId_eq : c.uniqueId = UniqueId.ofDevice area d.name
  entities : ∃ t, types.get? d.typeId = some t
    ∧ c.entities.map (fun e => (e.platform, e.key)) = t.templates.map fun p => (p.1, p.2.key)

variable {types : Registry} {resolver : Resolver} {area : Option String} {d : Device}
  {c : CompiledDevice}

theorem represents_of_ofDevice (h : ofDevice types resolver area d = .ok c) :
    Represents types area d c := by
  obtain ⟨t, d', es, ht, hd, hes, rfl⟩ := ofDevice_eq_ok_iff.1 h
  have hf := Device.applyPresets_frame hd
  refine ⟨rfl, ?_, ?_, ?_, ?_, rfl, t, ht, Entity.ofDevice_keys hes⟩ <;> rw [hf]

/-- The number of templates of a device's type. -/
def templateCount (types : Registry) (d : Device) : Nat :=
  (types.get? d.typeId).elim 0 fun t => t.templates.length

theorem Represents.length_entities (h : Represents types area d c) :
    c.entities.length = templateCount types d := by
  obtain ⟨t, ht, he⟩ := h.entities
  unfold templateCount
  rw [ht, Option.elim_some, ← List.length_map (fun e : Entity => (e.platform, e.key)), he,
    List.length_map]

end CompiledDevice

namespace CompiledHome

variable {h : Home} {catalog : Registry} {resolver : Resolver} {c : CompiledHome}

theorem addresses_eq (hb : build h catalog resolver = .ok c) :
    c.devices.map (fun cd => (cd.area, cd.device.name)) = h.addresses := by
  refine map_eq_of_forall₂ (fun p cd hc => ?_) (build_eq_ok_iff.1 hb).2.2
  have hr := CompiledDevice.represents_of_ofDevice hc
  rw [hr.area_eq, hr.name_eq]

theorem device?_eq_getElem? (hb : build h catalog resolver = .ok c) (area : Option String)
    (name : String) : c.device? area name = c.devices[h.place area name]? := by
  have hp : (fun cd : CompiledDevice => decide (cd.area = area ∧ cd.device.name = name))
      = fun cd => decide ((cd.area, cd.device.name) = (area, name)) := by
    funext cd
    simp only [Prod.mk.injEq]
  unfold device? Home.place
  rw [hp, find?_eq_getElem?_idxOf (fun cd : CompiledDevice => (cd.area, cd.device.name)),
    addresses_eq hb]

/-- The compiled form of the device at a place stands at the same place. -/
theorem getElem?_devices (hb : build h catalog resolver = .ok c) (i : Nat) :
    (h.devices[i]?).map (fun p =>
        CompiledDevice.ofDevice (h.mergedTypes catalog) resolver p.1 p.2)
      = (c.devices[i]?).map .ok := by
  rw [← List.getElem?_map, ← List.getElem?_map]
  exact congrArg (·[i]?) (map_eq_of_forall₂ (fun _ _ hc => hc.symm) (build_eq_ok_iff.1 hb).2.2).symm

theorem exists_device_of_mem (hb : build h catalog resolver = .ok c) {cd : CompiledDevice}
    (hm : cd ∈ c.devices) : ∃ p ∈ h.devices,
      CompiledDevice.ofDevice (h.mergedTypes catalog) resolver p.1 p.2 = .ok cd :=
  exists_of_forall₂ (build_eq_ok_iff.1 hb).2.2 hm

theorem entityCount_eq (hb : build h catalog resolver = .ok c) : c.entityCount
    = (h.devices.map fun p => CompiledDevice.templateCount (h.mergedTypes catalog) p.2).sum := by
  unfold entityCount
  rw [List.length_flatMap]
  refine congrArg List.sum (map_eq_of_forall₂ (fun p cd hc => ?_) (build_eq_ok_iff.1 hb).2.2)
  exact (CompiledDevice.represents_of_ofDevice hc).length_entities

/-- A compiled home has the areas of the home and, place by place, its devices; a device is found by
its address exactly if the home has one there, and then it is the compiled form of the first. -/
theorem build_correspondence (hb : build h catalog resolver = .ok c) :
    c.areas = h.areas.entries.map Prod.fst
      ∧ List.Forall₂ (fun p cd => cd.Represents (h.mergedTypes catalog) p.1 p.2)
        h.devices c.devices
      ∧ c.entityCount
        = (h.devices.map fun p => CompiledDevice.templateCount (h.mergedTypes catalog) p.2).sum
      ∧ ∀ area name,
        (h.device? area name = none ∧ (∀ f, h.updateDevice? area name f = none)
          ∧ c.device? area name = none)
        ∨ ∃ (i : Nat) (d : Device) (cd : CompiledDevice), h.FindsAt area name i d
          ∧ c.device? area name = some cd ∧ c.devices[i]? = some cd
          ∧ CompiledDevice.ofDevice (h.mergedTypes catalog) resolver area d = .ok cd := by
  obtain ⟨-, ha, hd⟩ := build_eq_ok_iff.1 hb
  refine ⟨ha, hd.imp fun _ _ => CompiledDevice.represents_of_ofDevice, entityCount_eq hb,
    fun area name => ?_⟩
  have hg := getElem?_devices hb (h.place area name)
  rw [device?_eq_getElem? hb]
  rcases hp : h.devices[h.place area name]? with _ | p <;> rw [hp] at hg
  · left
    have hn : h.device? area name = none := by rw [h.device?_eq_getElem?, hp, Option.map_none]
    exact ⟨hn, Home.updateDevice?_eq_none hn, Option.map_eq_none_iff.1 hg.symm⟩
  · right
    obtain ⟨cd, hcd, hc⟩ := Option.map_eq_some_iff.1 hg.symm
    obtain ⟨rfl, -⟩ := Prod.mk.inj (Home.address_of_place hp)
    exact ⟨_, p.2, cd, Home.findsAt_place hp, hcd, hcd, hc.symm⟩

end CompiledHome

section Cameras

/-- A camera with a motion sensor. -/
def cameraType : DeviceType where
  id := "camera"
  description := "A camera"
  entities := .ofList [(.binarySensor, [⟨"motion", [.renamed "is_on" "motion"]⟩]),
    (.camera, [⟨"camera", [.direct "resolution"]⟩])]
  kinds := .ofList [("resolution", .static), ("motion", .state), ("person", .state)]
  presets := [⟨"idle", .ofList [("motion", .bool false)]⟩,
    ⟨"person", .ofList [("person", .bool true)]⟩]
  supports_templates := by decide
  supports_presets := by decide
  nodup_presets := by decide

/-- A camera in front of which something moves. -/
def camera (resolution : String) (presets : List String) : Device where
  name := "Camera"
  typeId := "camera"
  info := none
  attributes := .ofList [("resolution", .string resolution), ("motion", .bool true)]
  presetKeys := presets

/-- A home in which all cameras have one name, with an area without devices and one without a
name. -/
def cameraHome : Home where
  areas := ⟨[("", [camera "480p" []]), ("Attic", []),
    ("Porch", [camera "1080p" ["idle", "person"], camera "720p" ["person"]])], by decide⟩
  services := [camera "240p" []]
  localTypes := some (.collect [cameraType])

/-- Each address finds its own camera, and in an area without devices there is none to find. -/
theorem build_correspondence_cameras :
    ∃ c, CompiledHome.build cameraHome .empty SymbolTable.empty.resolve = .ok c
      ∧ c.areas = ["", "Attic", "Porch"] ∧ c.entityCount = 8
      ∧ (∀ a ∈ [(some "", camera "480p" []), (some "Porch", camera "1080p" ["idle", "person"]),
          (none, camera "240p" [])], ∃ cd, c.device? a.1 "Camera" = some cd
        ∧ CompiledDevice.ofDevice (.collect [cameraType]) SymbolTable.empty.resolve a.1 a.2
          = .ok cd)
      ∧ c.device? (some "Attic") "Camera" = none := by
  have hn : failure? (CompiledHome.build cameraHome .empty SymbolTable.empty.resolve) = none := by
    rfl
  obtain ⟨c, hb⟩ := failure?_eq_none_iff.1 hn
  obtain ⟨ha, -, hn, hd⟩ := CompiledHome.build_correspondence hb
  refine ⟨c, hb, ha, hn, fun a hm => ?_, ?_⟩
  · have hf : cameraHome.device? a.1 "Camera" = some a.2 := by
      revert a
      decide
    obtain ⟨hf', -, -⟩ | ⟨i, d, cd, hi, hcd, -, hc⟩ := hd a.1 "Camera"
    · cases hf.symm.trans hf'
    · cases hf.symm.trans hi.device?_eq
      exact ⟨cd, hcd, hc⟩
  · obtain ⟨-, -, hc⟩ | ⟨i, d, cd, hi, -⟩ := hd (some "Attic") "Camera"
    · exact hc
    · cases hi.device?_eq

end Cameras

end SmartHome
