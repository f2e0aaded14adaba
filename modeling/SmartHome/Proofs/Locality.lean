import SmartHome.Proofs.Rejection
import SmartHome.Proofs.SelfContained

/-!
# Compilation is local

A home looks a type up among its own types first and in the catalog only after them
(`get?_mergedTypes_eq`). So what a catalog says about a type that the home declares itself, or that
none of its devices has, is of no influence, not even on the error of a home that fails; and the
compiled form of a device depends on its area, its fields and its type alone, so two homes that
have these in common have the compiled device in common (`build_local`).
-/

namespace SmartHome

namespace Home

variable {h : Home} {catalog catalog' : Registry}

/-- The home declares the type itself. -/
def declares (h : Home) (id : String) : Bool := h.localTypes.any (·.contains id)

theorem get?_mergedTypes_eq (h : Home) (catalog : Registry) (id : String) :
    (h.mergedTypes catalog).get? id
      = (h.localTypes.bind (·.get? id)).or (catalog.get? id) := by
  unfold mergedTypes
  rcases h.localTypes with _ | types
  · rfl
  · exact Registry.get?_overlay catalog types id

theorem declares_eq_isSome (h : Home) (id : String) :
    h.declares id = (h.localTypes.bind (·.get? id)).isSome := by
  unfold declares
  rcases h.localTypes with _ | types <;> rfl

/-- Catalogs that agree on a type unless the home declares it merge to the same type. -/
theorem get?_mergedTypes_congr {id : String}
    (hg : h.declares id = false → catalog.get? id = catalog'.get? id) :
    (h.mergedTypes catalog).get? id = (h.mergedTypes catalog').get? id := by
  rw [get?_mergedTypes_eq, get?_mergedTypes_eq]
  rcases ht : h.localTypes.bind (·.get? id) with _ | t
  · have hd : h.declares id = false := by
      rw [declares_eq_isSome, ht]
      rfl
    rw [hg hd]
  · rfl

end Home

namespace CompiledHome

variable {h h' : Home} {catalog catalog' : Registry} {resolver : Resolver} {c c' : CompiledHome}

/-- The compiled form of a device of a home stands where the device stands. -/
theorem getElem?_of_device (hb : build h catalog resolver = .ok c) {i : Nat}
    {area : Option String} {d : Device} (hd : h.devices[i]? = some (area, d)) :
    ∃ cd, c.devices[i]? = some cd
      ∧ CompiledDevice.ofDevice (h.mergedTypes catalog) resolver area d = .ok cd := by
  have hc := getElem?_devices hb i
  rw [hd, Option.map_some] at hc
  obtain ⟨cd, hcd, hc⟩ := Option.map_eq_some_iff.1 hc.symm
  exact ⟨cd, hcd, hc.symm⟩

/-- Of a catalog only the types count that the home's devices have and the home does not declare,
whether it compiles or fails; and what a device is compiled to depends on its area, its fields and
its type, and on nothing around it. -/
theorem build_local :
    (∀ (h : Home) (catalog catalog' : Registry) (resolver : Resolver),
        (h.mergedTypes catalog).isEmpty = false → (h.mergedTypes catalog').isEmpty = false →
        (∀ p ∈ h.devices, h.declares p.2.typeId = false →
          catalog.get? p.2.typeId = catalog'.get? p.2.typeId) →
        build h catalog resolver = build h catalog' resolver)
      ∧ ∀ (h h' : Home) (catalog catalog' : Registry) (resolver : Resolver) (c c' : CompiledHome),
        build h catalog resolver = .ok c → build h' catalog' resolver = .ok c' →
        ∀ (i j : Nat) (area : Option String) (d : Device),
        h.devices[i]? = some (area, d) → h'.devices[j]? = some (area, d) →
        (h.mergedTypes catalog).get? d.typeId = (h'.mergedTypes catalog').get? d.typeId →
        ∃ cd, c.devices[i]? = some cd ∧ c'.devices[j]? = some cd := by
  constructor
  · intro h catalog catalog' resolver he he' hg
    refine build_congr rfl rfl (he.trans he'.symm) fun p hp => ?_
    exact Home.get?_mergedTypes_congr (hg p hp)
  · intro h h' catalog catalog' resolver c c' hb hb' i j area d hd hd' ht
    obtain ⟨cd, hi, hc⟩ := getElem?_of_device hb hd
    obtain ⟨cd', hj, hc'⟩ := getElem?_of_device hb' hd'
    have heq : cd = cd' := by
      rw [CompiledDevice.ofDevice_congr ht, hc'] at hc
      exact (Except.ok.inj hc).symm
    exact ⟨cd, hi, heq ▸ hj⟩

end CompiledHome

/-- A home with one of the cameras of `cameraHome` on its porch, behind a camera of its own. -/
def porchHome : Home where
  areas := ⟨[("Shed", [camera "240p" ["idle"]]), ("Porch", [camera "720p" ["person"]])], by decide⟩
  services := []
  localTypes := none

/-- To a home with cameras of its own a catalog of other cameras is as good as none, to one with
cameras alone a catalog with a lamp is as good as one without, and the camera on both porches is the
same. -/
theorem build_local_cameras :
    CompiledHome.build cameraHome (.collect [blankCameraType]) SymbolTable.empty.resolve
        = CompiledHome.build cameraHome .empty SymbolTable.empty.resolve
      ∧ CompiledHome.build porchHome (.collect [lampType, cameraType]) SymbolTable.empty.resolve
        = CompiledHome.build porchHome (.collect [cameraType]) SymbolTable.empty.resolve
      ∧ ∃ c c', CompiledHome.build cameraHome .empty SymbolTable.empty.resolve = .ok c
        ∧ CompiledHome.build porchHome (.collect [cameraType]) SymbolTable.empty.resolve = .ok c'
        ∧ ∃ cd, c.devices[2]? = some cd ∧ c'.devices[1]? = some cd := by
  obtain ⟨c, hb⟩ : ∃ c, CompiledHome.build cameraHome .empty SymbolTable.empty.resolve = .ok c :=
    failure?_eq_none_iff.1 rfl
  obtain ⟨c', hb'⟩ : ∃ c', CompiledHome.build porchHome (.collect [cameraType])
      SymbolTable.empty.resolve = .ok c' := failure?_eq_none_iff.1 rfl
  refine ⟨CompiledHome.build_local.1 _ _ _ _ rfl rfl ?_,
    CompiledHome.build_local.1 _ _ _ _ rfl rfl ?_, c, c', hb, hb', ?_⟩
  · have hd : ∀ p ∈ cameraHome.devices, cameraHome.declares p.2.typeId = true := by decide
    intro p hp hn
    rw [hd p hp] at hn
    cases hn
  · have ht : ∀ p ∈ porchHome.devices, p.2.typeId = "camera" := by decide
    intro p hp _
    rw [ht p hp]
    rfl
  · exact CompiledHome.build_local.2 _ _ _ _ _ c c' hb hb' 2 1 (some "Porch")
      (camera "720p" ["person"]) rfl rfl rfl

end SmartHome
