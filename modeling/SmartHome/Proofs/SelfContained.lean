import SmartHome.Proofs.Correspondence

/-!
# Validated homes need no catalog

A validated home has all its types with it. Under any other catalog its own types still win, so
every device finds the type that it was validated with (`get?_mergedTypes`) and the home compiles to
what it was without validation, an error included; to validate it once more changes nothing, not
even the order of its types (`validate_self_contained`).
-/

namespace SmartHome

namespace Home

variable {h : Home} {catalog types : Registry}

theorem mergedTypes_of_localTypes (hl : h.localTypes = some types) (catalog : Registry) :
    h.mergedTypes catalog = catalog.overlay types := by
  unfold mergedTypes
  rw [hl]

theorem exists_overlay_eq (h : Home) (catalog : Registry) :
    ∃ types, h.mergedTypes catalog = catalog.overlay types := by
  unfold mergedTypes
  rcases h.localTypes with _ | types
  · exact ⟨catalog, catalog.overlay_self.symm⟩
  · exact ⟨types, rfl⟩

/-- The merged types stay as they are over the catalog that they were merged from. -/
theorem overlay_mergedTypes (h : Home) (catalog : Registry) :
    catalog.overlay (h.mergedTypes catalog) = h.mergedTypes catalog := by
  obtain ⟨types, ht⟩ := h.exists_overlay_eq catalog
  rw [ht, Registry.overlay_overlay_self]

/-- A home with valid types of its own finds these types under every catalog. -/
theorem get?_mergedTypes (hl : h.localTypes = some types) (hp : h.problem? types = none)
    (catalog : Registry) {p : Option String × Device} (hd : p ∈ h.devices) :
    (h.mergedTypes catalog).get? p.2.typeId = types.get? p.2.typeId := by
  obtain ⟨t, ht⟩ := exists_type_of_problem? hp hd
  rw [mergedTypes_of_localTypes hl, Registry.get?_overlay, ht, Option.some_or]

theorem isEmpty_mergedTypes (hl : h.localTypes = some types) (hp : h.problem? types = none)
    (catalog : Registry) : (h.mergedTypes catalog).isEmpty = types.isEmpty := by
  have he := (problem?_eq_none_iff.1 hp).1
  rw [mergedTypes_of_localTypes hl, Registry.isEmpty_overlay, he, Bool.and_false]

/-- A validated home compiles under every catalog as the home compiled under the one it was
validated with, and to validate it again under this one gives the same home. -/
theorem validate_self_contained {h' : Home} (hv : h.validate catalog = .ok h') :
    (∀ catalog' resolver,
        CompiledHome.build h' catalog' resolver = CompiledHome.build h catalog resolver)
      ∧ h'.validate catalog = .ok h' := by
  obtain ⟨hp, hh⟩ := validate_eq_ok_iff.1 hv
  have hl : h'.localTypes = some (h.mergedTypes catalog) := by rw [hh]
  have hp' : h'.problem? (h.mergedTypes catalog) = none := by
    rw [hh]
    exact hp
  refine ⟨fun catalog' resolver => ?_, ?_⟩
  · refine CompiledHome.build_congr ?_ ?_ (isEmpty_mergedTypes hl hp' catalog')
      fun p hd => get?_mergedTypes hl hp' catalog' hd
    · rw [hh]
      rfl
    · rw [hh]
      rfl
  · refine validate_eq_ok_iff.2 ?_
    rw [mergedTypes_of_localTypes hl, overlay_mergedTypes, ← hl]
    exact ⟨hp', rfl⟩

end Home

/-- A camera with presets that set nothing. -/
def blankCameraType : DeviceType :=
  { cameraType with
    presets := [⟨"idle", .empty⟩, ⟨"person", .empty⟩]
    supports_presets := by decide
    nodup_presets := by decide }

/-- The cameras keep their presets under a catalog whose presets set nothing. -/
theorem validate_self_contained_cameras :
    ∃ h, cameraHome.validate (.collect [blankCameraType]) = .ok h
      ∧ (∀ catalog ∈ [.empty, .collect [blankCameraType]],
        CompiledHome.build h catalog SymbolTable.empty.resolve
          = CompiledHome.build cameraHome (.collect [blankCameraType]) SymbolTable.empty.resolve)
      ∧ h.validate (.collect [blankCameraType]) = .ok h := by
  obtain ⟨h, hv⟩ : ∃ h, cameraHome.validate (.collect [blankCameraType]) = .ok h := ⟨_, rfl⟩
  obtain ⟨hb, hv'⟩ := Home.validate_self_contained hv
  exact ⟨h, hv, fun catalog _ => hb catalog _, hv'⟩

end SmartHome
