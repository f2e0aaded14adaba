import SmartHome.Proofs.NetEffect

/-!
# What applying selections leaves of a home

Selections are applied one after the other, up to the first whose device the home does not have.
Each replaces the presets of one device, and they are all of different devices, so what is left is
the home with the presets of their devices replaced (`Replaces`), which says all about it
(`Replaces.unique`). After a selection without a device this holds of the selections in front of it
(`applyAll_of_firstFailing`).
-/

namespace SmartHome

/-- The home has a device with the name: in the area, or among the services. -/
def Home.Has (h : Home) : Option String × String → Prop
  | (some area, name) => ∃ ds, (area, ds) ∈ h.areas.entries ∧ ∃ d ∈ ds, d.name = name
  | (none, name) => ∃ d ∈ h.services, d.name = name

theorem Home.has_iff {h : Home} {a : Option String × String} : h.Has a ↔ a ∈ h.addresses := by
  rcases a with ⟨_ | area, name⟩
  · simp [Has, addresses, devices]
  · simp only [Has, addresses, devices, List.mem_map, List.mem_append, List.mem_flatMap]
    constructor
    · rintro ⟨ds, hds, d, hd, rfl⟩
      exact ⟨_, .inl ⟨_, hds, d, hd, rfl⟩, rfl⟩
    · rintro ⟨_, ⟨e, he, d, hd, rfl⟩ | ⟨d, -, rfl⟩, heq⟩
      · obtain ⟨harea, rfl⟩ := Prod.mk.inj heq
        cases harea
        exact ⟨_, he, d, hd, rfl⟩
      · cases heq

namespace Selections

variable {h h₁ h₂ : Home} {x : (Option String × String) × String}
  {es pre post : List ((Option String × String) × String)}

/-- The second home is the first with the presets of selected devices replaced: of each selection the
first device with its name in its area has the selected preset alone, and all else is the same. -/
structure Replaces (es : List ((Option String × String) × String)) (h h' : Home) : Prop where
  areaNames_eq : h'.areaNames = h.areaNames
  localTypes_eq : h'.localTypes = h.localTypes
  selected : ∀ e ∈ es, ∃ d, h.devices[h.place e.1.1 e.1.2]? = some (e.1.1, d)
    ∧ h'.devices[h.place e.1.1 e.1.2]? = some (e.1.1, { d with presetKeys := [e.2] })
  others : ∀ i, (∀ e ∈ es, h.place e.1.1 e.1.2 ≠ i) → h'.devices[i]? = h.devices[i]?

theorem Replaces.unique (h₁' : Replaces es h h₁) (h₂' : Replaces es h h₂) : h₁ = h₂ := by
  refine Home.ext_devices (h₁'.areaNames_eq.trans h₂'.areaNames_eq.symm) ?_
    (h₁'.localTypes_eq.trans h₂'.localTypes_eq.symm)
  refine List.ext_getElem? fun i => ?_
  by_cases hi : ∃ e ∈ es, h.place e.1.1 e.1.2 = i
  · obtain ⟨e, he, rfl⟩ := hi
    obtain ⟨d, hd, hd₁⟩ := h₁'.selected e he
    obtain ⟨d', hd', hd₂⟩ := h₂'.selected e he
    cases hd.symm.trans hd'
    rw [hd₁, hd₂]
  · have hne : ∀ e ∈ es, h.place e.1.1 e.1.2 ≠ i := fun e he hp => hi ⟨e, he, hp⟩
    rw [h₁'.others i hne, h₂'.others i hne]

theorem replaces_applyAll (hn : (es.map Prod.fst).Nodup) (ho : (applyAll h es).2 = .ok ()) :
    Replaces es h (applyAll h es).1 := by
  obtain ⟨hareas, htypes, -⟩ := applyAll_frame es h
  refine ⟨hareas, htypes, fun e he => ?_, fun i => getElem?_applyAll_of_ne es h⟩
  exact getElem?_applyAll_of_mem es h hn ho he

theorem applyAll_append : ∀ {pre : List ((Option String × String) × String)} {h : Home},
    (applyAll h pre).2 = .ok () →
      applyAll h (pre ++ post) = applyAll (applyAll h pre).1 post
  | [], _, _ => rfl
  | e :: pre, h, ho => by
    rw [applyAll_cons] at ho
    rw [List.cons_append, applyAll_cons, applyAll_cons]
    rcases hs : select? h e with _ | h₁ <;> rw [hs] at ho
    · cases ho
    · exact applyAll_append ho

/-- The first selection without a device ends the application, and those in front of it have been
applied. -/
theorem applyAll_of_firstFailing (hs : es = pre ++ x :: post) (hpre : ∀ e ∈ pre, h.Has e.1)
    (hx : ¬ h.Has x.1) : (applyAll h pre).2 = .ok ()
      ∧ applyAll h es = ((applyAll h pre).1, .error (.noDevice x.1.1 x.1.2)) := by
  have ho : (applyAll h pre).2 = .ok () := by
    refine applyAll_eq_ok_iff.2 fun e he => ?_
    exact Home.has_iff.1 (hpre e he)
  have hnone : select? (applyAll h pre).1 x = none := by
    obtain ⟨-, -, haddresses⟩ := applyAll_frame pre h
    rw [← Option.not_isSome_iff_eq_none, isSome_select?_iff, haddresses, ← Home.has_iff]
    exact hx
  refine ⟨ho, ?_⟩
  rw [hs, applyAll_append ho, applyAll_cons, hnone]
  rfl

/-- Selections are applied to a home that has all their devices, and then the presets of these are
replaced and nothing else is changed. Without one of the devices the first selection in order
that has none gives the error, and what is changed are the presets of the devices in front of it.
What is changed is all told by the selections that are applied. -/
theorem apply_exact (s : Selections) (h : Home) :
    ((s.apply h).2 = .ok () ↔ ∀ e ∈ s.entries.entries, h.Has e.1)
      ∧ ((s.apply h).2 = .ok () → Replaces s.entries.entries h (s.apply h).1)
      ∧ (∀ error, (s.apply h).2 = .error error ↔ ∃ x,
        FirstFailing (fun e => h.Has e.1) s.entries.entries x ∧ error = .noDevice x.1.1 x.1.2)
      ∧ (∀ pre x post, s.entries.entries = pre ++ x :: post → (∀ e ∈ pre, h.Has e.1) →
        ¬ h.Has x.1 → Replaces pre h (s.apply h).1)
      ∧ ∀ es h₁ h₂, Replaces es h h₁ → Replaces es h h₂ → h₁ = h₂ := by
  have hok : (s.apply h).2 = .ok () ↔ ∀ e ∈ s.entries.entries, h.Has e.1 := by
    simp only [apply, applyAll_eq_ok_iff, Home.has_iff]
  refine ⟨hok, replaces_applyAll s.entries.nodup, fun error => ⟨fun he => ?_, ?_⟩,
    fun pre x post hs hpre hx => ?_, fun es h₁ h₂ => Replaces.unique⟩
  · have hfails : ¬ ∀ e ∈ s.entries.entries, h.Has e.1 := by
      rw [← hok, he]
      simp
    obtain ⟨x, pre, post, hs, hpre, hx⟩ := FirstFailing.exists_iff.2 hfails
    rw [apply, (applyAll_of_firstFailing hs hpre hx).2] at he
    exact ⟨x, ⟨pre, post, hs, hpre, hx⟩, (Except.error.inj he).symm⟩
  · rintro ⟨x, ⟨pre, post, hs, hpre, hx⟩, rfl⟩
    rw [apply, (applyAll_of_firstFailing hs hpre hx).2]
  · obtain ⟨ho, happlied⟩ := applyAll_of_firstFailing hs hpre hx
    have hn := s.entries.nodup
    rw [hs, List.map_append, List.nodup_append] at hn
    rw [apply, happlied]
    exact replaces_applyAll hn.1 ho

/-- Of three selections of cameras the second is of an area without devices: the camera of the first
is changed, and that of the third is not. -/
theorem apply_exact_cameras : ∃ h',
    (after [.set (some "Porch") "Camera" "idle", .set (some "Attic") "Camera" "idle",
        .set none "Camera" "person"]).apply cameraHome
      = (h', .error (.noDevice (some "Attic") "Camera"))
    ∧ Replaces [((some "Porch", "Camera"), "idle")] cameraHome h'
    ∧ h'.devices.map (fun e => e.2.presetKeys) = [[], ["idle"], ["person"], []] := by
  obtain ⟨-, -, -, hreplaces, -⟩ := apply_exact (after [.set (some "Porch") "Camera" "idle",
    .set (some "Attic") "Camera" "idle", .set none "Camera" "person"]) cameraHome
  refine ⟨_, rfl, hreplaces [((some "Porch", "Camera"), "idle")] ((some "Attic", "Camera"), "idle")
    [((none, "Camera"), "person")] rfl ?_ ?_, rfl⟩
  · simp only [List.forall_mem_singleton, Home.has_iff]
    decide
  · rw [Home.has_iff]
    decide

end Selections

end SmartHome
