import SmartHome.Home.Selections
import SmartHome.Proofs.Correspondence

/-!
# What selections do to a compiled home

One selection changes the presets of one device and leaves the rest of the home as it is
(`select?_spec`). So applying selections moves no device (`applyAll_frame`), changes no device
that has none of their addresses (`getElem?_applyAll_of_ne`), and leaves each of theirs with the
selected preset alone (`getElem?_applyAll_of_mem`): after compiling, the selected devices have the
state of their preset, nothing of an earlier one, and every other device is what it would be without
the selections (`build_applied`).
-/

namespace SmartHome

namespace Selections

variable {h h' : Home}

/-- A selection changes the presets of the device with its address. -/
theorem select?_spec {e : (Option String × String) × String} (hs : select? h e = some h') :
    h'.areaNames = h.areaNames ∧ h'.localTypes = h.localTypes ∧ h'.addresses = h.addresses
      ∧ ∃ d, h.devices[h.place e.1.1 e.1.2]? = some (e.1.1, d)
        ∧ h'.devices
          = h.devices.set (h.place e.1.1 e.1.2) (e.1.1, { d with presetKeys := [e.2] }) := by
  obtain ⟨pre, x, post, hd, -, -, hd', ha, ht⟩ := Home.updateDevice?_split hs
  obtain ⟨d, hp, -, hset⟩ := Home.devices_updateDevice? hs
  refine ⟨ha, ht, ?_, d, hp, hset⟩
  unfold Home.addresses
  rw [hd, hd']
  simp

theorem applyAll_cons (h : Home) (e : (Option String × String) × String)
    (es : List ((Option String × String) × String)) : applyAll h (e :: es)
      = (select? h e).elim (h, .error (.noDevice e.1.1 e.1.2)) fun h => applyAll h es := by
  rw [applyAll]
  rcases select? h e <;> rfl

/-- Applying selections moves no device and touches no area and no type. -/
theorem applyAll_frame : ∀ (es : List ((Option String × String) × String)) (h : Home),
    (applyAll h es).1.areaNames = h.areaNames ∧ (applyAll h es).1.localTypes = h.localTypes
      ∧ (applyAll h es).1.addresses = h.addresses
  | [], _ => ⟨rfl, rfl, rfl⟩
  | e :: es, h => by
    rw [applyAll_cons]
    rcases hs : select? h e with _ | h₁
    · exact ⟨rfl, rfl, rfl⟩
    · obtain ⟨ha, ht, hd, -⟩ := select?_spec hs
      obtain ⟨ha', ht', hd'⟩ := applyAll_frame es h₁
      exact ⟨ha'.trans ha, ht'.trans ht, hd'.trans hd⟩

theorem getElem?_applyAll_of_ne {i : Nat} :
    ∀ (es : List ((Option String × String) × String)) (h : Home),
      (∀ e ∈ es, h.place e.1.1 e.1.2 ≠ i) → (applyAll h es).1.devices[i]? = h.devices[i]?
  | [], _, _ => rfl
  | e :: es, h, hi => by
    rw [applyAll_cons]
    rcases hs : select? h e with _ | h₁
    · rfl
    · obtain ⟨-, -, ha, d, -, hd⟩ := select?_spec hs
      have hp : ∀ e ∈ es, h₁.place e.1.1 e.1.2 ≠ i := by
        intro f hf
        rw [Home.place_congr ha]
        exact hi f (List.mem_cons_of_mem _ hf)
      refine (getElem?_applyAll_of_ne es h₁ hp).trans ?_
      rw [hd, List.getElem?_set_ne (hi e List.mem_cons_self)]

/-- The device at a selected place has the selected preset alone. -/
theorem getElem?_applyAll_of_mem {x : (Option String × String) × String} :
    ∀ (es : List ((Option String × String) × String)) (h : Home), (es.map Prod.fst).Nodup →
      (applyAll h es).2 = .ok () → x ∈ es → ∃ d, h.devices[h.place x.1.1 x.1.2]? = some (x.1.1, d)
        ∧ (applyAll h es).1.devices[h.place x.1.1 x.1.2]?
          = some (x.1.1, { d with presetKeys := [x.2] })
  | [], _, _, _, hx => by cases hx
  | e :: es, h, hn, ho, hx => by
    rw [List.map_cons, List.nodup_cons] at hn
    rw [applyAll_cons] at ho ⊢
    rcases hs : select? h e with _ | h₁ <;> rw [hs] at ho
    · cases ho
    · obtain ⟨-, -, ha, d, hp, hd⟩ := select?_spec hs
      -- the selections after the first have other addresses, and so other places
      have hne : ∀ f ∈ es, h.place e.1.1 e.1.2 ≠ h.place f.1.1 f.1.2 := by
        intro f hf heq
        exact hn.1 (List.mem_map.2 ⟨f, hf, (Home.eq_of_place_eq hp heq).symm⟩)
      rcases List.mem_cons.1 hx with rfl | hx
      · refine ⟨d, hp, (getElem?_applyAll_of_ne es h₁ fun f hf => ?_).trans ?_⟩
        · rw [Home.place_congr ha]
          exact (hne f hf).symm
        · rw [hd]
          exact List.getElem?_set_self (List.getElem?_eq_some_iff.1 hp).1
      · obtain ⟨d', hd', hx'⟩ := getElem?_applyAll_of_mem es h₁ hn.2 ho hx
        rw [Home.place_congr ha, hd, List.getElem?_set_ne (hne x hx)] at hd'
        rw [Home.place_congr ha] at hx'
        exact ⟨d', hd', hx'⟩

section Apply

variable {s : Selections} (ha : s.apply h = (h', .ok ()))

include ha

theorem apply_frame : h'.areaNames = h.areaNames ∧ h'.localTypes = h.localTypes
    ∧ h'.addresses = h.addresses := by
  unfold apply at ha
  have hf := applyAll_frame s.entries.entries h
  rwa [ha] at hf

theorem getElem?_apply_of_get? {area : Option String} {name key : String}
    (hk : s.get? area name = some key) : ∃ d, h.devices[h.place area name]? = some (area, d)
      ∧ h'.devices[h.place area name]? = some (area, { d with presetKeys := [key] }) := by
  unfold apply at ha
  have hm := getElem?_applyAll_of_mem s.entries.entries h s.entries.nodup
    (congrArg Prod.snd ha) (Dict.get?_eq_some_iff.1 hk)
  rwa [ha] at hm

/-- A device without a selection stays as it is, and so does one behind another with its address. -/
theorem getElem?_apply_of_not_selected {i : Nat} {area : Option String} {d : Device}
    (hd : h.devices[i]? = some (area, d)) (hs : s.get? area d.name = none
      ∨ ∃ j < i, ∃ x, h.devices[j]? = some x ∧ (x.1, x.2.name) = (area, d.name)) :
    h'.devices[i]? = some (area, d) := by
  have hi : ∀ e ∈ s.entries.entries, h.place e.1.1 e.1.2 ≠ i := by
    rintro e he rfl
    have hx : (area, d.name) = e.1 := Home.address_of_place hd
    rcases hs with hs | ⟨j, hj, x, hj', hx'⟩
    · unfold get? at hs
      rw [hx, Dict.get?_eq_some_iff.2 he] at hs
      cases hs
    · exact Home.address_ne_of_lt_place hj hj' (hx'.trans hx)
  unfold apply at ha
  have hf := getElem?_applyAll_of_ne s.entries.entries h hi
  rw [ha] at hf
  exact hf.trans hd

end Apply

end Selections

/-- The compiled device selects one preset, and its state is what this preset sets. -/
structure CompiledDevice.InPreset (types : Registry) (key : String) (c : CompiledDevice) :
    Prop where
  presetKeys_eq : c.device.presetKeys = [key]
  state : ∃ t p, types.get? c.device.typeId = some t ∧ t.preset? key = some p
    ∧ ∀ name, t.kind? name = some .state → c.device.attributes.get? name = p.values.get? name

theorem CompiledDevice.inPreset_of_ofDevice {types : Registry} {resolver : Resolver}
    {area : Option String} {d : Device} {key : String} {c : CompiledDevice}
    (hk : d.presetKeys = [key]) (h : ofDevice types resolver area d = .ok c) :
    c.InPreset types key := by
  obtain ⟨t, d', es, ht, hd, -, rfl⟩ := ofDevice_eq_ok_iff.1 h
  have hf := Device.applyPresets_frame hd
  obtain ⟨p, hp, hs⟩ := Device.state_of_single hk hd
  refine ⟨?_, t, p, ?_, hp, hs⟩ <;> rw [hf]
  · exact hk
  · exact ht

namespace CompiledHome

variable {h h' : Home} {s : Selections} {catalog : Registry} {resolver : Resolver}
  {c c₀ : CompiledHome}

/-- With selections applied, each selected device has the state of its preset, and any other device
is compiled as it is without them. -/
theorem build_applied (ha : s.apply h = (h', .ok ())) (hb : build h' catalog resolver = .ok c) :
    (∀ area name key, s.get? area name = some key →
        ∃ cd, c.device? area name = some cd ∧ cd.InPreset (h.mergedTypes catalog) key)
      ∧ ∀ c₀, build h catalog resolver = .ok c₀ →
        ∀ (i : Nat) (area : Option String) (d : Device), h.devices[i]? = some (area, d) →
        (s.get? area d.name = none
          ∨ ∃ j < i, ∃ x, h.devices[j]? = some x ∧ (x.1, x.2.name) = (area, d.name)) →
        ∃ cd, c₀.devices[i]? = some cd ∧ c.devices[i]? = some cd := by
  obtain ⟨-, ht, hp⟩ := Selections.apply_frame ha
  have hm : h'.mergedTypes catalog = h.mergedTypes catalog := by
    unfold Home.mergedTypes
    rw [ht]
  refine ⟨fun area name key hk => ?_, fun c₀ hb₀ i area d hd hs => ?_⟩
  · obtain ⟨d, -, hd⟩ := Selections.getElem?_apply_of_get? ha hk
    have hc := getElem?_devices hb (h.place area name)
    rw [hd, hm] at hc
    obtain ⟨cd, hcd, hc⟩ := Option.map_eq_some_iff.1 hc.symm
    refine ⟨cd, ?_, CompiledDevice.inPreset_of_ofDevice rfl hc.symm⟩
    rw [device?_eq_getElem? hb, Home.place_congr hp]
    exact hcd
  · have hc := getElem?_devices hb i
    have hc₀ := getElem?_devices hb₀ i
    rw [Selections.getElem?_apply_of_not_selected ha hd hs, hm] at hc
    rw [hd] at hc₀
    obtain ⟨cd, hcd, hc⟩ := Option.map_eq_some_iff.1 hc.symm
    obtain ⟨cd₀, hcd₀, hc₀⟩ := Option.map_eq_some_iff.1 hc₀.symm
    cases hc.trans hc₀.symm
    exact ⟨cd, hcd₀, hcd⟩

end CompiledHome

/-- Two cameras of `cameraHome` are selected, and the one between them, which has the name of both
and the area of one, is not. -/
def cameraSelections : Selections :=
  (Selections.empty.set (some "Porch") "Camera" "idle").set none "Camera" "person"

theorem build_applied_cameras :
    ∃ h c, cameraSelections.apply cameraHome = (h, .ok ())
      ∧ CompiledHome.build h .empty SymbolTable.empty.resolve = .ok c
      ∧ (∃ cd, c.device? (some "Porch") "Camera" = some cd
        ∧ cd.InPreset (.collect [cameraType]) "idle")
      ∧ (∃ cd, c.device? none "Camera" = some cd ∧ cd.InPreset (.collect [cameraType]) "person")
      ∧ ∀ c₀, CompiledHome.build cameraHome .empty SymbolTable.empty.resolve = .ok c₀ →
        ∃ cd, c₀.devices[2]? = some cd ∧ c.devices[2]? = some cd := by
  obtain ⟨h, ha⟩ : ∃ h, cameraSelections.apply cameraHome = (h, .ok ()) := ⟨_, rfl⟩
  obtain ⟨c, hb⟩ : ∃ c, CompiledHome.build h .empty SymbolTable.empty.resolve = .ok c := by
    refine failure?_eq_none_iff.1 ?_
    obtain rfl : (cameraSelections.apply cameraHome).1 = h := congrArg Prod.fst ha
    rfl
  obtain ⟨hs, hd⟩ := CompiledHome.build_applied ha hb
  refine ⟨h, c, ha, hb, hs _ _ _ rfl, hs _ _ _ rfl, fun c₀ hb₀ => ?_⟩
  exact hd c₀ hb₀ 2 (some "Porch") (camera "720p" ["person"]) rfl
    (.inr ⟨1, by decide, _, rfl, rfl⟩)

end SmartHome
