import Mathlib.Data.List.Basic
import SmartHome.Home.Basic
import SmartHome.Proofs.Dictionary

/-!
# Where the devices of a home stand

The devices of a home stand in one row, area after area and the services last, and the devices of
one area stand together in it (`devices_split`). So a device that is looked up by its area and its
name is the first in the row with this address (`device?_eq_getElem?`), and to change it is to
change one place of the row (`devices_updateDevice?`).
-/

namespace SmartHome

universe u v

theorem find?_eq_getElem?_idxOf {α : Type u} {κ : Type v} [DecidableEq κ] [BEq κ] [LawfulBEq κ]
    (key : α → κ) (k : κ) : ∀ l : List α, (l.find? fun x => key x = k) = l[(l.map key).idxOf k]?
  | [] => rfl
  | x :: l => by
    rw [List.map_cons, List.idxOf_cons, List.find?_cons]
    by_cases hk : key x = k
    · simp [hk]
    · simp only [hk, decide_false, beq_eq_false_iff_ne.2 hk, cond_false, List.getElem?_cons_succ]
      exact find?_eq_getElem?_idxOf key k l

theorem Device.updateFirst?_split {name : String} {f : Device → Device} :
    ∀ {ds ds' : List Device}, updateFirst? name f ds = some ds' →
      ∃ pre d post, ds = pre ++ d :: post ∧ d.name = name ∧ (∀ x ∈ pre, x.name ≠ name)
        ∧ ds' = pre ++ f d :: post
  | [], _, h => by cases h
  | d :: ds, ds', h => by
    unfold updateFirst? at h
    split_ifs at h with hd
    · cases h
      exact ⟨[], d, ds, rfl, hd, by simp, rfl⟩
    · obtain ⟨es, hes, rfl⟩ := Option.map_eq_some_iff.1 h
      obtain ⟨pre, x, post, rfl, hx, hpre, rfl⟩ := updateFirst?_split hes
      refine ⟨d :: pre, x, post, rfl, hx, ?_, rfl⟩
      rintro y (_ | ⟨_, hy⟩)
      · exact hd
      · exact hpre y hy

namespace Home

variable {h h' : Home} {area : Option String} {name : String}

/-- The area and the name of every device. -/
def addresses (h : Home) : List (Option String × String) := h.devices.map fun e => (e.1, e.2.name)

/-- The place of the first device with an address; behind all devices if there is none. -/
def place (h : Home) (area : Option String) (name : String) : Nat :=
  h.addresses.idxOf (area, name)

/-- The home with other devices in an area or for services. -/
def withDevices (h : Home) (area : Option String) (ds : List Device) : Home :=
  match area with
  | some area => { h with areas := h.areas.insert area ds }
  | none => { h with services := ds }

theorem updateDevice?_eq (f : Device → Device) : h.updateDevice? area name f
    = (h.devicesIn? area).bind fun ds =>
      (Device.updateFirst? name f ds).map (h.withDevices area) := by
  unfold updateDevice?
  rcases h.devicesIn? area with _ | ds
  · rfl
  · rcases hu : Device.updateFirst? name f ds with _ | es
    · simp [hu]
    · rcases area with _ | area <;> simp [hu, withDevices]

section Row

/-- The devices of one area stand together. -/
theorem devices_split {ds : List Device} (hd : h.devicesIn? area = some ds) :
    ∃ pre post, (∀ e ∈ pre, e.1 ≠ area) ∧ (∀ e ∈ post, e.1 ≠ area)
      ∧ h.devices = pre ++ (ds.map fun d => (area, d)) ++ post
      ∧ ∀ ds', (h.withDevices area ds').devices = pre ++ (ds'.map fun d => (area, d)) ++ post := by
  rcases area with _ | area
  · cases hd
    refine ⟨h.areas.entries.flatMap fun e => e.2.map fun d => (some e.1, d), [], ?_, by simp,
      by simp [devices], fun ds' => by simp [devices, withDevices]⟩
    simp only [List.mem_flatMap, List.mem_map]
    rintro _ ⟨e, -, d, -, rfl⟩ hn
    cases hn
  · obtain ⟨pre, post, he, hpre, hpost, hup⟩ := Dict.insert_split hd
    refine ⟨pre.flatMap fun e => e.2.map fun d => (some e.1, d),
      (post.flatMap fun e => e.2.map fun d => (some e.1, d)) ++ h.services.map fun d => (none, d),
      ?_, ?_, ?_, fun ds' => ?_⟩
    · simp only [List.mem_flatMap, List.mem_map]
      rintro _ ⟨e, he, d, -, rfl⟩ hn
      exact hpre e he (Option.some.inj hn)
    · simp only [List.mem_append, List.mem_flatMap, List.mem_map]
      rintro _ (⟨e, he, d, -, rfl⟩ | ⟨d, -, rfl⟩) hn
      · exact hpost e he (Option.some.inj hn)
      · cases hn
    · simp [devices, he]
    · simp [devices, withDevices, hup]

theorem devicesIn?_eq_none (hd : h.devicesIn? area = none) : ∀ e ∈ h.devices, e.1 ≠ area := by
  rcases area with _ | area
  · cases hd
  · simp only [devices, List.mem_append, List.mem_flatMap, List.mem_map]
    rintro _ (⟨e, he, d, -, rfl⟩ | ⟨d, -, rfl⟩) hn
    · refine Dict.get?_eq_none_iff.1 hd ?_
      exact List.mem_map.2 ⟨e, he, Option.some.inj hn⟩
    · cases hn

/-- The devices of an area are those in the row that stand in it. -/
theorem eq_filter_devices {ds : List Device} (hd : h.devicesIn? area = some ds) :
    ds = (h.devices.filter fun e => e.1 = area).map Prod.snd := by
  obtain ⟨pre, post, hpre, hpost, hs, -⟩ := devices_split hd
  have hnone : ∀ {l : List (Option String × Device)}, (∀ e ∈ l, e.1 ≠ area) →
      l.filter (fun e => e.1 = area) = [] := by
    intro l hl
    exact List.filter_eq_nil_iff.2 fun e he => by simpa using hl e he
  have hall : (ds.map fun d => (area, d)).filter (fun e => e.1 = area)
      = ds.map fun d => (area, d) := List.filter_eq_self.2 (by simp)
  rw [hs, List.filter_append, List.filter_append, hnone hpre, hnone hpost, hall, List.nil_append,
    List.append_nil, List.map_map]
  exact (List.map_id ds).symm

/-- A home is its areas' names, the row of its devices and its own types. -/
theorem ext_devices (ha : h.areaNames = h'.areaNames) (hd : h.devices = h'.devices)
    (ht : h.localTypes = h'.localTypes) : h = h' := by
  have hin : ∀ area ds ds', h.devicesIn? area = some ds → h'.devicesIn? area = some ds' →
      ds = ds' := by
    intro area ds ds' hds hds'
    rw [eq_filter_devices hds, eq_filter_devices hds', hd]
  have hareas : h.areas = h'.areas := by
    have hkeys : h.areas.keys = h'.areas.keys := ha
    refine Dict.ext_get? hkeys fun area => ?_
    by_cases hm : area ∈ h.areas.keys
    · obtain ⟨ds, hds⟩ := Dict.mem_keys_iff.1 hm
      obtain ⟨ds', hds'⟩ := Dict.mem_keys_iff.1 (hkeys ▸ hm)
      have hsame : ds = ds' := hin (some area) ds ds' hds hds'
      rw [hds, hds', hsame]
    · rw [Dict.get?_eq_none_iff.2 hm, Dict.get?_eq_none_iff.2 (hkeys ▸ hm)]
  have hservices : h.services = h'.services := hin none _ _ rfl rfl
  cases h
  cases h'
  cases hareas
  cases hservices
  cases ht
  rfl

end Row

section Lookup

theorem device?_eq_find? (h : Home) (area : Option String) (name : String) : h.device? area name
    = (h.devices.find? fun e => (e.1, e.2.name) = (area, name)).map Prod.snd := by
  have hne : ∀ {l : List (Option String × Device)}, (∀ e ∈ l, e.1 ≠ area) →
      (l.find? fun e => (e.1, e.2.name) = (area, name)) = none := by
    intro l hl
    refine List.find?_eq_none.2 fun e he => ?_
    simp [hl e he]
  unfold device?
  rcases hd : h.devicesIn? area with _ | ds
  · rw [hne (devicesIn?_eq_none hd)]
    rfl
  · obtain ⟨pre, post, hpre, hpost, hs, -⟩ := devices_split hd
    rw [hs, List.find?_append, List.find?_append, hne hpre, hne hpost, List.find?_map]
    simp [Function.comp_def]

/-- The device with an address is the first in the row that has it. -/
theorem device?_eq_getElem? (h : Home) (area : Option String) (name : String) :
    h.device? area name = (h.devices[h.place area name]?).map Prod.snd := by
  rw [device?_eq_find?, find?_eq_getElem?_idxOf]
  rfl

theorem place_congr (ha : h'.addresses = h.addresses) (area : Option String) (name : String) :
    h'.place area name = h.place area name := by
  unfold place
  rw [ha]

theorem getElem?_addresses (h : Home) (i : Nat) :
    h.addresses[i]? = (h.devices[i]?).map fun e => (e.1, e.2.name) :=
  List.getElem?_map

theorem address_of_place {e : Option String × Device}
    (he : h.devices[h.place area name]? = some e) : (e.1, e.2.name) = (area, name) := by
  have hm := h.getElem?_addresses (h.place area name)
  rw [he, Option.map_some] at hm
  obtain ⟨hi, hx⟩ := List.getElem?_eq_some_iff.1 hm
  exact hx.symm.trans (List.getElem_idxOf hi)

theorem eq_of_place_eq {e : Option String × Device}
    (he : h.devices[h.place area name]? = some e) {area' : Option String} {name' : String}
    (hp : h.place area name = h.place area' name') : (area, name) = (area', name') := by
  refine (List.idxOf_inj ?_).1 hp
  rw [← address_of_place he]
  exact List.mem_map_of_mem (List.mem_of_getElem? he)

theorem address_ne_of_lt_place {i : Nat} (hi : i < h.place area name)
    {e : Option String × Device} (he : h.devices[i]? = some e) :
    (e.1, e.2.name) ≠ (area, name) := by
  have hm := h.getElem?_addresses i
  rw [he, Option.map_some] at hm
  obtain ⟨hl, hx⟩ := List.getElem?_eq_some_iff.1 hm
  have hn : (h.addresses[i] == (area, name)) = false := List.not_of_lt_findIdx hi
  rw [hx] at hn
  exact beq_eq_false_iff_ne.1 hn

/-- The first place with the address of a device is not behind the device. -/
theorem place_le {i : Nat} {e : Option String × Device} (he : h.devices[i]? = some e) :
    h.place e.1 e.2.name ≤ i := by
  by_contra hi
  exact address_ne_of_lt_place (Nat.lt_of_not_le hi) he rfl

theorem exists_device?_iff :
    (∃ d, h.device? area name = some d) ↔ (area, name) ∈ h.addresses := by
  rw [← Option.isSome_iff_exists, device?_eq_find?, Option.isSome_map, List.find?_isSome]
  simp [addresses]

theorem updateDevice?_split {f : Device → Device} (hu : h.updateDevice? area name f = some h') :
    ∃ pre d post, h.devices = pre ++ (area, d) :: post ∧ d.name = name
      ∧ (∀ e ∈ pre, (e.1, e.2.name) ≠ (area, name)) ∧ h'.devices = pre ++ (area, f d) :: post
      ∧ h'.areaNames = h.areaNames ∧ h'.localTypes = h.localTypes := by
  rw [updateDevice?_eq] at hu
  obtain ⟨ds, hd, hu⟩ := Option.bind_eq_some_iff.1 hu
  obtain ⟨ds', hds, rfl⟩ := Option.map_eq_some_iff.1 hu
  obtain ⟨xs, d, ys, rfl, hn, hxs, rfl⟩ := Device.updateFirst?_split hds
  obtain ⟨pre, post, hpre, hpost, hs, hs'⟩ := devices_split hd
  refine ⟨pre ++ xs.map fun d => (area, d), d, (ys.map fun d => (area, d)) ++ post,
    by simp [hs], hn, ?_, by simp [hs'], ?_, ?_⟩
  · intro e he heq
    simp only [Prod.mk.injEq] at heq
    rcases List.mem_append.1 he with he | he
    · exact hpre e he heq.1
    · obtain ⟨x, hx, rfl⟩ := List.mem_map.1 he
      exact hxs x hx heq.2
  · rcases area with _ | area
    · rfl
    · refine (Dict.keys_insert _ _ _).trans (if_pos ?_)
      exact Dict.mem_keys_iff.2 ⟨_, hd⟩
  · rcases area with _ | area <;> rfl

theorem place_eq_length {pre post : List (Option String × Device)} {d : Device}
    (hs : h.devices = pre ++ (area, d) :: post) (hn : d.name = name)
    (hpre : ∀ e ∈ pre, (e.1, e.2.name) ≠ (area, name)) : h.place area name = pre.length := by
  have hm : (area, name) ∉ pre.map fun e => (e.1, e.2.name) := by
    intro hm
    obtain ⟨e, he, heq⟩ := List.mem_map.1 hm
    exact hpre e he heq
  unfold place addresses
  rw [hs, List.map_append, List.map_cons, hn, List.idxOf_append_of_notMem hm, List.length_map,
    List.idxOf_cons_self, Nat.add_zero]

/-- To change the device with an address is to change one place of the row. -/
theorem devices_updateDevice? {f : Device → Device} (hu : h.updateDevice? area name f = some h') :
    ∃ d, h.devices[h.place area name]? = some (area, d) ∧ d.name = name
      ∧ h'.devices = h.devices.set (h.place area name) (area, f d) := by
  obtain ⟨pre, d, post, hs, hn, hpre, hs', -, -⟩ := updateDevice?_split hu
  have hp := place_eq_length hs hn hpre
  refine ⟨d, ?_, hn, ?_⟩ <;> rw [hp, hs]
  · simp
  · simp [hs']

theorem updateDevice?_isSome (f : Device → Device) :
    (h.updateDevice? area name f).isSome = (h.device? area name).isSome := by
  rw [updateDevice?_eq]
  unfold device?
  rcases h.devicesIn? area with _ | ds
  · rfl
  · exact Option.isSome_map.trans (Device.updateFirst?_isSome name f ds)

/-- The device at a place of the row is the one with an address, for looking up and for changing. -/
structure FindsAt (h : Home) (area : Option String) (name : String) (i : Nat) (d : Device) :
    Prop where
  getElem?_eq : h.devices[i]? = some (area, d)
  name_eq : d.name = name
  first : ∀ j < i, ∀ e, h.devices[j]? = some e → (e.1, e.2.name) ≠ (area, name)
  device?_eq : h.device? area name = some d
  update : ∀ f, ∃ h', h.updateDevice? area name f = some h'
    ∧ h'.devices = h.devices.set i (area, f d)

theorem findsAt_place {e : Option String × Device}
    (he : h.devices[h.place area name]? = some e) :
    h.FindsAt area name (h.place area name) e.2 := by
  obtain ⟨area', d⟩ := e
  obtain ⟨rfl, rfl⟩ := Prod.mk.inj (address_of_place he)
  have hd := h.device?_eq_getElem? area' d.name
  rw [he, Option.map_some] at hd
  refine ⟨he, rfl, fun j hj e => address_ne_of_lt_place hj, hd, fun f => ?_⟩
  obtain ⟨h', hu⟩ := Option.isSome_iff_exists.1 ((updateDevice?_isSome f).trans (by rw [hd]; rfl))
  obtain ⟨d', hd', -, hs⟩ := devices_updateDevice? hu
  cases he.symm.trans hd'
  exact ⟨h', hu, hs⟩

theorem updateDevice?_eq_none (hd : h.device? area name = none) (f : Device → Device) :
    h.updateDevice? area name f = none := by
  have hu : (h.updateDevice? area name f).isSome = (h.device? area name).isSome :=
    updateDevice?_isSome f
  rw [hd, Option.isSome_none] at hu
  exact Option.isNone_iff_eq_none.1 (Option.isSome_eq_false_iff.1 hu)

end Lookup

end Home

end SmartHome
