import SmartHome.Device.Registry
import SmartHome.Proofs.Dictionary

/-!
# Registries written over one another

A registry is its dictionary of types (`ext_types`), and the overlay of two registries is the
overlay of their dictionaries (`overlay_types`), so what holds of dictionaries holds of registries:
the second registry wins (`get?_overlay`) and the first gives the places (`keys_overlay`), an
overlay that says nothing new changes nothing (`overlay_eq_left`), and neither does a registry under
an overlay of itself (`overlay_overlay_self`). Collecting types is writing them over the empty
registry, whence collecting one list behind another is an overlay as well (`overlay_collect`).
-/

namespace SmartHome

namespace Registry

theorem ext_types {r s : Registry} (h : r.types = s.types) : r = s := by
  cases r
  cases s
  cases h
  rfl

theorem id_of_get? {r : Registry} {id : String} {t : DeviceType} (h : r.get? id = some t) :
    t.id = id :=
  r.keyed _ (Dict.get?_eq_some_iff.1 h)

/-- The entries of a registry are its types, each under its own identifier. -/
theorem map_id_list (r : Registry) : r.list.map (fun t => (t.id, t)) = r.types.entries := by
  unfold list Dict.values
  rw [List.map_map]
  refine (List.map_congr_left fun e he => ?_).trans (List.map_id _)
  simp [r.keyed e he]

theorem keys_eq_map_id (r : Registry) : r.types.keys = r.list.map DeviceType.id := by
  rw [Dict.keys, ← map_id_list, List.map_map]
  rfl

theorem foldl_put_types : ∀ (ts : List DeviceType) (r : Registry),
    (ts.foldl put r).types = r.types.insertAll (ts.map fun t => (t.id, t))
  | [], _ => rfl
  | _ :: ts, _ => foldl_put_types ts _

theorem overlay_types (r s : Registry) : (r.overlay s).types = r.types.overlay s.types := by
  unfold overlay Dict.overlay
  rw [foldl_put_types, map_id_list]

theorem get?_overlay (r s : Registry) (id : String) :
    (r.overlay s).get? id = (s.get? id).or (r.get? id) := by
  unfold get?
  rw [overlay_types, Dict.get?_overlay]

theorem keys_overlay (r s : Registry) : (r.overlay s).types.keys
    = r.types.keys ++ s.types.keys.filter (· ∉ r.types.keys) := by
  rw [overlay_types, Dict.keys_overlay]

theorem overlay_assoc (r s t : Registry) : (r.overlay s).overlay t = r.overlay (s.overlay t) :=
  ext_types (by simp only [overlay_types, Dict.overlay_assoc])

theorem empty_overlay (r : Registry) : empty.overlay r = r :=
  ext_types ((overlay_types empty r).trans (Dict.empty_overlay r.types))

theorem overlay_eq_left {r s : Registry} (h : ∀ id ∈ s.types.keys, r.get? id = s.get? id) :
    r.overlay s = r :=
  ext_types (by rw [overlay_types, Dict.overlay_eq_left h])

theorem overlay_self (r : Registry) : r.overlay r = r :=
  overlay_eq_left fun _ _ => rfl

theorem overlay_overlay_self (r s : Registry) : r.overlay (r.overlay s) = r.overlay s :=
  ext_types (by rw [overlay_types, overlay_types, Dict.overlay_overlay_self])

theorem isEmpty_iff {r : Registry} : r.isEmpty = true ↔ r.types.keys = [] := by
  simp [isEmpty, Dict.isEmpty, Dict.keys]

theorem isEmpty_overlay (r s : Registry) : (r.overlay s).isEmpty = (r.isEmpty && s.isEmpty) := by
  rw [Bool.eq_iff_iff, Bool.and_eq_true]
  simp only [isEmpty_iff, keys_overlay, List.append_eq_nil_iff]
  refine and_congr_right fun hr => ?_
  simp [hr, List.eq_nil_iff_forall_not_mem]

section Collect

variable {t : DeviceType} {ts : List DeviceType}

theorem collect_types (ts : List DeviceType) :
    (collect ts).types = Dict.ofList (ts.map fun t => (t.id, t)) :=
  foldl_put_types ts empty

theorem collect_list (r : Registry) : collect r.list = r := by
  refine ext_types ?_
  rw [collect_types, map_id_list, Dict.ofList_of_nodup r.types.nodup]

theorem overlay_collect (ts us : List DeviceType) :
    (collect ts).overlay (collect us) = collect (ts ++ us) := by
  refine ext_types ?_
  rw [overlay_types, collect_types us, Dict.overlay_ofList, ← foldl_put_types, collect, collect,
    List.foldl_append]

theorem collect_concat (ts : List DeviceType) (t : DeviceType) :
    (collect ts).put t = collect (ts ++ [t]) := by
  rw [collect, collect, List.foldl_append, List.foldl_cons, List.foldl_nil]

theorem keys_collect (ts : List DeviceType) :
    (collect ts).types.keys = (ts.map DeviceType.id).eraseDups := by
  rw [collect_types, Dict.keys_ofList, List.map_map]
  rfl

theorem get?_collect_iff {id : String} :
    (collect ts).get? id = some t ↔ LastWith (·.id = id) ts t ∧ t.id = id := by
  unfold get?
  rw [collect_types, Dict.get?_ofList_eq_some_iff, LastWith.map_iff]
  constructor
  · rintro ⟨u, hu, heq⟩
    obtain ⟨rfl, rfl⟩ := Prod.mk.inj heq
    exact ⟨hu, rfl⟩
  · rintro ⟨ht, rfl⟩
    exact ⟨t, ht, rfl⟩

end Collect

/-- Overlays can be taken together in any way, and neither an empty registry nor one that says nothing
new makes a difference, be it on its own or in front of what it is overlaid with again. A type is
found in the second registry if that has the identifier, and else in the first; the identifiers of
the first come first, and those that only the second has follow in their order. The types of two
lists are collected together or each list for itself. -/
theorem overlay_laws :
    (∀ r s t : Registry, (r.overlay s).overlay t = r.overlay (s.overlay t))
      ∧ (∀ r : Registry, empty.overlay r = r ∧ r.overlay empty = r)
      ∧ (∀ r : Registry, r.overlay r = r)
      ∧ (∀ r s : Registry, r.overlay (r.overlay s) = r.overlay s)
      ∧ (∀ (r s : Registry) (id : String), (r.overlay s).get? id
        = if s.contains id = true then s.get? id else r.get? id)
      ∧ (∀ r s : Registry, (r.overlay s).list.map DeviceType.id = r.list.map DeviceType.id
        ++ (s.list.map DeviceType.id).filter (· ∉ r.list.map DeviceType.id))
      ∧ ∀ ts us : List DeviceType, collect (ts ++ us) = (collect ts).overlay (collect us) := by
  refine ⟨overlay_assoc, fun r => ⟨empty_overlay r, rfl⟩, overlay_self, overlay_overlay_self,
    fun r s id => ?_, fun r s => ?_, fun ts us => (overlay_collect ts us).symm⟩
  · rw [get?_overlay]
    unfold contains Dict.contains get?
    cases s.types.get? id <;> rfl
  · simp only [← keys_eq_map_id, keys_overlay]

end Registry

end SmartHome
