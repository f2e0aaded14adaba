import SmartHome.Proofs.Overlay
import SmartHome.Proofs.Rejection
import SmartHome.Proofs.SelfContained
import SmartHome.Proofs.TypeDirectory

/-!
# How registries come about

However a registry is made, it is what collecting the types that were written into it comes to, in
the order in which they were (`eq_collect_of_made`): no identifier occurs twice, each type stands
under its own, and of the types with one identifier the last is the one that is found. Reading a
directory or the types that a home declares writes a type for each document or entry, and no type is
written that does not have the name under which it is (`list_of_foldlM`); as the names that a home
declares differ, no identifier is there twice (`foldlM_addDeclared_ne`).
-/

namespace SmartHome

namespace Registry

open Decode (Source)

/-- The registry comes from operations that wrote these types into registries, in this order. A type
that was refused was not written. -/
inductive Made : Registry → List DeviceType → Prop
  | new : Made empty []
  | added {r ts t} (h : Made r ts) (ha : (r.add t).2 = .ok ()) : Made (r.add t).1 (ts ++ [t])
  | refused {r ts t e} (h : Made r ts) (ha : (r.add t).2 = .error e) : Made (r.add t).1 ts
  | collected (ts) : Made (collect ts) ts
  | overlaid {r s ts us} (hr : Made r ts) (hs : Made s us) : Made (r.overlay s) (ts ++ us)
  | directory {w folder r} (h : ofDirectory w folder = .ok r) : Made r r.list
  | home {v source h r} (hv : Home.ofValue v source = .ok h) (hr : h.localTypes = some r) :
    Made r r.list

variable {w : Workspace} {r r' s : Registry} {t : DeviceType} {ts us : List DeviceType}

section Add

theorem add_of_mem (h : t.id ∈ r.types.keys) : r.add t = (r, .error (.duplicateType t.id)) :=
  if_pos (Dict.contains_iff.2 h)

theorem add_of_not_mem (h : t.id ∉ r.types.keys) : r.add t = (r.put t, .ok ()) :=
  if_neg fun hc => h (Dict.contains_iff.1 hc)

theorem insert_eq_add (r : Registry) (t : DeviceType) :
    r.insert t = (r.add t).2.map fun _ => (r.add t).1 := by
  unfold insert add
  split <;> rfl

theorem list_put (h : t.id ∉ r.types.keys) : (r.put t).list = r.list ++ [t] := by
  unfold list put Dict.values
  rw [Dict.entries_insert_of_not_mem h, List.map_append]
  rfl

end Add

section Loaders

/-- A walk that adds a new type at each step, from nothing, gives the types of its steps in their
order. -/
theorem list_of_foldlM {γ : Type} {f : Registry → γ → Except HomeError Registry}
    {P : γ → DeviceType → Prop}
    (hf : ∀ r x r', f r x = .ok r' → ∃ t, P x t ∧ t.id ∉ r.types.keys ∧ r' = r.put t)
    {l : List γ} (h : l.foldlM f empty = .ok r) : List.Forall₂ P l r.list := by
  refine foldlM_done (P := fun done s => List.Forall₂ P done s.list)
    (fun done r₁ x r₂ hdone hstep => ?_) .nil h
  obtain ⟨t, ht, hnew, rfl⟩ := hf _ _ _ hstep
  rw [list_put hnew]
  exact List.rel_append hdone (.cons ht .nil)

theorem list_of_ofDeclared {types : Dict String Source} (h : ofDeclared types = .ok r) :
    List.Forall₂ (fun e t => Decode.deviceType e.2 = .ok t ∧ t.id = e.1) types.entries r.list := by
  have hstep : ∀ r (e : String × Source) r', addDeclared r e = .ok r' →
      ∃ t, (Decode.deviceType e.2 = .ok t ∧ t.id = e.1) ∧ t.id ∉ r.types.keys ∧ r' = r.put t := by
    intro r e r' he
    obtain ⟨t, ht, hid, hnew, hr⟩ := addDeclared_eq_ok_iff.1 he
    exact ⟨t, ⟨ht, hid⟩, hnew, hr⟩
  exact list_of_foldlM hstep h

theorem exists_of_addDocument {f : OsText × Path} (h : addDocument w r f = .ok r') :
    ∃ t, (readType w f.2 = .ok t ∧ t.id = Path.stem f.1) ∧ t.id ∉ r.types.keys
      ∧ r' = r.put t := by
  obtain ⟨v, hload, hadd⟩ := addDocument_eq_ok_iff.1 h
  obtain ⟨t, ht, hid, hnew, hr⟩ := addDeclared_eq_ok_iff.1 hadd
  exact ⟨t, ⟨readType_eq_ok_iff.2 ⟨v, hload, ht⟩, hid⟩, hnew, hr⟩

/-- A walk that adds documents from nothing gives their types in their order. -/
theorem list_of_addDocument {γ : Type} (file : γ → OsText × Path) {l : List γ}
    (h : l.foldlM (fun r x => addDocument w r (file x)) empty = .ok r) :
    List.Forall₂ (fun x t => readType w (file x).2 = .ok t ∧ t.id = Path.stem (file x).1) l
      r.list := by
  have hstep : ∀ r x r', addDocument w r (file x) = .ok r' →
      ∃ t, (readType w (file x).2 = .ok t ∧ t.id = Path.stem (file x).1) ∧ t.id ∉ r.types.keys
        ∧ r' = r.put t := fun _ _ _ => exists_of_addDocument
  exact list_of_foldlM hstep h

theorem list_of_ofDirectory {folder : Path} (h : ofDirectory w folder = .ok r) :
    ∃ files, Document.filesIn w.files folder = .ok files
      ∧ List.Forall₂ (fun f t => readType w f.2 = .ok t ∧ t.id = Path.stem f.1) files r.list := by
  obtain ⟨files, hfiles, hfold⟩ := bind_eq_ok_iff.1 h
  exact ⟨files, mapError_eq_ok_iff.1 hfiles, list_of_addDocument (fun f => f) hfold⟩

end Loaders

section Distinct

variable {id : String}

theorem addDeclared_ne {e : String × Source} (he : e.1 ∉ r.types.keys) :
    addDeclared r e ≠ .error (.duplicateType id) := by
  intro h
  rcases bind_eq_error_iff.1 h with h | ⟨t, -, h⟩
  · obtain ⟨fault, -, hf⟩ := mapError_eq_error_iff.1 h
    cases hf
  · split_ifs at h with hid
    · rw [insert_eq_ok_iff.2 ⟨hid ▸ he, rfl⟩] at h
      cases h
    · cases h

theorem foldlM_addDeclared_ne : ∀ {es : List (String × Source)} {r : Registry},
    (es.map Prod.fst).Nodup → (∀ e ∈ es, e.1 ∉ r.types.keys) →
      es.foldlM addDeclared r ≠ .error (.duplicateType id)
  | [], _, _, _ => fun h => by cases h
  | e :: es, r, hn, hr => by
    rw [List.map_cons, List.nodup_cons] at hn
    rw [List.foldlM_cons]
    obtain ⟨he, hes⟩ := List.forall_mem_cons.1 hr
    rcases hstep : addDeclared r e with fault | r₁
    · intro h
      exact addDeclared_ne he (hstep.trans h)
    · refine foldlM_addDeclared_ne hn.2 fun f hf hm => ?_
      rw [keys_addDeclared hstep, List.mem_append, List.mem_singleton] at hm
      rcases hm with hm | hm
      · exact hes f hf hm
      · exact hn.1 (List.mem_map.2 ⟨f, hf, hm⟩)

theorem ofDeclared_ne (types : Dict String Source) :
    ofDeclared types ≠ .error (.duplicateType id) :=
  foldlM_addDeclared_ne types.nodup fun _ _ => List.not_mem_nil

end Distinct

section Made

theorem eq_collect_of_made (h : Made r ts) : r = collect ts := by
  induction h with
  | new => rfl
  | @added r ts t _ ha ih =>
    by_cases ht : t.id ∈ r.types.keys
    · rw [add_of_mem ht] at ha
      cases ha
    · rw [add_of_not_mem ht, ih, collect_concat]
  | @refused r ts t e _ ha ih =>
    by_cases ht : t.id ∈ r.types.keys
    · rw [add_of_mem ht, ← ih]
    · rw [add_of_not_mem ht] at ha
      cases ha
  | collected ts => rfl
  | overlaid _ _ ihr ihs => rw [ihr, ihs, overlay_collect]
  | @directory w folder r _ => exact (collect_list r).symm
  | @home v source h r _ _ => exact (collect_list r).symm

/-- The identifiers of the types are what the types stand under and are found by. -/
structure Identified (r : Registry) : Prop where
  nodup : (r.list.map DeviceType.id).Nodup
  keyed : ∀ e ∈ r.types.entries, e.2.id = e.1
  get?_iff : ∀ id t, r.get? id = some t ↔ t ∈ r.list ∧ t.id = id

theorem identified_collect (ts : List DeviceType) : (collect ts).Identified where
  nodup := by
    rw [← keys_eq_map_id]
    exact (collect ts).types.nodup
  keyed := by
    intro e he
    rw [collect_types] at he
    obtain ⟨t, -, rfl⟩ := List.mem_map.1 (Dict.mem_ofList he)
    rfl
  get?_iff id t := by
    unfold get?
    rw [Dict.get?_eq_some_iff, ← map_id_list, List.mem_map]
    constructor
    · rintro ⟨u, hu, heq⟩
      obtain ⟨rfl, rfl⟩ := Prod.mk.inj heq
      exact ⟨hu, rfl⟩
    · rintro ⟨ht, rfl⟩
      exact ⟨t, ht, rfl⟩

theorem identified (r : Registry) : r.Identified :=
  collect_list r ▸ identified_collect r.list

end Made

end Registry

namespace Home

variable {id : String}

theorem ofValue_ne (v : Yaml.Value) (source : String) :
    ofValue v source ≠ .error (.duplicateType id) := by
  intro h
  rcases bind_eq_error_iff.1 h with h | ⟨draft, -, h⟩
  · obtain ⟨fault, -, hf⟩ := mapError_eq_error_iff.1 h
    cases hf
  · rcases bind_eq_error_iff.1 h with h | ⟨types, -, h⟩
    · rcases hl : draft.localTypes with _ | types <;> rw [hl] at h
      · cases h
      · exact Registry.ofDeclared_ne types (map_eq_error_iff.1 h)
    · cases h

theorem ofDocument_ne (e : DocumentError) : HomeError.ofDocument e ≠ .duplicateType id := by
  intro h
  cases e <;> cases h

theorem load_ne (w : Workspace) (path : Path) : load w path ≠ .error (.duplicateType id) := by
  intro h
  rcases bind_eq_error_iff.1 h with h | ⟨v, -, h⟩
  · obtain ⟨e, -, he⟩ := mapError_eq_error_iff.1 h
    exact ofDocument_ne e he
  · exact ofValue_ne v path.text h

theorem ofText_ne (w : Workspace) (text source : String) :
    ofText w text source ≠ .error (.duplicateType id) := by
  intro h
  rcases bind_eq_error_iff.1 h with h | ⟨v, -, h⟩
  · obtain ⟨e, -, he⟩ := mapError_eq_error_iff.1 h
    exact ofDocument_ne e he
  · exact ofValue_ne v source h

end Home

namespace Registry

/-- A registry that comes from any operations has its types under their own identifiers, no two with
one identifier; the identifiers stand in the order in which they were first written, and of the
types with one identifier the last that was written is found. A type whose identifier is there is
not added, and the registry stays as it was; an overlay takes the names of both registries over. A
directory gives the types of its documents and a home those that it declares, each with the name
that it has there, and reading a home never fails because of a type that is there already. -/
theorem identified_of_made :
    (∀ r ts, Made r ts → r.Identified
        ∧ r.list.map DeviceType.id = (ts.map DeviceType.id).eraseDups
        ∧ ∀ id t, r.get? id = some t ↔ LastWith (·.id = id) ts t ∧ t.id = id)
      ∧ (∀ (r : Registry) (t : DeviceType),
        t.id ∈ r.list.map DeviceType.id ∧ r.add t = (r, .error (.duplicateType t.id))
          ∨ t.id ∉ r.list.map DeviceType.id ∧ (r.add t).2 = .ok ()
            ∧ (r.add t).1.list = r.list ++ [t])
      ∧ (∀ (r : Registry) (t : DeviceType), r.insert t = (r.add t).2.map fun _ => (r.add t).1)
      ∧ (∀ r s : Registry, (r.overlay s).types = r.types.overlay s.types)
      ∧ (∀ w folder r, ofDirectory w folder = .ok r → ∃ files,
        Document.filesIn w.files folder = .ok files ∧ List.Forall₂
          (fun f t => readType w f.2 = .ok t ∧ t.id = Path.stem f.1) files r.list)
      ∧ (∀ types r, ofDeclared types = .ok r → List.Forall₂
          (fun e t => Decode.deviceType e.2 = .ok t ∧ t.id = e.1) types.entries r.list)
      ∧ (∀ types id, ofDeclared types ≠ .error (.duplicateType id))
      ∧ (∀ v source id, Home.ofValue v source ≠ .error (.duplicateType id))
      ∧ (∀ w path id, Home.load w path ≠ .error (.duplicateType id))
      ∧ ∀ w text source id, Home.ofText w text source ≠ .error (.duplicateType id) := by
  refine ⟨fun r ts h => ?_, fun r t => ?_, insert_eq_add, overlay_types,
    fun w folder r => list_of_ofDirectory, fun types r => list_of_ofDeclared,
    fun types id => ofDeclared_ne types, fun v source id => Home.ofValue_ne v source,
    fun w path id => Home.load_ne w path, fun w text source id => Home.ofText_ne w text source⟩
  · rw [eq_collect_of_made h, ← keys_eq_map_id, keys_collect]
    exact ⟨identified_collect ts, rfl, fun id t => get?_collect_iff⟩
  · rw [← keys_eq_map_id]
    by_cases ht : t.id ∈ r.types.keys
    · exact .inl ⟨ht, add_of_mem ht⟩
    · rw [add_of_not_mem ht]
      exact .inr ⟨ht, rfl, list_put ht⟩

/-- A camera is not added to a registry with another camera, but takes its place in an overlay. -/
theorem identified_of_made_cameras :
    ∃ r, Made r [blankCameraType, lampType, cameraType] ∧ r.Identified
      ∧ r.list.map DeviceType.id = ["camera", "lamp"] ∧ r.get? "camera" = some cameraType := by
  have hadd : ((collect [blankCameraType, lampType]).add cameraType).2
      = .error (.duplicateType "camera") := rfl
  have hmade := Made.overlaid (.refused (.collected [blankCameraType, lampType]) hadd)
    (.collected [cameraType])
  obtain ⟨hidentified, hids, hget⟩ := identified_of_made.1 _ _ hmade
  refine ⟨_, hmade, hidentified, hids.trans (by decide), (hget _ _).2 ⟨?_, rfl⟩⟩
  exact ⟨[blankCameraType, lampType], [], rfl, fun t ht => absurd ht List.not_mem_nil⟩

end Registry

end SmartHome
