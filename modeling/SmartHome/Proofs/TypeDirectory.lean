import SmartHome.Proofs.Fields
import SmartHome.Proofs.Relocation

/-!
# The device types of a directory

The registry of a directory has the type of each of its documents under the document's name without
extension. A type is added from a document as it is added where it is declared under that name
(`addDocument_eq_ok_iff`), so the registry of a directory is the one that its documents, loaded and
put under their names, declare (`ofDirectory_eq_ok_iff`). There is none if two names are the same
(`nodup_of_foldlM_addDeclared`).

An included directory stands for what is loaded from it, by whatever path
(`expands_directory_iff`), and as a field of a home it declares the same types in the same order
(`declaredTypes_mappingOf`).
-/

namespace SmartHome

open Yaml (Value)

namespace Document

variable {w : Workspace} {folder s : Path} {D : Place} {a : String} {names : List OsText}
  {x : Value}

theorem expands_directory_iff {access : Access} (hl : Lists w folder names)
    (hfolder : w.files.lookup folder = .found D (.directory access))
    (htarget : w.files.lookup (target here s a) = .found D (.directory access))
    (hfits : FitsIn w here folder) (hfits' : FitsIn w here (target here s a)) :
    Expands w here s (.tagged "include_dir_named" (.string a)) x ↔ ∃ u : OsText → Value,
      (∀ n ∈ names, load w here (folder.join ⟨n⟩) = .ok (u n)) ∧ x = mappingOf names u := by
  have hb := FileTree.isWorking_here w.files
  have hl' := lists_of_lookup hl hfolder htarget
  have hload : ∀ n ∈ names, ∀ v, load w here (folder.join ⟨n⟩) = .ok v
      ↔ Yields w here (documentIn here (target here s a) n) v := by
    intro n hn v
    have hn' := hfits.documents names hl n hn
    have hn'' := hfits'.documents names hl' n hn
    rw [load_eq_ok_iff hb hn'.completeAt]
    have hagree := agree_documentIn hb hb hfolder htarget n
    have hagree' := agree_documentIn hb hb htarget hfolder n
    exact ⟨fun h => h.elsewhere hb hb hagree hn'', fun h => h.elsewhere hb hb hagree' hn'⟩
  constructor
  · intro h
    cases h with
    | scalar hv => exact hv.elim
    | other ht => cases ht
    | document ht => cases ht
    | environment ht => cases ht
    | directory _ hl'' hr hv =>
      cases hl'.unique hl''
      exact ⟨_, fun n hn => (hload n hn _).2 ⟨_, hr n hn, hv n hn⟩, rfl⟩
  · rintro ⟨u, hu, rfl⟩
    have hyields : ∀ n ∈ names, ∃ v, readValue w (documentIn here (target here s a) n) = .ok v
        ∧ Expands w here (documentIn here (target here s a) n) v (u n) := fun n hn =>
      (hload n hn _).1 (hu n hn)
    choose! v hv using hyields
    exact .directory rfl hl' (fun n hn => (hv n hn).1) fun n hn => (hv n hn).2

end Document

namespace Registry

open Decode (Source)

variable {w : Workspace} {r r' : Registry} {t : DeviceType} {names : List OsText} {folder : Path}

section Types

theorem insert_eq_ok_iff :
    r.insert t = .ok r' ↔ t.id ∉ r.types.keys ∧ r' = r.put t := by
  rw [← Dict.contains_iff, insert, contains]
  by_cases h : r.types.contains t.id = true <;> simp [h, eq_comm]

theorem decodeType_eq_ok_iff {source : String} {s : Source} :
    decodeType source s = .ok t ↔ Decode.deviceType s = .ok t :=
  mapError_eq_ok_iff

theorem addDeclared_eq_ok_iff {name : String} {s : Source} :
    addDeclared r (name, s) = .ok r' ↔ ∃ t, Decode.deviceType s = .ok t ∧ t.id = name
      ∧ t.id ∉ r.types.keys ∧ r' = r.put t := by
  rw [addDeclared, bind_eq_ok_iff]
  refine exists_congr fun t => ?_
  rw [decodeType_eq_ok_iff, ← insert_eq_ok_iff]
  by_cases h : t.id = name <;> simp [h, throw, throwThe, MonadExceptOf.throw]

/-- The type of a document that has been loaded. -/
def typeOf (file : Path) : Except DocumentError Value → Except HomeError DeviceType
  | .ok v => decodeType file.text (.value v)
  | .error (.malformed _) => .error (.undecodableType file.text ⟨[], .malformed⟩)
  | .error e => .error (.ofDocument e)

theorem readType_eq (w : Workspace) (file : Path) :
    readType w file = typeOf file (Document.load w Document.here file) := by
  delta readType
  generalize Document.load w Document.here file = x
  rfl

theorem readType_eq_ok_iff {file : Path} : readType w file = .ok t
    ↔ ∃ v, Document.load w Document.here file = .ok v ∧ Decode.deviceType (.value v) = .ok t := by
  rw [readType_eq]
  rcases Document.load w Document.here file with e | v
  · cases e <;> simp only [typeOf, reduceCtorEq, false_and, exists_false]
  · simp only [typeOf, Except.ok.injEq, exists_eq_left', decodeType_eq_ok_iff]

/-- The type of a document is added as one declared under the document's name. -/
theorem addDocument_eq_ok_iff {name : OsText} {file : Path} :
    addDocument w r (name, file) = .ok r' ↔ ∃ v, Document.load w Document.here file = .ok v
      ∧ addDeclared r (Path.stem name, .value v) = .ok r' := by
  rw [addDocument, bind_eq_ok_iff]
  simp only [addDeclared_eq_ok_iff, readType_eq_ok_iff]
  constructor
  · rintro ⟨t, ⟨v, hload, ht⟩, hinsert⟩
    by_cases hname : t.id = Path.stem name
    · rw [if_pos hname] at hinsert
      exact ⟨v, hload, t, ht, hname, insert_eq_ok_iff.1 hinsert⟩
    · rw [if_neg hname] at hinsert
      cases hinsert
  · rintro ⟨v, hload, t, ht, hname, hnew⟩
    refine ⟨t, ⟨v, hload, ht⟩, ?_⟩
    rw [if_pos hname]
    exact insert_eq_ok_iff.2 hnew

end Types

section Runs

theorem keys_addDeclared {e : String × Source} (h : addDeclared r e = .ok r') :
    r'.types.keys = r.types.keys ++ [e.1] := by
  obtain ⟨t, -, hname, hnew, rfl⟩ := addDeclared_eq_ok_iff.1 h
  rw [put, Dict.keys_insert, if_neg hnew, hname]

theorem keys_foldlM_addDeclared {es : List (String × Source)} {r r' : Registry}
    (h : es.foldlM addDeclared r = .ok r') :
    r'.types.keys = r.types.keys ++ es.map Prod.fst := by
  refine foldlM_done (P := fun done s => s.types.keys = r.types.keys ++ done.map Prod.fst)
    (fun done r₁ e r₂ hdone hstep => ?_) (List.append_nil _).symm h
  rw [keys_addDeclared hstep, hdone, List.map_append, List.append_assoc, List.map_singleton]

theorem nodup_of_foldlM_addDeclared {es : List (String × Source)} {R : Registry}
    (h : es.foldlM addDeclared empty = .ok R) : (es.map Prod.fst).Nodup := by
  have hkeys := keys_foldlM_addDeclared h
  have hnone : empty.types.keys = [] := rfl
  rw [hnone, List.nil_append] at hkeys
  rw [← hkeys]
  exact R.types.nodup

theorem loads_of_foldlM_addDocument
    (h : names.foldlM (fun r n => addDocument w r (n, folder.join ⟨n⟩)) r = .ok r') :
    ∀ n ∈ names, ∃ v, Document.load w Document.here (folder.join ⟨n⟩) = .ok v := by
  refine foldlM_done (P := fun done _ => ∀ n ∈ done, ∃ v,
    Document.load w Document.here (folder.join ⟨n⟩) = .ok v) (fun done r₁ m r₂ hdone hstep => ?_)
    (fun n hn => absurd hn List.not_mem_nil) h
  intro n hn
  rcases List.mem_append.1 hn with hn | hn
  · exact hdone n hn
  · rw [List.mem_singleton.1 hn]
    obtain ⟨v, hload, -⟩ := addDocument_eq_ok_iff.1 hstep
    exact ⟨v, hload⟩

theorem ofDirectory_of_lists (hl : Document.Lists w folder names) : ofDirectory w folder
    = (Document.found w folder names).foldlM (fun r n => addDocument w r (n, folder.join ⟨n⟩))
      empty := by
  rw [ofDirectory, Document.filesIn_of_lists hl, ← List.foldlM_map]
  rfl

theorem ofDirectory_of_unlisted {e : DocumentError} (h : Document.Unlisted w folder e) :
    ofDirectory w folder = .error (.ofDocument e) := by
  rw [ofDirectory, Document.filesIn_of_unlisted h]
  rfl

/-- The registry of a directory is that of its documents, each declared under its name without
extension, if the listing leaves out none. -/
theorem ofDirectory_eq_ok_iff {R : Registry} (hl : Document.Lists w folder names)
    (hunabridged : Document.Unabridged w folder) :
    ofDirectory w folder = .ok R ↔ ∃ u : OsText → Value,
      (∀ n ∈ names, Document.load w Document.here (folder.join ⟨n⟩) = .ok (u n))
        ∧ (names.map fun n => (Path.stem n, Source.value (u n))).foldlM addDeclared empty
          = .ok R := by
  have hfold := ofDirectory_of_lists hl
  rw [Document.found_eq hunabridged hl] at hfold
  have hsame : ∀ u : OsText → Value,
      (∀ n ∈ names, Document.load w Document.here (folder.join ⟨n⟩) = .ok (u n)) →
        (ofDirectory w folder = .ok R ↔ (names.map fun n =>
          (Path.stem n, Source.value (u n))).foldlM addDeclared empty = .ok R) := by
    intro u hu
    rw [hfold, List.foldlM_map]
    refine foldlM_eq_ok_congr fun r n hn r' => ?_
    simp only [addDocument_eq_ok_iff, hu n hn, Except.ok.injEq, exists_eq_left']
  constructor
  · intro h
    have hloads := loads_of_foldlM_addDocument (hfold ▸ h)
    choose! u hu using hloads
    exact ⟨u, hu, (hsame u hu).1 h⟩
  · rintro ⟨u, hu, h⟩
    exact (hsame u hu).2 h

end Runs

end Registry

namespace Decode

theorem foldlM_dict_texts : ∀ (es : List (String × Value)) (d : Dict String Source),
    ((es.map fun e => (Value.string e.1, e.2)).map fun p =>
        (Source.value p.1, Source.value p.2)).foldlM (fun d p => do
      let k ← Source.text p.1
      let v ← (pure p.2 : Except Fault Source)
      pure (d.insert k v)) d = .ok (d.insertAll (es.map fun e => (e.1, Source.value e.2)))
  | [], _ => rfl
  | e :: es, d => by
    rw [List.map_cons, List.map_cons, List.foldlM_cons]
    exact foldlM_dict_texts es (d.insert e.1 (.value e.2))

theorem declaredTypes_mappingOf {names : List OsText} (u : OsText → Value)
    (h : (names.map Path.stem).Nodup) : ∃ d : Dict String Source,
      (Source.value (.mapping [(.string "device_types", Document.mappingOf names u)])).optional
          declaredTypes = .ok (some d)
        ∧ d.entries = names.map fun n => (Path.stem n, Source.value (u n)) := by
  have hstems : ((names.map fun n => (Path.stem n, u n)).map Prod.fst).Nodup := by
    rwa [List.map_map]
  have hdeclared : (((names.map fun n => (Path.stem n, u n)).map fun e =>
      (e.1, Source.value e.2)).map Prod.fst).Nodup := by
    rwa [List.map_map]
  refine ⟨Dict.ofList ((names.map fun n => (Path.stem n, u n)).map fun e =>
    (e.1, Source.value e.2)), ?_, ?_⟩
  · have hdict := foldlM_dict_texts (names.map fun n => (Path.stem n, u n)) .empty
    rw [Document.mappingOf, Dict.ofList_of_nodup hstems]
    refine map_eq_ok_iff.2 ⟨_, fields_eq_ok_iff.2 ?_, rfl⟩
    exact .cons rfl List.mem_cons_self List.not_mem_nil hdict .nil
  · rw [Dict.ofList_of_nodup hdeclared]
    exact List.map_map

end Decode

end SmartHome
