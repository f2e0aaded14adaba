import SmartHome.Proofs.Expanded
import SmartHome.Proofs.TypeDirectory

/-!
# Device types that a home includes

A home can declare its device types by including a directory of them. It is then read with the
registry of the directory, and only with it (`declaring_agrees`): what it is read as is what its
expanded document is decoded as (`IsRead.eq_ok_iff`), and the types in it can be replaced without
changing anything else (`ofValue_declaring`, `localTypes_of_ofValue`). The paths to the directory
differ, and the home's may be too long where the directory's is not (`declaring_detour`).
-/

namespace SmartHome

open Yaml (Value)

namespace Home

open Document (here readValue target documentIn Expands Complete IsShort Fits FitsIn)

theorem ofValue_eq_ok_iff {v : Value} {source : String} {h : Home} :
    ofValue v source = .ok h ↔ ∃ draft types, Decode.homeDraft (.value v) = .ok draft
      ∧ draft.localTypes.mapM Registry.ofDeclared = .ok types
      ∧ h = ⟨draft.areas, draft.services, types⟩ := by
  constructor
  · intro h
    obtain ⟨draft, hdraft, hrest⟩ := bind_eq_ok_iff.1 h
    obtain ⟨types, htypes, hpure⟩ := bind_eq_ok_iff.1 hrest
    cases hpure
    exact ⟨draft, types, mapError_eq_ok_iff.1 hdraft, htypes, rfl⟩
  · rintro ⟨draft, types, hdraft, htypes, rfl⟩
    refine bind_eq_ok_iff.2 ⟨draft, mapError_eq_ok_iff.2 hdraft, ?_⟩
    exact bind_eq_ok_iff.2 ⟨types, htypes, rfl⟩

theorem ofValue_of_source {v : Value} {source source' : String} {h : Home}
    (hv : ofValue v source = .ok h) : ofValue v source' = .ok h :=
  ofValue_eq_ok_iff.2 (ofValue_eq_ok_iff.1 hv)

/-- A home is loaded from a file, or from a text that comes from a source: the path and the value of
the document, what messages call it, and what becomes of it. -/
inductive IsRead (w : Workspace) : Path → Value → Except HomeError Home → Prop
  | file {path v} : Document.readValue w (here.join path) = .ok v →
      IsRead w (here.join path) v (Home.load w path)
  | text {text v} {source : String} : Value.ofText? text = some v →
      IsRead w ⟨source⟩ v (Home.ofText w text source)

theorem IsRead.eq_ok_iff {w : Workspace} {s : Path} {v : Value} {result : Except HomeError Home}
    {h : Home} (hread : IsRead w s v result) (hcomplete : Complete w here s v) :
    result = .ok h ↔ ∃ u source, Expands w here s v u ∧ ofValue u source = .ok h := by
  have hb := FileTree.isWorking_here w.files
  cases hread with
  | @file path _ hv =>
    have hcomplete' : Document.CompleteAt w here (here.join path) := by
      intro v' hv'
      cases hv.symm.trans hv'
      exact hcomplete
    have hload := fun {u} => Document.load_eq_ok_iff (u := u) hb hcomplete'
    constructor
    · intro hresult
      obtain ⟨u, hu, hvalue⟩ := bind_eq_ok_iff.1 hresult
      obtain ⟨v', hv', hexpands⟩ := hload.1 (mapError_eq_ok_iff.1 hu)
      cases hv.symm.trans hv'
      exact ⟨u, _, hexpands, hvalue⟩
    · rintro ⟨u, source, hexpands, hvalue⟩
      exact bind_eq_ok_iff.2 ⟨u, mapError_eq_ok_iff.2 (hload.2 ⟨v, hv, hexpands⟩),
        ofValue_of_source hvalue⟩
  | @text text _ source' hv =>
    have hload : ∀ u, Document.loadText w here text ⟨source'⟩ = .ok u
        ↔ Expands w here ⟨source'⟩ v u := by
      intro u
      rw [Document.loadText, Document.expandText, hv]
      exact Document.expand_load_eq_ok_iff hb hcomplete
    constructor
    · intro hresult
      obtain ⟨u, hu, hvalue⟩ := bind_eq_ok_iff.1 hresult
      exact ⟨u, _, (hload u).1 (mapError_eq_ok_iff.1 hu), hvalue⟩
    · rintro ⟨u, source, hexpands, hvalue⟩
      exact bind_eq_ok_iff.2 ⟨u, mapError_eq_ok_iff.2 ((hload u).2 hexpands),
        ofValue_of_source hvalue⟩

/-- The document of a home with a field for the device types that it declares. -/
def declaring (pre post : List (Value × Value)) (types : Value) : Value :=
  .mapping (pre ++ (.string "device_type_registry", types) :: post)

def typesIn (text : String) : Value :=
  .mapping [(.string "device_types", .tagged "include_dir_named" (.string text))]

section Agree

variable {w : Workspace} {folder s : Path} {text : String} {pre post : List (Value × Value)}
  {place : Place} {result : Except HomeError Home}

theorem holds_typesIn :
    Document.Holds (declaring pre post (typesIn text)) .directory (.string text) := by
  have hfield : (.string "device_type_registry", typesIn text)
      ∈ pre ++ (.string "device_type_registry", typesIn text) :: post := by simp
  have hinside : Document.Holds (typesIn text) .directory (.string text) :=
    .pair List.mem_cons_self (.here rfl)
  exact .pair hfield hinside

theorem expands_typesIn {x : Value} : Expands w here s (typesIn text) x
    ↔ ∃ y, Expands w here s (.tagged "include_dir_named" (.string text)) y
      ∧ x = .mapping [(.string "device_types", y)] := by
  constructor
  · rintro (hv | _ | _ | _ | ⟨hy, hnone⟩)
    · exact hv.elim
    · obtain hv | _ | _ | _ := hnone
      · exact hv.elim
      · exact ⟨_, hy, rfl⟩
  · rintro ⟨y, hy, rfl⟩
    exact .pair hy .empty

/-- A home is decoded with the types that it declares for the documents of a directory, and
otherwise as if it declared others. -/
theorem ofValue_declaring {names : List OsText} {u : OsText → Value} {x : Value} {source : String}
    {h : Home} {R : Registry} (hstems : (names.map Path.stem).Nodup)
    (hold : ofValue (declaring pre post x) source = .ok h)
    (hR : (names.map fun n => (Path.stem n, Decode.Source.value (u n))).foldlM
      Registry.addDeclared .empty = .ok R) :
    ofValue (declaring pre post (.mapping [(.string "device_types", Document.mappingOf names u)]))
      source = .ok { h with localTypes := some R } := by
  obtain ⟨draft, types, hdraft, -, rfl⟩ := ofValue_eq_ok_iff.1 hold
  obtain ⟨d, hd, hentries⟩ := Decode.declaredTypes_mappingOf u hstems
  refine ofValue_eq_ok_iff.2 ⟨_, some R, (Decode.homeDraft_replace hdraft).2 _ _ hd, ?_, rfl⟩
  rw [← hentries] at hR
  exact map_eq_ok_iff.2 ⟨R, hR, rfl⟩

theorem localTypes_of_ofValue {names : List OsText} {u : OsText → Value} {source : String}
    {h : Home} (hstems : (names.map Path.stem).Nodup)
    (hv : ofValue (declaring pre post
      (.mapping [(.string "device_types", Document.mappingOf names u)])) source = .ok h) :
    ∃ R, h.localTypes = some R
      ∧ (names.map fun n => (Path.stem n, Decode.Source.value (u n))).foldlM Registry.addDeclared
        .empty = .ok R := by
  obtain ⟨draft, types, hdraft, htypes, rfl⟩ := ofValue_eq_ok_iff.1 hv
  obtain ⟨d, hd, hentries⟩ := Decode.declaredTypes_mappingOf u hstems
  have hsame : draft = { draft with localTypes := some d } :=
    Except.ok.inj (hdraft.symm.trans ((Decode.homeDraft_replace hdraft).2 _ _ hd))
  have hlocal : draft.localTypes = some d := congrArg Decode.HomeDraft.localTypes hsame
  rw [hlocal] at htypes
  obtain ⟨R, hR, rfl⟩ := map_eq_ok_iff.1 htypes
  rw [← hentries]
  exact ⟨R, rfl, hR⟩

/-- No two documents of the directory at a place have one stem. -/
def StemsDiffer (t : FileTree) (place : Place) : Prop :=
  ∀ m ∈ t.namesIn place, ∀ n ∈ t.namesIn place, ∀ k, Document.IsStem m k → Document.IsStem n k →
    m = n

theorem nodup_stems_iff {names : List OsText} {access : Access} (hl : Document.Lists w folder names)
    (hfolder : w.files.lookup folder = .found place (.directory access)) :
    (names.map Path.stem).Nodup ↔ StemsDiffer w.files place := by
  obtain ⟨place', access', hplace, -, hsorted, hmem⟩ := hl
  cases hfolder.symm.trans hplace
  have hdocument : ∀ {n k}, Document.IsStem n k → Document.IsDocument n := by
    rintro n k ⟨s, hs, hname, -⟩
    exact ⟨s, hs, hname⟩
  constructor
  · intro h m hm n hn k hmk hnk
    have hm' := hdocument hmk
    have hn' := hdocument hnk
    refine List.inj_on_of_nodup_map h ((hmem m).2 ⟨hm, hm'⟩) ((hmem n).2 ⟨hn, hn'⟩) ?_
    exact ((Document.isStem_iff hm').1 hmk).trans ((Document.isStem_iff hn').1 hnk).symm
  · intro h
    refine hsorted.nodup.map_on fun m hm n hn hstem => ?_
    obtain ⟨hm, hmdoc⟩ := (hmem m).1 hm
    obtain ⟨hn, hndoc⟩ := (hmem n).1 hn
    exact h m hm n hn _ ((Document.isStem_iff hmdoc).2 hstem) ((Document.isStem_iff hndoc).2 rfl)

/-- A home that includes what cannot be listed is not read. -/
theorem not_read_of_unlisted {e : DocumentError}
    (hread : IsRead w s (declaring pre post (typesIn text)) result)
    (hcomplete : Complete w here s (declaring pre post (typesIn text)))
    (hunlisted : Document.Unlisted w (target here s text) e) (h : Home) : result ≠ .ok h := by
  intro hresult
  obtain ⟨u, -, hu, -⟩ := (hread.eq_ok_iff hcomplete).1 hresult
  have hfaulty : Document.Faulty w here s .directory (.string text) e := .directory hunlisted
  exact hfaulty.not_stands (holds_typesIn.stands hu)

/-- A home that includes a directory of device types declares the registry of the directory,
whatever the two paths to it: if the registry can be read and the home is one without its types, the
home is read with this registry; and if the home is read, it is with the registry of the directory,
unless two documents there have one stem, when there is none. No listing on the way may leave a
document out, and no path may be too long. -/
theorem declaring_agrees (w : Workspace) (folder s : Path) (text : String)
    (pre post : List (Value × Value)) (place : Place) (access : Access)
    (result : Except HomeError Home)
    (hread : IsRead w s (declaring pre post (typesIn text)) result)
    (hfolder : w.files.lookup folder = .found place (.directory access))
    (htarget : w.files.lookup (target here s text) = .found place (.directory access))
    (hfits : FitsIn w here folder)
    (hfits' : Fits w here s (declaring pre post (typesIn text))) :
    (∀ R u₀ source h₀, Registry.ofDirectory w folder = .ok R →
        Expands w here s (declaring pre post (.mapping [])) u₀ → ofValue u₀ source = .ok h₀ →
          result = .ok { h₀ with localTypes := some R })
      ∧ (∀ h R, result = .ok h → h.localTypes = some R → StemsDiffer w.files place →
        Registry.ofDirectory w folder = .ok R)
      ∧ (¬ StemsDiffer w.files place → ∀ R, Registry.ofDirectory w folder ≠ .ok R) := by
  obtain ⟨names, hl⟩ | ⟨e, hu⟩ := Document.lists_or_unlisted w folder
  · have hexpands := fun {x} => Document.expands_directory_iff (x := x) hl hfolder htarget hfits
      (hfits'.fitsIn holds_typesIn)
    have hregistry := fun {R} => Registry.ofDirectory_eq_ok_iff (R := R) hl hfits.unabridged
    have hstems := nodup_stems_iff hl hfolder
    have hnodup : ∀ R, Registry.ofDirectory w folder = .ok R → StemsDiffer w.files place := by
      intro R hR
      obtain ⟨u, -, hfold⟩ := hregistry.1 hR
      have hdiffer := Registry.nodup_of_foldlM_addDeclared hfold
      rw [List.map_map] at hdiffer
      exact hstems.1 hdiffer
    refine ⟨fun R u₀ source h₀ hR hu₀ hh₀ => ?_, fun h R hresult hlocal hdiffer => ?_,
      fun hsame R hR => hsame (hnodup R hR)⟩
    · obtain ⟨u, hu, hfold⟩ := hregistry.1 hR
      -- the rest of the home is expanded as in the home without types
      obtain ⟨pre', x, post', rfl, -, hother⟩ := Document.expands_mapping_field hu₀
      have htypes := expands_typesIn.2 ⟨_, hexpands.2 ⟨u, hu, rfl⟩, rfl⟩
      refine (hread.eq_ok_iff hfits'.complete).2 ⟨_, source, hother _ _ htypes, ?_⟩
      exact ofValue_declaring (hstems.2 (hnodup R hR)) hh₀ hfold
    · obtain ⟨v, source, hv, hvalue⟩ := (hread.eq_ok_iff hfits'.complete).1 hresult
      obtain ⟨pre', x, post', rfl, htypes, -⟩ := Document.expands_mapping_field hv
      obtain ⟨y, hy, rfl⟩ := expands_typesIn.1 htypes
      obtain ⟨u, hu, rfl⟩ := hexpands.1 hy
      obtain ⟨R', hR', hfold⟩ := localTypes_of_ofValue (hstems.2 hdiffer) hvalue
      rw [hlocal] at hR'
      cases hR'
      exact hregistry.2 ⟨u, hu, hfold⟩
  · -- there is neither a registry nor a home
    have herror := Registry.ofDirectory_of_unlisted hu
    have hu' : Document.Unlisted w (target here s text) (.unreadable (target here s text)) := by
      cases hu with
      | absent hnone => exact absurd hfolder (hnone _ _)
      | closed hq hlist =>
        cases hfolder.symm.trans hq
        exact .closed htarget hlist
    refine ⟨fun R _ _ _ hR => ?_, fun h R hresult => ?_, fun _ R hR => ?_⟩
    · cases herror.symm.trans hR
    · exact (not_read_of_unlisted hread hfits'.complete hu' h hresult).elim
    · cases herror.symm.trans hR

theorem eq_of_holds_declaring {d : Document.Directive} {a : Value}
    (h : Document.Holds (declaring [] [] (typesIn text)) d a) :
    d = .directory ∧ a = .string text := by
  cases h with
  | pair hmem hh =>
    cases List.mem_singleton.1 hmem
    exact hh.eq_of_field rfl

/-- Where nothing else is declared, what is reached from the home is reached from the directory. -/
theorem fits_declaring (hshort : IsShort (target here s text))
    (hfits : FitsIn w here (target here s text)) :
    Fits w here s (declaring [] [] (typesIn text)) := by
  refine Document.fits_of_cites (fun d a r hh hc => ?_) fun text' hh => ?_
  · obtain ⟨rfl, rfl⟩ := eq_of_holds_declaring hh
    cases hc with
    | member hl hn => exact hfits.documents _ hl _ hn
  · obtain ⟨-, htext⟩ := eq_of_holds_declaring hh
    cases htext
    exact ⟨hshort, hfits.unabridged⟩

theorem complete_declaring {e : DocumentError}
    (hunlisted : Document.Unlisted w (target here s text) e) :
    Complete w here s (declaring [] [] (typesIn text)) := by
  refine Document.complete_of_cites (fun d a r hh hc => ?_) fun text' hh names hl => ?_
  · obtain ⟨rfl, rfl⟩ := eq_of_holds_declaring hh
    cases hc with
    | member hl => exact (hunlisted.not_lists hl).elim
  · obtain ⟨-, htext⟩ := eq_of_holds_declaring hh
    cases htext
    exact (hunlisted.not_lists hl).elim

end Agree

section Lamp

variable {q folder : Path}

def homeText : String :=
  "device_type_registry:\n  device_types: !include_dir_named all_device_types\n"

def lampText : String := "device_type: lamp\ndesc: A lamp\n"

/-- A home that includes its one device type. -/
def homeFiles : FileTree where
  workingDirectory := ["home"]
  entries := ⟨[(["home", "home.yaml"], .file (some homeText)),
    (["home", "all_device_types", "lamp.yaml"], .file (some lampText))], by decide⟩

abbrev homeSpace : Workspace := ⟨homeFiles, .empty⟩

abbrev lampHome : Value := declaring [] [] (typesIn "all_device_types")

def lampType : Value :=
  .mapping [(.string "device_type", .string "lamp"), (.string "desc", .string "A lamp")]

theorem expanded_described (id description : String) :
    Document.Expanded (.mapping [(.string "device_type", .string id),
      (.string "desc", .string description)]) := by
  have hscalar : ∀ text, Document.Expanded (.string text) := fun text =>
    Document.expanded_of_isScalar trivial
  exact Document.expanded_cons_pair.2 ⟨hscalar _,
    Document.expanded_cons_pair.2 ⟨hscalar _, Document.expanded_empty⟩⟩

theorem expanded_lampType : Document.Expanded lampType := expanded_described _ _

theorem ofText?_homeText : Value.ofText? homeText = some lampHome := by
  decide +kernel

theorem readValue_lampType (h : homeFiles.lookup q
      = .found ["home", "all_device_types", "lamp.yaml"] (.file (some lampText))) :
    readValue homeSpace q = .ok lampType := by
  have htext : Value.ofText? lampText = some lampType := by decide +kernel
  exact Document.readValue_eq_ok_iff.2 ⟨_, lampText, h, htext⟩

theorem lookup_homeFiles : homeFiles.lookup ⟨"all_device_types"⟩
    = .found ["home", "all_device_types"] (.directory .full) := by
  decide +kernel

theorem fitsIn_lamp (hfolder : homeFiles.lookup folder
      = .found ["home", "all_device_types"] (.directory .full))
    (hfile : homeFiles.isFile (folder.join ⟨"lamp.yaml"⟩) = true)
    (hlamp : homeFiles.lookup (documentIn here folder "lamp.yaml")
      = .found ["home", "all_device_types", "lamp.yaml"] (.file (some lampText))) :
    FitsIn homeSpace here folder := by
  have hshort : IsShort (documentIn here folder "lamp.yaml") :=
    (FileTree.follow_of_lookup hlamp).1
  have hl : Document.Lists homeSpace folder ["lamp.yaml"] :=
    Document.lists_of_sorted hfolder rfl (by decide +kernel)
  refine ⟨hl.unabridged_iff.2 fun n hn => ?_, fun names hl' n hn => ?_⟩
  · rw [List.mem_singleton.1 hn]
    exact hfile
  · cases hl.unique hl'
    rw [List.mem_singleton.1 hn]
    exact Document.fitsAt_of_readValue hshort (readValue_lampType hlamp)
      (Document.fits_of_not_holds expanded_lampType)

theorem ofDirectory_homeFiles : ∃ R,
    Registry.ofDirectory homeSpace ⟨"all_device_types"⟩ = .ok R ∧ R.types.keys = ["lamp"] := by
  have hkeys : (Registry.ofDirectory homeSpace ⟨"all_device_types"⟩).toOption.map
      (fun R => R.types.keys) = some ["lamp"] := by decide +kernel
  rcases hR : Registry.ofDirectory homeSpace ⟨"all_device_types"⟩ with e | R
  · rw [hR] at hkeys
    cases hkeys
  · rw [hR] at hkeys
    exact ⟨R, rfl, Option.some.inj hkeys⟩

theorem declaring_agrees_lamp : ∃ R,
    IsRead homeSpace ⟨"./home.yaml"⟩ lampHome (Home.load homeSpace ⟨"home.yaml"⟩)
      ∧ homeFiles.lookup ⟨"all_device_types"⟩
        = .found ["home", "all_device_types"] (.directory .full)
      ∧ homeFiles.lookup (target here ⟨"./home.yaml"⟩ "all_device_types")
        = .found ["home", "all_device_types"] (.directory .full)
      ∧ FitsIn homeSpace here ⟨"all_device_types"⟩
      ∧ Fits homeSpace here ⟨"./home.yaml"⟩ lampHome
      ∧ Registry.ofDirectory homeSpace ⟨"all_device_types"⟩ = .ok R
      ∧ R.types.keys = ["lamp"]
      ∧ Home.load homeSpace ⟨"home.yaml"⟩ = .ok ⟨.empty, [], some R⟩ := by
  have hpath : here.join ⟨"home.yaml"⟩ = ⟨"./home.yaml"⟩ := rfl
  have hread : IsRead homeSpace ⟨"./home.yaml"⟩ lampHome (Home.load homeSpace ⟨"home.yaml"⟩) := by
    rw [← hpath]
    exact .file (Document.readValue_eq_ok_iff.2 ⟨["home", "home.yaml"], homeText, by decide +kernel,
      ofText?_homeText⟩)
  have hfolder := lookup_homeFiles
  have htarget : homeFiles.lookup (target here ⟨"./home.yaml"⟩ "all_device_types")
      = .found ["home", "all_device_types"] (.directory .full) := by decide +kernel
  have hfits : FitsIn homeSpace here ⟨"all_device_types"⟩ :=
    fitsIn_lamp hfolder (by decide +kernel) (by decide +kernel)
  have hfits' : Fits homeSpace here ⟨"./home.yaml"⟩ lampHome :=
    fits_declaring (by decide +kernel)
      (fitsIn_lamp htarget (by decide +kernel) (by decide +kernel))
  obtain ⟨R, hR, hkeys⟩ := ofDirectory_homeFiles
  have hempty : Expands homeSpace here ⟨"./home.yaml"⟩
      (declaring [] [] (.mapping [])) (declaring [] [] (.mapping [])) := .pair .empty .empty
  obtain ⟨hsame, -⟩ := declaring_agrees homeSpace ⟨"all_device_types"⟩ ⟨"./home.yaml"⟩
    "all_device_types" [] [] ["home", "all_device_types"] .full _ hread hfolder htarget hfits hfits'
  exact ⟨R, hread, hfolder, htarget, hfits, hfits', hR, hkeys,
    hsame R _ "" ⟨.empty, [], some .empty⟩ hR hempty rfl⟩

/-- A path to the home that goes into the directory and out of it again many times. -/
def detour : Nat → Path
  | 0 => ⟨"home.yaml"⟩
  | n + 1 => Path.join ⟨"all_device_types/.."⟩ (detour n)

/-- What is known of a path that goes into the directory and out of it some times before it comes to
the home. -/
structure Detours (n : Nat) (p : Path) : Prop where
  relative : p.isAbsolute = false
  names : ∃ front, p.names = front ++ [(OsText.ofText "home.yaml").bytes]
    ∧ Document.spread front = 20 * n
  size : p.bytes.length ≤ 20 * n + 9
  agree : Document.Agree homeFiles ⟨"home.yaml"⟩ p

namespace Detours

variable {n : Nat} {p : Path}

theorem round (h : Detours n p) : Detours (n + 1) (Path.join ⟨"all_device_types/.."⟩ p) := by
  obtain ⟨hrelative, ⟨front, hnames, hspread⟩, hsize, hagree⟩ := h
  have htwenty : Document.spread (Path.names ⟨"all_device_types/.."⟩) = 20 := rfl
  have hworking : homeFiles.IsWorking ⟨"all_device_types/.."⟩ :=
    FileTree.isWorking_of_lookup (a := .full) (by decide +kernel)
  refine ⟨(Path.isAbsolute_join hrelative).trans rfl,
    ⟨Path.names ⟨"all_device_types/.."⟩ ++ front, ?_, ?_⟩, ?_,
    hagree.trans (Document.agree_join (w := homeSpace) hworking p)⟩
  · rw [Path.names_join hrelative, hnames, List.append_assoc]
  · rw [Document.spread_append, htwenty, hspread]
    omega
  · have hbytes : (Path.bytes ⟨"all_device_types/.."⟩).length = 19 := rfl
    have hjoin := Path.length_join_le ⟨"all_device_types/.."⟩ p
    rw [hbytes] at hjoin
    omega

/-- However long the path, that of the directory in the home is longer. -/
theorem size_target (h : Detours n p) :
    20 * n + 16 ≤ (target here (here.join p) "all_device_types").bytes.length := by
  -- the last name of the path makes room for that of the directory, which is longer
  obtain ⟨front, hnames, hspread⟩ := h.names
  have hne : (here.join p).names ≠ [] := by
    rw [(Document.names_here_join _).1, hnames]
    simp
  have hrelative : Path.isAbsolute ⟨"all_device_types"⟩ = false := rfl
  have htarget := Document.names_target hne hrelative
  rw [(Document.names_here_join _).1, hnames, List.dropLast_concat] at htarget
  have hlast : Document.spread (Path.names ⟨"all_device_types"⟩) = 17 := rfl
  have hle := Document.spread_names_le (target here (here.join p) "all_device_types")
  rw [htarget, Document.spread_append, hspread, hlast] at hle
  omega

end Detours

theorem detours_detour : ∀ n, Detours n (detour n)
  | 0 => ⟨rfl, ⟨[], rfl, rfl⟩, Nat.le_of_eq rfl, .refl _ _⟩
  | n + 1 => (detours_detour n).round

/-- The two ways differ where a path is too long: the registry of the directory is read, but a home
that includes it is not, though its document is there and names the directory, and the type in the
directory includes nothing. -/
theorem declaring_detour :
    IsRead homeSpace (here.join (detour 204)) lampHome (Home.load homeSpace (detour 204))
      ∧ homeFiles.lookup ⟨"all_device_types"⟩
        = .found ["home", "all_device_types"] (.directory .full)
      ∧ homeFiles.leads homeFiles.workingDirectory
          (target here (here.join (detour 204)) "all_device_types")
        = .found ["home", "all_device_types"] (.directory .full)
      ∧ readValue homeSpace (documentIn here ⟨"all_device_types"⟩ "lamp.yaml")
        = .ok lampType
      ∧ Document.Expanded lampType
      ∧ (∃ R, Registry.ofDirectory homeSpace ⟨"all_device_types"⟩ = .ok R
        ∧ R.types.keys = ["lamp"])
      ∧ ∀ h, Home.load homeSpace (detour 204) ≠ .ok h := by
  have hb := FileTree.isWorking_here homeFiles
  have hhome : homeFiles.lookup ⟨"home.yaml"⟩
      = .found ["home", "home.yaml"] (.file (some homeText)) := by decide +kernel
  have hr := (Document.readValue_eq_ok_iff (w := homeSpace)).2 ⟨_, _, hhome, ofText?_homeText⟩
  have hshort : IsShort (here.join (detour 204)) := by
    have hdot : here.bytes.length = 1 := rfl
    have hjoin := Path.length_join_le here (detour 204)
    have hsize := (detours_detour 204).size
    rw [IsShort, FileTree.pathLimit]
    omega
  have hagree := (detours_detour 204).agree.trans
    (Document.agree_join (w := homeSpace) hb (detour 204))
  obtain ⟨hr', P, hP, hP'⟩ := Document.Agree.readValue (w := homeSpace) hagree hr hshort
  cases hP.unique ⟨_, FileTree.leads_of_lookup hhome⟩
  have hunlisted : Document.Unlisted homeSpace
      (target here (here.join (detour 204)) "all_device_types")
      (.directoryNotFound (target here (here.join (detour 204)) "all_device_types")) := by
    have hlong := (detours_detour 204).size_target
    refine .absent fun place access => ?_
    rw [FileTree.lookup_of_long (by rw [FileTree.pathLimit]; omega)]
    exact Lookup.noConfusion
  refine ⟨.file hr', lookup_homeFiles, ?_, readValue_lampType (by decide +kernel),
    expanded_lampType, ofDirectory_homeFiles,
    not_read_of_unlisted (.file hr') (complete_declaring hunlisted) hunlisted⟩
  rw [Document.leads_target (w := homeSpace) hb hP']
  decide +kernel

end Lamp

end Home

end SmartHome
