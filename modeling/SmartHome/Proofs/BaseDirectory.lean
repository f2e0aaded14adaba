import SmartHome.Proofs.Alike
import SmartHome.Proofs.Relocation

/-!
# Paths in documents and the base directory

A path in a document is read from the directory of the document, for every base
(`leads_target_join`): so a directory that a directive names is the right one. A document that a
directive names is read from the base once more. If the base is the working directory, this leads to
the same place; if it starts at the root, so does the path, and the base plays no part
(`loadWithin_of_isAbsolute`). From every other base the document is looked for in the wrong
directory, below the base's own (`load_below_base`).
-/

namespace SmartHome

namespace Document

open Yaml (Value)

variable {w : Workspace} {base base' p q s x : Path} {P D B : Place} {u v a : Value}

section Joined

/-- A file read from a base that has no directory in its path stands in the working directory, and
so does the base. -/
theorem names_base_eq_nil {text : Option String} {d : Path}
    (h : w.files.lookup (base.join x) = .found P (.file text))
    (hd : (base.join x).parent? = some d) (hempty : d.bytes = []) :
    base.names = [] ∧ base.isAbsolute = false := by
  have hne := FileTree.names_ne_nil (FileTree.leads_of_lookup h)
  obtain ⟨d', hd', hnames, habs⟩ := Path.parent?_spec hne
  rw [hd] at hd'
  cases hd'
  have hdnames : d.names = [] := by
    rw [Path.names, Path.segments, hempty]
    rfl
  have hdabs : d.isAbsolute = false := by
    rw [Path.isAbsolute, hempty]
    rfl
  have hx : x.isAbsolute = false := by
    rcases hx : x.isAbsolute with _ | _
    · rfl
    · rw [Path.join_of_isAbsolute hx, hx, hdabs] at habs
      cases habs
  rw [Path.isAbsolute_join hx, hdabs] at habs
  rw [hdnames, Path.names_join hx] at hnames
  -- the last piece of the path is a name, and the only one, so the base has none
  have hxnames : x.names ≠ [] := by
    refine Path.names_ne_nil_of_last fun s hs => ?_
    rw [← Path.getLast?_segments_join base] at hs
    exact FileTree.last_of_lookup h s hs
  rw [List.dropLast_append_of_ne_nil hxnames] at hnames
  exact ⟨(List.append_eq_nil_iff.1 hnames.symm).1, habs.symm⟩

theorem leads_directoryOf_join {text : Option String}
    (h : w.files.lookup (base.join x) = .found P (.file text)) :
    ∃ access, w.files.leads w.files.workingDirectory (directoryOf base (base.join x))
      = .found P.dropLast (.directory access) := by
  obtain ⟨d, access, hd, hleads, -⟩ := FileTree.leads_parent (FileTree.leads_of_lookup h)
  refine ⟨access, ?_⟩
  rw [directoryOf, hd]
  by_cases hbytes : d.bytes.isEmpty = true
  · obtain ⟨hnames, habs⟩ := names_base_eq_nil h hd (List.isEmpty_iff.1 hbytes)
    have hdempty : d = ⟨⟨[]⟩⟩ :=
      congrArg (fun bs => Path.mk ⟨bs⟩) (List.isEmpty_iff.1 hbytes)
    have hbase : w.files.leads w.files.workingDirectory base
        = w.files.leads w.files.workingDirectory ⟨⟨[]⟩⟩ := FileTree.leads_congr hnames habs
    simp only [hbytes, if_true]
    rw [hbase, ← hdempty, hleads]
  · simpa only [hbytes, Bool.false_eq_true, if_false] using hleads

theorem leads_target_join {file : Option String}
    (h : w.files.lookup (base.join x) = .found P (.file file)) (text : String) :
    w.files.leads w.files.workingDirectory (target base (base.join x) text)
      = w.files.leads P.dropLast ⟨text⟩ := by
  obtain ⟨access, hdirectory⟩ := leads_directoryOf_join h
  exact FileTree.leads_join hdirectory

end Joined

section Absolute

theorem isAbsolute_join_of_base (hb : base.isAbsolute = true) :
    (base.join x).isAbsolute = true := by
  rcases hx : x.isAbsolute with _ | _
  · rw [Path.isAbsolute_join hx, hb]
  · rw [Path.join_of_isAbsolute hx, hx]

/-- The directory of a document whose path starts at the root has nothing to do with the base. -/
theorem directoryOf_of_isAbsolute (hs : s.isAbsolute = true) (hnames : s.names ≠ []) :
    ∃ d : Path, d.isAbsolute = true ∧ ∀ base, directoryOf base s = d := by
  obtain ⟨d, hd, -, habs⟩ := Path.parent?_spec hnames
  rw [hs] at habs
  have hbytes : d.bytes.isEmpty = false := by
    refine Bool.eq_false_iff.2 fun hempty => ?_
    rw [Path.isAbsolute, List.isEmpty_iff.1 hempty] at habs
    cases habs
  refine ⟨d, habs, fun base => ?_⟩
  simp only [directoryOf, hd, hbytes, Bool.false_eq_true, if_false]

/-- In a document whose path starts at the root, no tag is read from the base. -/
theorem expand_of_isAbsolute {load load' : Path → Except DocumentError Value}
    (hs : directoryOf base s = directoryOf base' s)
    (habs : (directoryOf base s).isAbsolute = true)
    (hload : ∀ p, p.isAbsolute = true → load p = load' p) (v : Value) :
    expand w base load s v = expand w base' load' s v := by
  have htarget : ∀ text, target base s text = target base' s text := fun text => by
    rw [target, target, hs]
  have habs' : ∀ text, (target base s text).isAbsolute = true := fun _ =>
    isAbsolute_join_of_base habs
  refine expand_congr rfl hs v (fun text _ => ?_) fun text _ => ?_
  · rw [← htarget]
    exact hload _ (habs' text)
  · rw [← htarget]
    exact directoryMapping_congr rfl fun _ _ n _ => hload _ (isAbsolute_join_of_base (habs' text))

/-- A path that starts at the root is loaded the same from every base. -/
theorem loadWithin_of_isAbsolute : ∀ (fuel : Nat) (within : List Path) {p : Path},
    p.isAbsolute = true → loadWithin w base fuel within p = loadWithin w base' fuel within p
  | 0, _, _, _ => rfl
  | fuel + 1, within, p, hp => by
    rw [loadWithin_succ, loadWithin_succ, Path.join_of_isAbsolute hp, Path.join_of_isAbsolute hp]
    rcases hr : readValue w p with e | v
    · simp only [bind, Except.bind]
    · obtain ⟨P, text, ⟨file, hP⟩, -⟩ := standsAt_of_readValue hr
      obtain ⟨d, habs, hd⟩ := directoryOf_of_isAbsolute hp (FileTree.names_ne_nil hP)
      have hexpand : expand w base (loadWithin w base fuel (p :: within)) p v
          = expand w base' (loadWithin w base' fuel (p :: within)) p v :=
        expand_of_isAbsolute ((hd base).trans (hd base').symm) ((hd base).symm ▸ habs)
          (fun _ => loadWithin_of_isAbsolute fuel (p :: within)) v
      simp only [bind, Except.bind, hexpand]

/-- A base that starts at the root is read once. -/
theorem load_of_isAbsolute (hb : base.isAbsolute = true) (path : Path) :
    load w base path = load w here (base.join path) := by
  have hpath : (base.join path).isAbsolute = true := isAbsolute_join_of_base hb
  have honce : ∀ n, loadWithin w base (n + 1) [] path
      = loadWithin w base (n + 1) [] (base.join path) := by
    intro n
    rw [loadWithin_succ, loadWithin_succ, Path.join_of_isAbsolute hpath]
  obtain ⟨n, hn⟩ := Nat.exists_eq_succ_of_ne_zero
    (Nat.ne_of_gt (UnderExpansion.length_lt (.nil w)))
  rw [load, load, hn, honce]
  exact loadWithin_of_isAbsolute _ _ hpath

end Absolute

section Base

/-- All paths in a document are read from the place above it: those of documents, those of
directories, and those of the documents in them. -/
structure ReadsBeside (w : Workspace) (base q : Path) (P : Place) : Prop where
  document : ∀ text, w.files.leads w.files.workingDirectory (base.join (target base q text))
    = w.files.leads P.dropLast ⟨text⟩
  directory : ∀ text, w.files.leads w.files.workingDirectory (target base q text)
    = w.files.leads P.dropLast ⟨text⟩
  member : ∀ (text : String) D access n,
    w.files.leads P.dropLast ⟨text⟩ = .found D (.directory access) →
      w.files.leads w.files.workingDirectory (documentIn base (target base q text) n)
        = w.files.leads D ⟨n⟩

/-- A path that has been read from the root or the working directory leads to the same place when it
is read from there again. -/
theorem leads_join_again (hb : base.isAbsolute = true ∨ ∃ access,
      w.files.leads w.files.workingDirectory base
        = .found w.files.workingDirectory (.directory access))
    (hp : base.isAbsolute = true → p.isAbsolute = true) :
    w.files.leads w.files.workingDirectory (base.join p)
      = w.files.leads w.files.workingDirectory p := by
  rcases hb with hb | ⟨access, hb⟩
  · rw [Path.join_of_isAbsolute (hp hb)]
  · exact FileTree.leads_join hb

theorem readsBeside_of_join {file : Option String}
    (h : w.files.lookup (base.join x) = .found P (.file file)) (hb : base.isAbsolute = true
      ∨ ∃ access, w.files.leads w.files.workingDirectory base
        = .found w.files.workingDirectory (.directory access)) :
    ReadsBeside w base (base.join x) P := by
  have hnames := FileTree.names_ne_nil (FileTree.leads_of_lookup h)
  have habs : ∀ text, base.isAbsolute = true →
      (target base (base.join x) text).isAbsolute = true := by
    intro text hb
    obtain ⟨d, hd, hdirectory⟩ := directoryOf_of_isAbsolute (isAbsolute_join_of_base hb) hnames
    rw [target, hdirectory]
    exact isAbsolute_join_of_base hd
  refine ⟨fun text => ?_, leads_target_join h, fun text D access n hD => ?_⟩
  · rw [leads_join_again hb (habs text), leads_target_join h]
  · rw [documentIn, leads_join_again hb fun hb => isAbsolute_join_of_base (habs text hb)]
    rw [← leads_target_join h] at hD
    exact FileTree.leads_join hD

/-- Every path in a document that is loaded, at whatever depth, is read from the directory of the
document. The documents it names are then read from the base again; so they are those beside the
document if the base starts at the root or is the working directory, and otherwise those that the
path leads to from the base. Where the base is read once, or is the working directory and on the way
no path is too long and no listing leaves a document out, loading from it is loading from here by a
path that starts with it. -/
theorem load_from_base (w : Workspace) (base path : Path) :
    (∀ v q u, readValue w (base.join path) = .ok v → Reaches w base (base.join path) v q u →
      ∃ P, StandsAt w.files q P
        ∧ (∀ text, w.files.leads w.files.workingDirectory (target base q text)
          = w.files.leads P.dropLast ⟨text⟩)
        ∧ (∀ p B e, w.files.leads w.files.workingDirectory base = .found B e →
          w.files.leads w.files.workingDirectory (base.join p) = w.files.leads B p)
        ∧ (base.isAbsolute = true ∨ (∃ access, w.files.leads w.files.workingDirectory base
            = .found w.files.workingDirectory (.directory access)) → ReadsBeside w base q P))
      ∧ (base.isAbsolute = true → load w base path = load w here (base.join path))
      ∧ (w.files.IsWorking base → FitsAt w base (base.join path) →
        FitsAt w here (here.join (base.join path)) →
          ∀ u, load w base path = .ok u ↔ load w here (base.join path) = .ok u) := by
  refine ⟨fun v q u hr hreach => ?_, fun hb => load_of_isAbsolute hb path,
    fun hb hfits hfits' u => ?_⟩
  · obtain ⟨x, rfl⟩ := hreach.joined ⟨path, rfl⟩
    obtain ⟨P, text, hP, -⟩ := readValue_eq_ok_iff.1 (hreach.readValue hr)
    exact ⟨P, ⟨_, FileTree.leads_of_lookup hP⟩, leads_target_join hP,
      fun p B e => FileTree.leads_join, readsBeside_of_join hP⟩
  · have hhere := FileTree.isWorking_here w.files
    have hagree := agree_join hhere (base.join path)
    have hagree' : Agree w.files (here.join (base.join path)) (base.join path) :=
      ⟨hagree.leads.symm, hagree.last.symm, fun h hmem => h (Path.mem_join_of_mem hmem)⟩
    rw [load_eq_ok_iff hb hfits.completeAt, load_eq_ok_iff hhere hfits'.completeAt]
    exact ⟨fun h => h.elsewhere hb hhere hagree hfits', fun h => h.elsewhere hhere hb hagree' hfits⟩

/-- A document in a directory that includes the one beside it. -/
def lampFiles : FileTree where
  workingDirectory := ["home"]
  entries := ⟨[
    (["home", "lamps", "hall.yaml"], .file (some "bulb: !include bulb.yaml\n")),
    (["home", "lamps", "bulb.yaml"], .file (some "warm"))], by decide⟩

theorem fitsAt_lamps (hq : readValue ⟨lampFiles, .empty⟩ q
      = .ok (.mapping [(.string "bulb", .tagged "include" (.string "bulb.yaml"))]))
    (hbulb : readValue ⟨lampFiles, .empty⟩ (base.join (target base q "bulb.yaml"))
      = .ok (.string "warm")) (hqshort : IsShort q)
    (hshort : IsShort (base.join (target base q "bulb.yaml"))) :
    FitsAt ⟨lampFiles, .empty⟩ base q := by
  refine fitsAt_of_readValue hqshort hq (fits_of_cites (fun d a r hh hc => ?_) fun text hh => ?_)
  · obtain ⟨rfl, rfl⟩ := hh.eq_of_field (d := .document) rfl
    cases hc
    refine fitsAt_of_readValue hshort hbulb (fits_of_not_holds fun d a hh => ?_)
    cases hh
  · exact (not_holds_directory hh).elim

/-- The base is the working directory, by a path that goes down and up again. -/
theorem load_from_base_lamps :
    lampFiles.IsWorking ⟨"lamps/.."⟩
      ∧ FitsAt ⟨lampFiles, .empty⟩ ⟨"lamps/.."⟩ ⟨"lamps/../lamps/hall.yaml"⟩
      ∧ FitsAt ⟨lampFiles, .empty⟩ here ⟨"./lamps/../lamps/hall.yaml"⟩
      ∧ load ⟨lampFiles, .empty⟩ ⟨"lamps/.."⟩ ⟨"lamps/hall.yaml"⟩
        = .ok (.mapping [(.string "bulb", .string "warm")]) := by
  have hworking : lampFiles.IsWorking ⟨"lamps/.."⟩ :=
    FileTree.isWorking_of_lookup (a := .full) (by decide +kernel)
  have hfits : FitsAt ⟨lampFiles, .empty⟩ ⟨"lamps/.."⟩ ⟨"lamps/../lamps/hall.yaml"⟩ :=
    fitsAt_lamps (by decide +kernel) (by decide +kernel) (by decide +kernel) (by decide +kernel)
  have hfits' : FitsAt ⟨lampFiles, .empty⟩ here ⟨"./lamps/../lamps/hall.yaml"⟩ :=
    fitsAt_lamps (by decide +kernel) (by decide +kernel) (by decide +kernel) (by decide +kernel)
  have hpath : Path.join ⟨"lamps/.."⟩ ⟨"lamps/hall.yaml"⟩ = ⟨"lamps/../lamps/hall.yaml"⟩ := by
    decide +kernel
  have hpath' : here.join ⟨"lamps/../lamps/hall.yaml"⟩ = ⟨"./lamps/../lamps/hall.yaml"⟩ := by
    decide +kernel
  obtain ⟨-, -, hworks⟩ := load_from_base ⟨lampFiles, .empty⟩ ⟨"lamps/.."⟩ ⟨"lamps/hall.yaml"⟩
  rw [hpath, hpath'] at hworks
  exact ⟨hworking, hfits, hfits', (hworks hworking hfits hfits' _).2 (by decide +kernel)⟩

/-- From every other base, the document beside one that includes it is looked for below the base. -/
theorem load_below_base :
    load ⟨lampFiles, .empty⟩ here ⟨"lamps/hall.yaml"⟩
        = .ok (.mapping [(.string "bulb", .string "warm")])
      ∧ load ⟨lampFiles, .empty⟩ ⟨"lamps"⟩ ⟨"hall.yaml"⟩
        = .error (.notFound ⟨"lamps/lamps/bulb.yaml"⟩) := by
  decide +kernel

end Base

end Document

end SmartHome
