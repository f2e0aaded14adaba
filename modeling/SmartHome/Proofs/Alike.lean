import SmartHome.Proofs.Loading
import SmartHome.Proofs.Reach

/-!
# What the loading of a document depends on

A value is expanded according to its directives alone (`expand_congr`). So a document is loaded
according to the texts and listings that are reached from it, and what else there is in the tree
plays no part (`load_congr`); the order in which a tree gives its entries plays none either
(`alikeAt_of_perm`).
-/

namespace SmartHome

namespace FileTree

variable {t t' : FileTree}

theorem follow_congr (h : ∀ P, t'.entry? P = t.entry? P) :
    ∀ (ss : List (List UInt8)) (place : Place), t'.follow place ss = t.follow place ss
  | [], place => by rw [follow, follow, h]
  | s :: ss, place => by simp only [follow, h, follow_congr h ss]

theorem lookup_congr (hd : t'.workingDirectory = t.workingDirectory)
    (h : ∀ P, t'.entry? P = t.entry? P) (p : Path) : t'.lookup p = t.lookup p := by
  simp only [lookup, hd, follow_congr h]

section Order

variable (hd : t'.workingDirectory = t.workingDirectory)
  (hp : t'.entries.entries.Perm t.entries.entries)

include hp

theorem get?_of_perm (P : Place) : t'.entries.get? P = t.entries.get? P :=
  Option.ext fun e => by rw [Dict.get?_eq_some_iff, Dict.get?_eq_some_iff, hp.mem_iff]

theorem accessAt_of_perm (P : Place) : t'.accessAt P = t.accessAt P := by
  rw [accessAt, accessAt, get?_of_perm hp]

theorem mem_namesIn_of_perm (D : Place) (n : OsText) : n ∈ t'.namesIn D ↔ n ∈ t.namesIn D :=
  (hp.filterMap (nameIn? D)).mem_iff

include hd

theorem entry?_of_perm (P : Place) : t'.entry? P = t.entry? P := by
  have hkeys : ∀ f : Place → Bool, t'.entries.keys.any f = t.entries.keys.any f := fun f => by
    rw [Bool.eq_iff_iff, List.any_eq_true, List.any_eq_true]
    simp only [Dict.keys, (hp.map Prod.fst).mem_iff]
  rw [FileTree.entry?, FileTree.entry?, hasBelow, hasBelow, hd, hkeys, accessAt_of_perm hp,
    get?_of_perm hp]

theorem lookup_of_perm (p : Path) : t'.lookup p = t.lookup p :=
  lookup_congr hd (fun P => entry?_of_perm hd hp P) p

end Order

end FileTree

namespace Document

open Yaml (Value)

variable {w w' : Workspace} {base base' s p q folder : Path}
  {load load' : Path → Except DocumentError Value} {a v : Value} {d : Directive}

section Expansion

theorem directoryMapping_congr (hfiles : filesIn w.files folder = filesIn w'.files folder)
    (hload : ∀ names, Lists w folder names → ∀ n ∈ names,
      load (folder.join ⟨n⟩) = load' (folder.join ⟨n⟩)) :
    directoryMapping w load folder = directoryMapping w' load' folder := by
  rw [directoryMapping, directoryMapping, ← hfiles]
  refine bind_congr_of_ok fun files hf => ?_
  obtain ⟨names, hl, rfl⟩ := filesIn_eq_ok hf
  refine congrArg (Except.bind · _) (foldlM_congr fun pairs file hfile => ?_)
  obtain ⟨n, hn, rfl⟩ := List.mem_map.1 hfile
  rw [hload names hl n (mem_of_mem_found hn)]

theorem replacement_congr (henv : w.environment = w'.environment)
    (hs : directoryOf base s = directoryOf base' s)
    (hdocument : ∀ text, d = .document → a = .string text →
      load (target base s text) = load' (target base' s text))
    (hdirectory : ∀ text, d = .directory → a = .string text →
      directoryMapping w load (target base s text)
        = directoryMapping w' load' (target base' s text)) :
    replacement w base load s d a = replacement w' base' load' s d a := by
  have hpath : tagPath base s d.tag a = tagPath base' s d.tag a := by
    cases a <;> simp only [tagPath, hs]
  have htarget : ∀ text, target base s text = target base' s text := fun text => by
    rw [target, target, hs]
  cases d with
  | document =>
    rw [replacement, replacement, ← hpath]
    refine bind_congr_of_ok fun p hp => ?_
    obtain ⟨text, rfl, rfl⟩ := tagPath_eq_ok_iff.1 hp
    exact (hdocument text rfl rfl).trans (congrArg load' (htarget text).symm)
  | directory =>
    rw [replacement, replacement, ← hpath]
    refine bind_congr_of_ok fun p hp => ?_
    obtain ⟨text, rfl, rfl⟩ := tagPath_eq_ok_iff.1 hp
    exact (hdirectory text rfl rfl).trans (congrArg _ (htarget text).symm)
  | environment => rw [replacement, replacement, henv]

mutual

/-- Values are expanded alike if what their directives name is loaded alike. -/
theorem expand_congr (henv : w.environment = w'.environment)
    (hs : directoryOf base s = directoryOf base' s) : ∀ v : Value,
    (∀ text, Holds v .document (.string text) →
      load (target base s text) = load' (target base' s text)) →
    (∀ text, Holds v .directory (.string text) → directoryMapping w load (target base s text)
      = directoryMapping w' load' (target base' s text)) →
    expand w base load s v = expand w' base' load' s v
  | .null, _, _ | .bool _, _, _ | .number _, _, _ | .string _, _, _ => rfl
  | .sequence vs, hdocument, hdirectory => by
    rw [expand, expand, expandItems_congr henv hs vs hdocument hdirectory]
  | .mapping ps, hdocument, hdirectory => by
    rw [expand, expand, expandPairs_congr henv hs ps hdocument hdirectory]
  | .tagged tag a, hdocument, hdirectory => by
    rw [expand_tagged, expand_tagged]
    rcases ht : Directive.ofTag? tag with _ | d
    · simp only [expand_congr henv hs a (fun text hh => hdocument text (.under ht hh))
        fun text hh => hdirectory text (.under ht hh)]
    · refine replacement_congr henv hs (fun text hd ha => ?_) fun text hd ha => ?_
      · exact hdocument text (hd ▸ ha ▸ .here ht)
      · exact hdirectory text (hd ▸ ha ▸ .here ht)

theorem expandItems_congr (henv : w.environment = w'.environment)
    (hs : directoryOf base s = directoryOf base' s) : ∀ vs : List Value,
    (∀ text, Holds (.sequence vs) .document (.string text) →
      load (target base s text) = load' (target base' s text)) →
    (∀ text, Holds (.sequence vs) .directory (.string text) →
      directoryMapping w load (target base s text)
        = directoryMapping w' load' (target base' s text)) →
    expandItems w base load s vs = expandItems w' base' load' s vs
  | [], _, _ => rfl
  | v :: vs, hdocument, hdirectory => by
    rw [expandItems, expandItems,
      expand_congr henv hs v (fun text hh => hdocument text (.item List.mem_cons_self hh))
        fun text hh => hdirectory text (.item List.mem_cons_self hh),
      expandItems_congr henv hs vs (fun text hh => hdocument text hh.of_tail_items)
        fun text hh => hdirectory text hh.of_tail_items]

theorem expandPairs_congr (henv : w.environment = w'.environment)
    (hs : directoryOf base s = directoryOf base' s) : ∀ ps : List (Value × Value),
    (∀ text, Holds (.mapping ps) .document (.string text) →
      load (target base s text) = load' (target base' s text)) →
    (∀ text, Holds (.mapping ps) .directory (.string text) →
      directoryMapping w load (target base s text)
        = directoryMapping w' load' (target base' s text)) →
    expandPairs w base load s ps = expandPairs w' base' load' s ps
  | [], _, _ => rfl
  | (k, v) :: ps, hdocument, hdirectory => by
    rw [expandPairs, expandPairs,
      expand_congr henv hs v (fun text hh => hdocument text (.pair List.mem_cons_self hh))
        fun text hh => hdirectory text (.pair List.mem_cons_self hh),
      expandPairs_congr henv hs ps (fun text hh => hdocument text hh.of_tail_pairs)
        fun text hh => hdirectory text hh.of_tail_pairs]

end

end Expansion

/-- On the way from a value in a document, the second workspace has the same documents and listings
as the first. -/
structure Alike (w w' : Workspace) (base s : Path) (v : Value) : Prop where
  document : ∀ q u, Reaches w base s v q u → ∀ d a r, Holds u d a → Cites w base q d a r →
    readText w.files r = readText w'.files r
  directory : ∀ q u, Reaches w base s v q u → ∀ text, Holds u .directory (.string text) →
    filesIn w.files (target base q text) = filesIn w'.files (target base q text)

/-- `Alike` for the document at a path, its text included. -/
structure AlikeAt (w w' : Workspace) (base q : Path) : Prop where
  text : readText w.files q = readText w'.files q
  inside : ∀ v, readValue w q = .ok v → Alike w w' base q v

section Alike

theorem Alike.step (h : Alike w w' base s v) (hh : Holds v d a) (hc : Cites w base s d a q) :
    AlikeAt w w' base q :=
  ⟨h.document _ _ .refl _ _ _ hh hc, fun _ hr =>
    ⟨fun q' u' hreach => h.document q' u' (.step hh hc hr hreach),
      fun q' u' hreach => h.directory q' u' (.step hh hc hr hreach)⟩⟩

theorem alike_of_not_holds (h : ∀ text, ¬ Holds v .document (.string text)
    ∧ ¬ Holds v .directory (.string text)) : Alike w w' base s v := by
  have hcites : ∀ {d a r}, Holds v d a → ¬ Cites w base s d a r := by
    intro d a r hh hc
    cases hc with
    | document => exact (h _).1 hh
    | member => exact (h _).2 hh
  refine ⟨fun q u hreach d a r hh hc => ?_, fun q u hreach text hh => ?_⟩
  · cases hreach with
    | refl => exact (hcites hh hc).elim
    | step hh' hc' => exact (hcites hh' hc').elim
  · cases hreach with
    | refl => exact ((h text).2 hh).elim
    | step hh' hc' => exact (hcites hh' hc').elim

theorem AlikeAt.readValue (h : AlikeAt w w' base q) : readValue w q = readValue w' q := by
  rw [Document.readValue, Document.readValue, h.text]

/-- Of a document that names no other, the text alone counts. -/
theorem alikeAt_of_not_holds (htext : readText w.files q = readText w'.files q)
    (hr : Document.readValue w q = .ok v) (h : ∀ text, ¬ Holds v .document (.string text)
      ∧ ¬ Holds v .directory (.string text)) : AlikeAt w w' base q := by
  refine ⟨htext, fun v' hr' => ?_⟩
  cases hr.symm.trans hr'
  exact alike_of_not_holds h

theorem loadWithin_congr (henv : w.environment = w'.environment) :
    ∀ (fuel : Nat) (within : List Path) {p : Path}, AlikeAt w w' base (base.join p) →
      loadWithin w base fuel within p = loadWithin w' base fuel within p
  | 0, _, _, _ => rfl
  | fuel + 1, within, p, h => by
    rw [loadWithin_succ, loadWithin_succ, ← h.readValue]
    refine congrArg (ite _ _) (bind_congr_of_ok fun v hr => ?_)
    have hv := h.inside v hr
    have hload : ∀ {d a x}, Holds v d a → Cites w base (base.join p) d a (base.join x) →
        loadWithin w base fuel (base.join p :: within) x
          = loadWithin w' base fuel (base.join p :: within) x := fun hh hc =>
      loadWithin_congr henv fuel _ (hv.step hh hc)
    exact expand_congr henv rfl v (fun text hh => hload hh .document) fun text hh =>
      directoryMapping_congr (hv.directory _ _ .refl text hh) fun names hl n hn =>
        hload hh (.member hl hn)

/-- What is not reached from a document plays no part in loading it. -/
theorem load_congr (henv : w.environment = w'.environment) (h : AlikeAt w w' base (base.join p)) :
    Document.load w base p = Document.load w' base p := by
  rw [← loadWithin_eq_load w base (pathBound w'.files),
    ← loadWithin_eq_load w' base (pathBound w.files), Nat.add_comm]
  exact loadWithin_congr henv _ _ h

end Alike

section Order

variable {names : List OsText}

section Listing

variable (hlookup : ∀ p, w.files.lookup p = w'.files.lookup p)
  (hnames : ∀ D n, n ∈ w.files.namesIn D ↔ n ∈ w'.files.namesIn D)

include hlookup hnames

theorem lists_congr : Lists w folder names ↔ Lists w' folder names := by
  simp only [Lists, hlookup, hnames]

theorem filesIn_congr (folder : Path) : filesIn w.files folder = filesIn w'.files folder := by
  obtain ⟨names, hl⟩ | ⟨e, hu⟩ := lists_or_unlisted w folder
  · rw [filesIn_of_lists hl, filesIn_of_lists ((lists_congr hlookup hnames).1 hl)]
    simp only [found, FileTree.isFile, hlookup]
  · have hu' : Unlisted w' folder e := by
      cases hu with
      | absent hnone => exact .absent fun place access => hlookup folder ▸ hnone place access
      | closed hfolder hlist => exact .closed (hlookup folder ▸ hfolder) hlist
    rw [filesIn_of_unlisted hu, filesIn_of_unlisted hu']

end Listing

variable (hd : w.files.workingDirectory = w'.files.workingDirectory)
  (hp : w.files.entries.entries.Perm w'.files.entries.entries)

include hd hp

/-- The order of a tree's entries plays no part. -/
theorem alikeAt_of_perm : AlikeAt w w' base q := by
  have htext : ∀ r, readText w.files r = readText w'.files r := fun r => by
    rw [readText, readText, FileTree.lookup_of_perm hd hp]
  exact ⟨htext q, fun _ _ => ⟨fun _ _ _ _ _ r _ _ => htext r, fun _ _ _ _ _ =>
    filesIn_congr (FileTree.lookup_of_perm hd hp) (FileTree.mem_namesIn_of_perm hp) _⟩⟩

end Order

end Document

end SmartHome
