import SmartHome.Proofs.Inclusion

/-!
# Documents of which none includes itself

If no document on the way includes itself, none is met again while it is expanded
(`AcyclicFrom.not_circular`), and where the walk through a document ends is the first error of all,
whatever is under expansion (`AcyclicFrom.fails_of_ends`). So a document is loaded as what it stands
for, or not for the first error on the walk through it (`load_acyclic`); but a document that cannot
be looked up is left out of its directory's mapping, and that error is not noticed
(`load_abridged`).
-/

namespace SmartHome

namespace Document

open Yaml (Value)
open Relation (TransGen ReflTransGen)

/-- No document that is included, directly or through others, by the document at a path includes
itself, directly or through others. -/
def AcyclicFrom (t : FileTree) (q : Path) : Prop :=
  ∀ P Q, StandsAt t q P → ReflTransGen (Includes t) P Q →
    ¬ TransGen (Includes t) Q Q

variable {w : Workspace} {t : FileTree} {P Q D : Place} {base q q' s : Path} {a v : Value}
  {d : Directive} {e : DocumentError} {within : List Path}

section Acyclic

theorem AcyclicFrom.mentions (h : AcyclicFrom w.files q) (hb : w.files.IsWorking base)
    (hm : Mentions w base q q') : AcyclicFrom w.files q' := by
  intro P Q hP hQ
  obtain ⟨R, hR⟩ := standsAt_of_mentions hm
  exact h R Q hR (.head (includes_of_mentions hb hm hR hP) hQ)

theorem AcyclicFrom.components_ne (h : AcyclicFrom t q) (hl : Leading t within q) :
    ∀ p ∈ within, p.components ≠ q.components := by
  intro p hp hc
  obtain ⟨P, hP, hcycle⟩ := hl.cycle_of_components hp hc
  exact h P P hP .refl hcycle

theorem AcyclicFrom.fails_of_ends (h : AcyclicFrom w.files q) (hb : w.files.IsWorking base)
    (hl : Leading w.files within q) (hends : Ends w base within q e) : Fails w base q e := by
  induction hends with
  | again hp hc => exact absurd hc (h.components_ne hl _ hp)
  | stops _ hs => exact .stops hs
  | enters _ he _ ih =>
    have hm := mentions_of_enters he
    exact .enters he (ih (h.mentions hb hm) (hl.cons hb hm))

theorem Faulty.not_circular (h : Faulty w base s d a e) (p : Path) : e ≠ .circularInclude p := by
  rintro rfl
  cases h with
  | directory hu => cases hu

/-- On an acyclic tree no document is met again, whatever the listings of directories leave out. -/
theorem AcyclicFrom.not_circular (hb : w.files.IsWorking base) : ∀ (fuel : Nat)
    {within : List Path} {path : Path}, pathBound w.files ≤ within.length + fuel →
      UnderExpansion w within → AcyclicFrom w.files (base.join path) →
        Leading w.files within (base.join path) →
          ∀ p, loadWithin w base fuel within path ≠ .error (.circularInclude p)
  | 0, within, path, hfuel, hw, _, _, p => by
    have hlt := hw.length_lt
    omega
  | fuel + 1, within, path, hfuel, hw, h, hl, p => by
    intro herror
    have hnew := h.components_ne hl
    rw [loadWithin_succ, if_neg fun ⟨q, hq, hc⟩ => hnew q hq hc] at herror
    obtain hr | ⟨v, hr, hexpand⟩ := bind_eq_error_iff.1 herror
    · exact readValue_ne_circular p hr
    · obtain ⟨text, htext⟩ := readText_of_readValue hr
      obtain ⟨d, a, hends⟩ := endsAt_of_expand hexpand
      obtain ⟨hh, hfaulty | ⟨path', hc, hload⟩⟩ := hends.cites
      · exact hfaulty.not_circular p rfl
      · have hm : Mentions w base (base.join path) (base.join path') := ⟨v, d, a, hr, hh, hc⟩
        refine AcyclicFrom.not_circular hb fuel ?_ (hw.cons htext hnew) (h.mentions hb hm)
          (hl.cons hb hm) p hload
        rw [List.length_cons]
        omega

/-- On an acyclic tree a document that stands for something is loaded as that; no error is that a
document includes itself, and the bound on the documents under expansion plays no part. If no
listing on the way leaves a document out, then whatever is loaded is what the document stands for,
and an error is the first one on the walk through it. A directory stands for the mapping from the
stems of its documents, in the order of the first ones with them, to what the last ones stand for.
-/
theorem load_acyclic (w : Workspace) (path : Path) (h : AcyclicFrom w.files (here.join path)) :
    (∀ u, Yields w here (here.join path) u → load w here path = .ok u)
      ∧ (∀ p, load w here path ≠ .error (.circularInclude p))
      ∧ (∀ n, loadWithin w here (pathBound w.files + n) [] path = load w here path)
      ∧ (CompleteAt w here (here.join path) →
        (∀ u, load w here path = .ok u → Yields w here (here.join path) u)
          ∧ ∀ e, load w here path = .error e ↔ Fails w here (here.join path) e)
      ∧ ∀ (names : List OsText) (x : OsText → Value), (∀ n ∈ names, IsDocument n) →
        ∃ (ks : List String) (ps : List (String × Value)), List.Forall₂ IsStem names ks
          ∧ mappingOf names x = .mapping (ps.map fun p => (.string p.1, p.2))
          ∧ ps.map Prod.fst = ks.eraseDups
          ∧ ∀ k v, (k, v) ∈ ps → ∃ n, IsStem n k ∧ LastWith (IsStem · k) names n ∧ v = x n := by
  have hb := FileTree.isWorking_here w.files
  refine ⟨fun u hu => hu.load_eq hb,
    AcyclicFrom.not_circular hb _ (Nat.le_add_left _ _) (.nil w) h (.nil _ _),
    fun n => loadWithin_add n (Nat.le_add_left _ _) (.nil w), fun hcomplete => ?_,
    fun names x hnames => mappingOf_spec hnames x⟩
  have hfails : ∀ e, load w here path = .error e → Fails w here (here.join path) e := fun e he =>
    h.fails_of_ends hb (.nil _ _) (ends_of_load hcomplete he)
  refine ⟨fun u => yields_of_load hcomplete, fun e => ⟨hfails e, fun he => ?_⟩⟩
  rcases hload : load w here path with e' | u
  · rw [(hfails e' hload).unique he]
  · exact (he.not_yields u (yields_of_load hcomplete hload)).elim

/-- A tree is acyclic if every document ranks above those that it includes. -/
theorem acyclicFrom_of_rank (rank : Place → Nat)
    (h : ∀ P Q, Includes t P Q → rank Q < rank P) : AcyclicFrom t q := by
  have descends : ∀ {P Q}, TransGen (Includes t) P Q → rank Q < rank P := by
    intro P Q hPQ
    induction hPQ with
    | single hstep => exact h _ _ hstep
    | tail _ hstep ih => exact Nat.lt_trans (h _ _ hstep) ih
  intro P Q _ _ hcycle
  exact Nat.lt_irrefl _ (descends hcycle)

end Acyclic

section Shared

/-- Two ways to one document, from the home and from a room through the directory above, two rooms
of one name, a variable, and a tag that stands for nothing else. -/
def sharedFiles : FileTree where
  workingDirectory := ["home"]
  entries := ⟨[
    (["home", "home.yaml"], .file (some ("rooms: !include_dir_named rooms\n"
      ++ "lamp: !include lamp.yaml\nowner: !name\n  - !env_var OWNER\n"))),
    (["home", "rooms", "porch.yaml"], .file (some "wide")),
    (["home", "rooms", "hall.yml"], .file (some "- !include ../lamp.yaml\n")),
    (["home", "rooms", "hall.yaml"], .file (some "dark")),
    (["home", "lamp.yaml"], .file (some "lamp"))], by decide⟩

abbrev sharedSpace : Workspace := ⟨sharedFiles, ⟨[("OWNER", "ada")], by decide⟩⟩

def sharedHome : Value :=
  .mapping [(.string "rooms", .tagged "include_dir_named" (.string "rooms")),
    (.string "lamp", .tagged "include" (.string "lamp.yaml")),
    (.string "owner", .tagged "name" (.sequence [.tagged "env_var" (.string "OWNER")]))]

def sharedHall : Value := .sequence [.tagged "include" (.string "../lamp.yaml")]

/-- What the home stands for: the later of the two halls counts, in the place of the earlier. -/
def sharedValue : Value :=
  .mapping [
    (.string "rooms", .mapping [(.string "hall", .sequence [.string "lamp"]),
      (.string "porch", .string "wide")]),
    (.string "lamp", .string "lamp"),
    (.string "owner", .tagged "name" (.sequence [.string "ada"]))]

theorem Names.eq_of_leads {text : String} (file : Option String)
    (h : Names t P .document (.string text) Q)
    (hD : t.leads P.dropLast ⟨text⟩ = .found D (.file file)) : Q = D := by
  cases h with
  | document hQ => exact hQ.unique ⟨file, hD⟩

theorem Names.mem_of_leads {text : String} {access : Access} {places : List Place}
    (h : Names t P .directory (.string text) Q)
    (hD : t.leads P.dropLast ⟨text⟩ = .found D (.directory access))
    (hall : ∀ n ∈ t.namesIn D, ∃ R ∈ places, FileAt t D ⟨n⟩ R) : Q ∈ places := by
  cases h with
  | directory hD' hn _ hQ =>
    cases hD.symm.trans hD'
    obtain ⟨R, hR, hfile⟩ := hall _ hn
    rwa [hQ.unique hfile]

/-- The documents that the home includes. -/
def sharedPlaces : List Place :=
  [["home", "rooms", "porch.yaml"], ["home", "rooms", "hall.yml"],
    ["home", "rooms", "hall.yaml"], ["home", "lamp.yaml"]]

theorem includes_home (hv : Holds sharedHome d a)
    (h : Names sharedFiles ["home", "home.yaml"] d a Q) : Q ∈ sharedPlaces := by
  cases hv with
  | pair hmem hh =>
    simp only [List.mem_cons, Prod.mk.injEq, List.not_mem_nil, or_false] at hmem
    obtain ⟨-, rfl⟩ | ⟨-, rfl⟩ | ⟨-, rfl⟩ := hmem
    · obtain ⟨rfl, rfl⟩ := hh.eq_of_tagged (d := .directory) rfl
      have hrooms : sharedFiles.leads ["home"] ⟨"rooms"⟩
          = .found ["home", "rooms"] (.directory .full) := by decide +kernel
      refine h.mem_of_leads hrooms ?_
      have hnames : sharedFiles.namesIn ["home", "rooms"]
          = (["porch.yaml", "hall.yml", "hall.yaml"] : List OsText) := rfl
      simp only [hnames, List.forall_mem_cons]
      refine ⟨⟨["home", "rooms", "porch.yaml"], by simp [sharedPlaces], some "wide",
          by decide +kernel⟩,
        ⟨["home", "rooms", "hall.yml"], by simp [sharedPlaces], some "- !include ../lamp.yaml\n",
          by decide +kernel⟩,
        ⟨["home", "rooms", "hall.yaml"], by simp [sharedPlaces], some "dark", by decide +kernel⟩,
        fun _ hn => absurd hn List.not_mem_nil⟩
    · obtain ⟨rfl, rfl⟩ := hh.eq_of_tagged (d := .document) rfl
      rw [h.eq_of_leads (D := ["home", "lamp.yaml"]) (some "lamp") (by decide +kernel)]
      simp [sharedPlaces]
    · cases hh with
      | here ht => cases ht
      | under _ hh => cases hh with
        | item hmem hh =>
          cases List.mem_singleton.1 hmem
          obtain ⟨rfl, rfl⟩ := hh.eq_of_tagged (d := .environment) rfl
          cases h

theorem includes_shared (h : Includes sharedFiles P Q) :
    P = ["home", "home.yaml"] ∧ Q ∈ sharedPlaces
      ∨ P = ["home", "rooms", "hall.yml"] ∧ Q = ["home", "lamp.yaml"] := by
  have hhome : Value.ofText? ("rooms: !include_dir_named rooms\n"
      ++ "lamp: !include lamp.yaml\nowner: !name\n  - !env_var OWNER\n") = some sharedHome := by
    decide +kernel
  have hhall : Value.ofText? "- !include ../lamp.yaml\n" = some sharedHall := by decide +kernel
  have hscalar : ∀ text, text ∈ ["wide", "dark", "lamp"] →
      Value.ofText? text = some (.string text) := by decide +kernel
  obtain ⟨text, v, d, a, hentry, hv, hholds, hnames⟩ := h
  have hfile := FileTree.mem_of_entry?_file hentry
  simp only [sharedFiles, List.mem_cons, Prod.mk.injEq, Entry.file.injEq, Option.some.injEq,
    List.not_mem_nil, or_false] at hfile
  obtain ⟨rfl, rfl⟩ | ⟨rfl, rfl⟩ | ⟨rfl, rfl⟩ | ⟨rfl, rfl⟩ | ⟨rfl, rfl⟩ := hfile
  · cases hhome.symm.trans hv
    exact .inl ⟨rfl, includes_home hholds hnames⟩
  · cases (hscalar _ (by simp)).symm.trans hv
    cases hholds
  · cases hhall.symm.trans hv
    cases hholds with
    | item hmem hh =>
      cases List.mem_singleton.1 hmem
      obtain ⟨rfl, rfl⟩ := hh.eq_of_tagged (d := .document) rfl
      exact .inr ⟨rfl, hnames.eq_of_leads (some "lamp") (by decide +kernel)⟩
  · cases (hscalar _ (by simp)).symm.trans hv
    cases hholds
  · cases (hscalar _ (by simp)).symm.trans hv
    cases hholds

theorem acyclicFrom_shared (q : Path) : AcyclicFrom sharedFiles q := by
  refine acyclicFrom_of_rank (fun P => if P = ["home", "home.yaml"] then 2
    else if P = ["home", "rooms", "hall.yml"] then 1 else 0) fun P Q hPQ => ?_
  obtain ⟨rfl, hQ⟩ | ⟨rfl, rfl⟩ := includes_shared hPQ
  · have hrank : ∀ R ∈ sharedPlaces, (if R = ["home", "home.yaml"] then 2
        else if R = ["home", "rooms", "hall.yml"] then 1 else 0) < 2 := by decide
    exact hrank Q hQ
  · decide

theorem lists_rooms : Lists sharedSpace ⟨"./rooms"⟩ ["hall.yaml", "hall.yml", "porch.yaml"] := by
  have hfolder : sharedFiles.lookup ⟨"./rooms"⟩ = .found ["home", "rooms"] (.directory .full) := by
    decide +kernel
  exact lists_of_sorted hfolder rfl (by decide +kernel)

theorem yields_shared : Yields sharedSpace here (here.join ⟨"home.yaml"⟩) sharedValue := by
  have hhall : Expands sharedSpace here (documentIn here ⟨"./rooms"⟩ "hall.yml") sharedHall
      (.sequence [.string "lamp"]) :=
    .item (.document (v := .string "lamp") rfl (by decide +kernel) (.scalar trivial)) .nil
  have hrooms : Expands sharedSpace here (here.join ⟨"home.yaml"⟩)
      (.tagged "include_dir_named" (.string "rooms"))
      (mappingOf ["hall.yaml", "hall.yml", "porch.yaml"] fun n =>
        if n = "hall.yaml" then .string "dark"
        else if n = "hall.yml" then .sequence [.string "lamp"] else .string "wide") := by
    refine .directory (v := fun n => if n = "hall.yaml" then .string "dark"
      else if n = "hall.yml" then sharedHall else .string "wide") rfl lists_rooms ?_ ?_
    · decide +kernel
    · intro n hn
      simp only [List.mem_cons, List.not_mem_nil, or_false] at hn
      obtain rfl | rfl | rfl := hn
      · exact .scalar trivial
      · exact hhall
      · exact .scalar trivial
  refine ⟨sharedHome, by decide +kernel, .pair (u := .mapping [
    (.string "hall", .sequence [.string "lamp"]), (.string "porch", .string "wide")]) hrooms
    (.pair ?_ (.pair ?_ .empty))⟩
  · exact .document (v := .string "lamp") rfl (by decide +kernel) (.scalar trivial)
  · exact .other rfl (.item (.environment rfl rfl) .nil)

theorem load_acyclic_shared :
    AcyclicFrom sharedFiles (here.join ⟨"home.yaml"⟩)
      ∧ CompleteAt sharedSpace here (here.join ⟨"home.yaml"⟩)
      ∧ load sharedSpace here ⟨"home.yaml"⟩ = .ok sharedValue
      ∧ ∀ e, ¬ Fails sharedSpace here (here.join ⟨"home.yaml"⟩) e := by
  have hacyclic := acyclicFrom_shared (here.join ⟨"home.yaml"⟩)
  have hcomplete := yields_shared.completeAt (FileTree.isWorking_here _)
  obtain ⟨hload, -, -, hexact, -⟩ := load_acyclic sharedSpace ⟨"home.yaml"⟩ hacyclic
  refine ⟨hacyclic, hcomplete, hload _ yields_shared, fun e he => ?_⟩
  cases (hload _ yields_shared).symm.trans (((hexact hcomplete).2 e).2 he)

end Shared

section Abridged

/-- A home, two directories below, that includes a directory beside it. -/
def deepFiles : FileTree where
  workingDirectory := ["home"]
  entries := ⟨[(["home", "d", "e", "home.yaml"], .file (some "types: !include_dir_named types\n")),
    (["home", "d", "e", "types", "lamp.yaml"], .file (some "on"))], by decide⟩

abbrev deepSpace : Workspace := ⟨deepFiles, .empty⟩

def deepHome : Value :=
  .mapping [(.string "types", .tagged "include_dir_named" (.string "types"))]

theorem ofText?_deepHome : Value.ofText? "types: !include_dir_named types\n" = some deepHome := by
  decide +kernel

theorem expand_deepHome {load' : Path → Except DocumentError Value}
    (h : directoryMapping w load' (target base s "types") = .ok v) :
    expand w base load' s deepHome = .ok (.mapping [(.string "types", v)]) := by
  rw [target] at h
  simp only [deepHome, expand, expandPairs, tagPath, h, bind, Except.bind, pure, Except.pure]

theorem eq_of_includes_deep (h : Includes deepFiles P Q) :
    P = ["home", "d", "e", "home.yaml"] ∧ Q = ["home", "d", "e", "types", "lamp.yaml"] := by
  obtain ⟨text, v, d, a, hentry, hv, hholds, hnames⟩ := h
  have hlamp : Value.ofText? "on" = some (.string "on") := by decide +kernel
  have hfile := FileTree.mem_of_entry?_file hentry
  simp only [deepFiles, List.mem_cons, Prod.mk.injEq, Entry.file.injEq, Option.some.injEq,
    List.not_mem_nil, or_false] at hfile
  obtain ⟨rfl, rfl⟩ | ⟨rfl, rfl⟩ := hfile
  · cases ofText?_deepHome.symm.trans hv
    obtain ⟨rfl, rfl⟩ := hholds.eq_of_field (d := .directory) rfl
    have hfolder : deepFiles.leads ["home", "d", "e"] ⟨"types"⟩
        = .found ["home", "d", "e", "types"] (.directory .full) := by decide +kernel
    have hmem : Q ∈ ([["home", "d", "e", "types", "lamp.yaml"]] : List Place) := by
      refine hnames.mem_of_leads hfolder fun n hn => ?_
      have hall : deepFiles.namesIn ["home", "d", "e", "types"]
          = (["lamp.yaml"] : List OsText) := rfl
      rw [hall] at hn
      cases List.mem_singleton.1 hn
      exact ⟨_, List.mem_singleton_self _, some "on", by decide +kernel⟩
    exact ⟨rfl, List.mem_singleton.1 hmem⟩
  · cases hlamp.symm.trans hv
    cases hholds

theorem acyclicFrom_deep (q : Path) : AcyclicFrom deepFiles q := by
  refine acyclicFrom_of_rank (fun P => if P = ["home", "d", "e", "home.yaml"] then 1 else 0)
    fun P Q hPQ => ?_
  obtain ⟨rfl, rfl⟩ := eq_of_includes_deep hPQ
  decide

/-- A path to the home that leaves room for the name of the directory beside it, but not for that
of the document in there. -/
def deepPath : Path :=
  ⟨⟨Path.bytes ⟨"d"⟩ ++ List.replicate 4078 Path.slash ++ Path.bytes ⟨"e/home.yaml"⟩⟩⟩

/-- A document that cannot be looked up is left out without an error: the home is loaded as if the
directory had none, although the first error on the walk through it is that the document cannot be
read. -/
theorem load_abridged :
    AcyclicFrom deepFiles (here.join deepPath)
      ∧ (∃ p, Fails deepSpace here (here.join deepPath) (.unreadable p))
      ∧ load deepSpace here deepPath = .ok (.mapping [(.string "types", .mapping [])]) := by
  have hhome : deepFiles.lookup (here.join deepPath) = .found ["home", "d", "e", "home.yaml"]
      (.file (some "types: !include_dir_named types\n")) := by decide +kernel
  have hread : readValue deepSpace (here.join deepPath) = .ok deepHome :=
    readValue_eq_ok_iff.2 ⟨_, _, hhome, ofText?_deepHome⟩
  -- both at once, as it takes long to come by the path of the directory
  obtain ⟨hfolder, hlong⟩ : deepFiles.lookup (target here (here.join deepPath) "types")
        = .found ["home", "d", "e", "types"] (.directory .full)
      ∧ FileTree.pathLimit
        < ((target here (here.join deepPath) "types").join ⟨"lamp.yaml"⟩).bytes.length := by
    decide +kernel
  have hl : Lists deepSpace (target here (here.join deepPath) "types") ["lamp.yaml"] :=
    lists_of_sorted hfolder rfl (by decide +kernel)
  refine ⟨acyclicFrom_deep _, ?_, ?_⟩
  · have hopens : Opens deepSpace here (here.join deepPath) .directory (.string "types")
        (documentIn here (target here (here.join deepPath) "types") "lamp.yaml") :=
      @Opens.member _ _ _ _ _ [] [] hl fun _ hm => absurd hm List.not_mem_nil
    have hunread := readValue_of_long (w := deepSpace)
      (Nat.lt_of_lt_of_le hlong (Path.length_le_join here _))
    exact ⟨_, .enters ⟨_, _, _, hread, .pair (.here rfl), hopens⟩ (.stops (.unread hunread))⟩
  · have hnone : found deepSpace (target here (here.join deepPath) "types") ["lamp.yaml"] = [] :=
      found_of_long fun _ hn => List.mem_singleton.1 hn ▸ hlong
    obtain ⟨load', hload⟩ := exists_load_eq hread
    have htypes : directoryMapping deepSpace load' (target here (here.join deepPath) "types")
        = .ok (.mapping []) := by
      rw [directoryMapping, filesIn_of_lists hl, hnone]
      rfl
    exact hload.trans (expand_deepHome htypes)

end Abridged

end Document

end SmartHome
