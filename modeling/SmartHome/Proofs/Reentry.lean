import SmartHome.Proofs.Relocation

/-!
# Documents that come back to themselves

Where the walk through a document first comes back to a file that is still being expanded
(`Returns`), the document is not loaded, however the paths are written (`Returns.not_yields`). The
loader compares paths and not files: it notices that it has come back if the two paths to the file
have the same components (`Returns.ends`), which paths that never go back a name have
(`components_eq_of_plain`). Otherwise it expands the file again. A document that includes itself by
going up and down again is never noticed (`load_unnoticed`): its paths have more names each time
(`IncludesItself.names_lt`), until one is too long to be read.
-/

namespace SmartHome

namespace Document

open Yaml (Value)

/-- The walk through a document, with those given under expansion, comes back to one of them: the
paths are the one under expansion and the one by which the walk comes back to its file. No file is
come back to earlier. -/
inductive Returns (w : Workspace) : List Path → Path → Path → Path → Prop
  | back {within p q P} : p ∈ within → StandsAt w.files p P → StandsAt w.files q P →
      Returns w within q p q
  | on {within p q q' r} :
      (∀ p ∈ within, ∀ P, StandsAt w.files p P → ¬ StandsAt w.files q P) → Enters w here q q' →
      Returns w (q :: within) q' p r → Returns w within q p r

variable {w : Workspace} {t : FileTree} {P Q place : Place} {p q r : Path} {u : Value}
  {e : Entry} {within : List Path}

section Plain

/-- The path never goes back a name. -/
def Plain (p : Path) : Prop := [Path.dot, Path.dot] ∉ p.names

theorem follow_plain : ∀ {ss : List (List UInt8)} {place : Place},
    (∀ s ∈ ss, Path.isIdle s = false ∧ s ≠ [Path.dot, Path.dot]) →
      t.follow place ss = .found P e → P = place ++ ss.map OsText.mk
  | [], place, _, h => by
    rw [(FileTree.follow_nil h).1, List.map_nil, List.append_nil]
  | s :: ss, place, hss, h => by
    obtain ⟨hidle, hup⟩ := hss s List.mem_cons_self
    obtain ⟨-, -, -, next, hnext, -, ⟨hidle', -⟩ | ⟨-, hup', -⟩ | ⟨-, -, hdown⟩⟩ :=
      FileTree.follow_cons h
    · rw [hidle] at hidle'
      cases hidle'
    · exact absurd hup' hup
    · have ih := follow_plain (fun s' hs' => hss s' (List.mem_cons_of_mem _ hs')) hnext
      rw [ih, hdown, List.map_cons, List.append_assoc, List.singleton_append]

theorem leads_plain (hp : Plain p) (h : t.leads place p = .found P e) :
    P = (if p.isAbsolute then [] else place) ++ p.names.map OsText.mk := by
  refine follow_plain (fun s hs => ⟨?_, ?_⟩) h
  · simpa using (List.mem_filter.1 hs).2
  · rintro rfl
    exact hp hs

/-- Paths to one file that never go back have the same components, if both start at the root or
neither does. -/
theorem components_eq_of_plain {x y : Path} (hx : StandsAt t (here.join x) P)
    (hy : StandsAt t (here.join y) P)
    (hpx : Plain (here.join x)) (hpy : Plain (here.join y))
    (habs : (here.join x).isAbsolute = (here.join y).isAbsolute) :
    (here.join x).components = (here.join y).components := by
  obtain ⟨text, hx⟩ := hx
  obtain ⟨text', hy⟩ := hy
  have hPx := leads_plain hpx hx
  have hPy := leads_plain hpy hy
  rw [hPx, habs] at hPy
  have hnames := List.append_cancel_left hPy
  rw [(names_here_join x).1, (names_here_join y).1] at hnames
  rw [(names_here_join x).2, (names_here_join y).2] at habs
  have hdot : here = ⟨"."⟩ := rfl
  rw [hdot, Path.components_join_dot, Path.components_join_dot, habs, hnames]

end Plain

theorem Returns.not_yields (h : Returns w within q p r) (hl : Leading w.files within q) :
    ¬ Yields w here q u := by
  have hb := FileTree.isWorking_here w.files
  induction h generalizing u with
  | back hp hP hq =>
    intro hu
    exact (hu.grounded hb hq).not_cycle (hl.cycle hp hP hq)
  | on _ he _ ih =>
    intro hu
    obtain ⟨u', hu'⟩ := he.yields hu
    exact ih (hl.cons hb (mentions_of_enters he)) hu'

/-- The walk ends where it comes back if the two paths have the same components. -/
theorem Returns.ends (h : Returns w within q p r) (hl : Leading w.files within q)
    (hc : p.components = r.components) : Ends w here within q (.circularInclude r) := by
  induction h with
  | back hp => exact .again hp hc
  | on hnew he _ ih =>
    refine .enters (fun p' hp' hsame => ?_) he
      (ih (hl.cons (FileTree.isWorking_here _) (mentions_of_enters he)) hc)
    obtain ⟨P, hP, -⟩ := hl p' hp'
    exact hnew p' hp' P hP (FileAt.congr hP hsame)

theorem Returns.joined (h : Returns w within q p r) (hw : ∀ p ∈ within, ∃ x, p = here.join x)
    (hq : ∃ x, q = here.join x) : ∃ x y P, p = here.join x ∧ r = here.join y
      ∧ StandsAt w.files p P ∧ StandsAt w.files r P := by
  induction h with
  | back hp hP hq' =>
    obtain ⟨x, hx⟩ := hw _ hp
    obtain ⟨y, hy⟩ := hq
    exact ⟨x, y, _, hx, hy, hP, hq'⟩
  | on _ he _ ih =>
    refine ih (fun p' hp' => ?_) ?_
    · rcases List.mem_cons.1 hp' with rfl | hp'
      · exact hq
      · exact hw p' hp'
    · obtain ⟨v, d, a, -, -, ho⟩ := he
      cases ho with
      | document => exact ⟨_, rfl⟩
      | member => exact ⟨_, rfl⟩

/-- A document from which the walk comes back is not loaded, whatever its paths look like, and the
expansion ends; the listings of directories on the way have to be complete, for a listing that
leaves a document out is how a walk can fail to come back. The error is that a document includes
itself if the two paths to the file have the same components, as they have if neither goes back a
name and both start at the root or neither does. -/
theorem load_returns (w : Workspace) (path : Path)
    (hcomplete : CompleteAt w here (here.join path)) (h : Returns w [] (here.join path) p r) :
    (∀ u, load w here path ≠ .ok u)
      ∧ (p.components = r.components → load w here path = .error (.circularInclude r))
      ∧ (Plain p → Plain r → p.isAbsolute = r.isAbsolute →
        load w here path = .error (.circularInclude r))
      ∧ ∀ n, loadWithin w here (pathBound w.files + n) [] path = load w here path := by
  have hsame : p.components = r.components → load w here path = .error (.circularInclude r) :=
    fun hc => (load_eq_error_iff (FileTree.isWorking_here _) hcomplete).2 (h.ends (.nil _ _) hc)
  refine ⟨fun u hu => ?_, hsame, fun hp hr habs => hsame ?_, fun n => ?_⟩
  · exact h.not_yields (.nil _ _) (yields_of_load hcomplete hu)
  · obtain ⟨x, y, P, rfl, rfl, hP, hP'⟩ := h.joined (by simp) ⟨path, rfl⟩
    exact components_eq_of_plain hP hP' hp hr habs
  · exact loadWithin_add n (Nat.le_add_left _ _) (.nil w)

section Mutual

/-- Two documents that include each other. -/
def mutualFiles : FileTree where
  workingDirectory := ["home"]
  entries := ⟨[(["home", "a.yaml"], .file (some "b: !include b.yaml\n")),
    (["home", "b.yaml"], .file (some "a: !include ./a.yaml\n"))], by decide⟩

theorem returns_mutual : Returns ⟨mutualFiles, .empty⟩ [] ⟨"./a.yaml"⟩ ⟨"./a.yaml"⟩
    ⟨"./././a.yaml"⟩ := by
  have hreadA : readValue ⟨mutualFiles, .empty⟩ ⟨"./a.yaml"⟩
      = .ok (.mapping [(.string "b", .tagged "include" (.string "b.yaml"))]) := by decide +kernel
  have hreadB : readValue ⟨mutualFiles, .empty⟩ ⟨"././b.yaml"⟩
      = .ok (.mapping [(.string "a", .tagged "include" (.string "./a.yaml"))]) := by decide +kernel
  have hA : StandsAt mutualFiles ⟨"./a.yaml"⟩ ["home", "a.yaml"] :=
    ⟨some "b: !include b.yaml\n", by decide +kernel⟩
  have hB : StandsAt mutualFiles ⟨"././b.yaml"⟩ ["home", "b.yaml"] :=
    ⟨some "a: !include ./a.yaml\n", by decide +kernel⟩
  have hA' : StandsAt mutualFiles ⟨"./././a.yaml"⟩ ["home", "a.yaml"] :=
    ⟨some "b: !include b.yaml\n", by decide +kernel⟩
  have htargetB : here.join (target here ⟨"./a.yaml"⟩ "b.yaml") = ⟨"././b.yaml"⟩ := by
    decide +kernel
  have htargetA : here.join (target here ⟨"././b.yaml"⟩ "./a.yaml") = ⟨"./././a.yaml"⟩ := by
    decide +kernel
  have henterB : Enters ⟨mutualFiles, .empty⟩ here ⟨"./a.yaml"⟩ ⟨"././b.yaml"⟩ :=
    ⟨_, _, _, hreadA, .pair (.here rfl), htargetB ▸ .document⟩
  have henterA : Enters ⟨mutualFiles, .empty⟩ here ⟨"././b.yaml"⟩ ⟨"./././a.yaml"⟩ :=
    ⟨_, _, _, hreadB, .pair (.here rfl), htargetA ▸ .document⟩
  refine .on (by simp) henterB (.on ?_ henterA (.back (by simp) hA hA'))
  intro p hp P hP hQ
  cases List.mem_singleton.1 hp
  have hsame : (["home", "a.yaml"] : Place) = ["home", "b.yaml"] :=
    (hP.unique hA).symm.trans (hQ.unique hB)
  exact absurd hsame (by decide)

theorem completeAt_mutual (q : Path) : CompleteAt ⟨mutualFiles, .empty⟩ here q := by
  refine completeAt_of_not_holds fun r u text hr hh => ?_
  have hA : Value.ofText? "b: !include b.yaml\n"
      = some (.mapping [(.string "b", .tagged "include" (.string "b.yaml"))]) := by decide +kernel
  have hB : Value.ofText? "a: !include ./a.yaml\n"
      = some (.mapping [(.string "a", .tagged "include" (.string "./a.yaml"))]) := by decide +kernel
  obtain ⟨P, source, -, hentry, hu⟩ := standsAt_of_readValue hr
  have hfile := FileTree.mem_of_entry?_file hentry
  simp only [mutualFiles, List.mem_cons, Prod.mk.injEq, Entry.file.injEq, Option.some.injEq,
    List.not_mem_nil, or_false] at hfile
  obtain ⟨-, rfl⟩ | ⟨-, rfl⟩ := hfile
  · cases hA.symm.trans hu
    exact not_holds_directory hh
  · cases hB.symm.trans hu
    exact not_holds_directory hh

theorem load_returns_mutual : CompleteAt ⟨mutualFiles, .empty⟩ here ⟨"./a.yaml"⟩
    ∧ Returns ⟨mutualFiles, .empty⟩ [] ⟨"./a.yaml"⟩ ⟨"./a.yaml"⟩ ⟨"./././a.yaml"⟩
    ∧ load ⟨mutualFiles, .empty⟩ here ⟨"a.yaml"⟩ = .error (.circularInclude ⟨"./././a.yaml"⟩) := by
  have hjoin : here.join ⟨"a.yaml"⟩ = ⟨"./a.yaml"⟩ := by decide +kernel
  have hreturns := returns_mutual
  rw [← hjoin] at hreturns
  obtain ⟨-, hsame, -⟩ :=
    load_returns ⟨mutualFiles, .empty⟩ ⟨"a.yaml"⟩ (completeAt_mutual _) hreturns
  exact ⟨completeAt_mutual _, returns_mutual, hsame (by decide +kernel)⟩

end Mutual

section Unnoticed

/-- A relative path of two names or more that can be followed to its end. -/
structure Winding (x : Path) : Prop where
  relative : x.isAbsolute = false
  names : 2 ≤ x.names.length
  last : ∀ s, x.segments.getLast? = some s → Path.isIdle s = false
  readable : 0 ∉ x.bytes

/-- The document at a place comes first to including itself by the path of a text. -/
structure IncludesItself (w : Workspace) (P : Place) (x : String) : Prop where
  winding : Winding ⟨x⟩
  document : ∃ text v, w.files.entry? P = some (.file (some text)) ∧ Value.ofText? text = some v
    ∧ ∀ s, Comes w here s v .document (.string x)
  itself : FileAt w.files P.dropLast ⟨x⟩ P

/-- The path by which a document at a path includes itself. -/
def again (x : String) (q : Path) : Path := here.join (target here q x)

variable {x : String}

theorem names_again (hq : q.names ≠ []) (hx : Path.isAbsolute ⟨x⟩ = false) :
    (again x q).names = q.names.dropLast ++ Path.names ⟨x⟩ := by
  rw [again, (names_here_join _).1, names_target hq hx]

theorem leads_again (hq : StandsAt w.files q P) :
    w.files.leads w.files.workingDirectory (again x q) = w.files.leads P.dropLast ⟨x⟩ := by
  rw [again, FileTree.leads_working_join (FileTree.isWorking_here _),
    leads_target (FileTree.isWorking_here _) hq]

theorem getLast?_segments_again (x : String) (q : Path) :
    (again x q).segments.getLast? = (Path.segments ⟨x⟩).getLast? := by
  rw [again, Path.getLast?_segments_join, target, Path.getLast?_segments_join]

namespace IncludesItself

theorem reads (h : IncludesItself w P x) (hq : w.files.lookup q = .found P e) :
    StandsAt w.files q P ∧ ∃ v, readValue w q = .ok v
      ∧ Comes w here q v .document (.string x) := by
  obtain ⟨text, v, hentry, hv, hcomes⟩ := h.document
  have hleads := FileTree.leads_of_lookup hq
  rw [FileTree.entry?_of_leads hleads] at hentry
  cases hentry
  exact ⟨⟨_, hleads⟩, v, readValue_eq_ok_iff.2 ⟨P, text, hq, hv⟩, hcomes q⟩

theorem enters (h : IncludesItself w P x) (hq : w.files.lookup q = .found P e) :
    Enters w here q (again x q) := by
  obtain ⟨-, v, hr, hc⟩ := h.reads hq
  exact ⟨v, _, _, hr, hc, .document⟩

theorem names_lt (h : IncludesItself w P x) (hq : StandsAt w.files q P) :
    q.names.length < (again x q).names.length := by
  obtain ⟨text, hq⟩ := hq
  have hne := FileTree.names_ne_nil hq
  have hpos := List.length_pos_iff.2 hne
  have htwo := h.winding.names
  rw [names_again hne h.winding.relative, List.length_append, List.length_dropLast]
  omega

theorem lookup_again (h : IncludesItself w P x) (hq : w.files.lookup q = .found P e)
    (hlong : (again x q).bytes.length ≤ FileTree.pathLimit) :
    ∃ e, w.files.lookup (again x q) = .found P e := by
  obtain ⟨hstands, -⟩ := h.reads hq
  obtain ⟨text, hitself⟩ := h.itself
  rw [← leads_again hstands] at hitself
  have hlast : ∀ s, (again x q).segments.getLast? = some s → Path.isIdle s = false := by
    rw [getLast?_segments_again]
    exact h.winding.last
  have hnul : 0 ∉ (again x q).bytes := by
    rw [again, Path.mem_join (by decide) (by decide)]
    exact nul_not_mem_target (FileTree.isWorking_here _) hstands
      (FileTree.follow_of_lookup hq).2.1 h.winding.readable
  exact ⟨_, FileTree.lookup_of_leads hlong hnul hlast hitself⟩

/-- The walk ends in a path that is too long. -/
theorem ends (h : IncludesItself w P x) : ∀ (n : Nat) {q : Path} {within : List Path} {e : Entry},
    FileTree.pathLimit + 2 ≤ q.names.length + n → w.files.lookup q = .found P e →
      (∀ p ∈ within, p.names.length < q.names.length) →
        ∃ q', FileTree.pathLimit < q'.bytes.length ∧ Ends w here within q (.unreadable q')
  -- the induction is on the number of names that a path can still grow by
  | 0, q, within, e, hn, hq, _ => by
    have hcomponents := length_components_le (FileTree.follow_of_lookup hq).1
    rw [Path.components_eq, List.length_append, List.length_map] at hcomponents
    omega
  | n + 1, q, within, e, hn, hq, hwithin => by
    have hmore := h.names_lt (h.reads hq).1
    have hne : ∀ {p q' : Path}, p.names.length < q'.names.length → p.components ≠ q'.components := by
      intro p q' hlt hc
      rw [(Path.names_eq_of_components hc).1] at hlt
      exact Nat.lt_irrefl _ hlt
    have hwithin' : ∀ p ∈ q :: within, p.names.length < (again x q).names.length := by
      intro p hp
      rcases List.mem_cons.1 hp with rfl | hp
      · exact hmore
      · exact (hwithin p hp).trans hmore
    have hnew : ∀ p ∈ within, p.components ≠ q.components := fun p hp => hne (hwithin p hp)
    by_cases hlong : (again x q).bytes.length ≤ FileTree.pathLimit
    · obtain ⟨e', hagain⟩ := h.lookup_again hq hlong
      obtain ⟨q', hq', hends⟩ := h.ends n (by omega) hagain hwithin'
      exact ⟨q', hq', .enters hnew (h.enters hq) hends⟩
    · refine ⟨again x q, Nat.not_le.1 hlong, .enters hnew (h.enters hq) (.stops (fun p hp => ?_) ?_)⟩
      · exact hne (hwithin' p hp)
      · exact .unread (readValue_of_long (Nat.not_le.1 hlong))

end IncludesItself

/-- A document that comes first to including itself by a path of two names or more comes back to
itself at once, and the loader does not notice: it expands the document under longer and longer
paths, and the error is that it cannot read one that is too long. -/
theorem load_unnoticed (w : Workspace) (path : Path) (h : IncludesItself w P x)
    (hcomplete : CompleteAt w here (here.join path))
    (hpath : w.files.lookup (here.join path) = .found P e) :
    Returns w [] (here.join path) (here.join path) (again x (here.join path))
      ∧ ∃ q, FileTree.pathLimit < q.bytes.length
        ∧ load w here path = .error (.unreadable q) := by
  obtain ⟨hstands, -⟩ := h.reads hpath
  have hnone : ∀ p ∈ ([] : List Path), p.names.length < (here.join path).names.length := by simp
  obtain ⟨q, hq, hends⟩ := h.ends (FileTree.pathLimit + 2) (Nat.le_add_left _ _) hpath hnone
  obtain ⟨text, hitself⟩ := h.itself
  rw [← leads_again hstands] at hitself
  refine ⟨.on (by simp) (h.enters hpath) ?_, q, hq,
    (load_eq_error_iff (FileTree.isWorking_here _) hcomplete).2 hends⟩
  exact .back List.mem_cons_self hstands ⟨text, hitself⟩

/-- A home that includes itself through the directory above. -/
def homesFiles : FileTree where
  workingDirectory := ["w"]
  entries := ⟨[(["w", "homes", "home.yaml"],
    .file (some "a: !include ../homes/home.yaml\n"))], by decide⟩

theorem ofText?_homes : Value.ofText? "a: !include ../homes/home.yaml\n"
    = some (.mapping [(.string "a", .tagged "include" (.string "../homes/home.yaml"))]) := by
  decide +kernel

theorem completeAt_homes (q : Path) : CompleteAt ⟨homesFiles, .empty⟩ here q := by
  refine completeAt_of_not_holds fun r u text hr hh => ?_
  obtain ⟨P, source, -, hentry, hu⟩ := standsAt_of_readValue hr
  have hfile := FileTree.mem_of_entry?_file hentry
  simp only [homesFiles, List.mem_cons, Prod.mk.injEq, Entry.file.injEq, Option.some.injEq,
    List.not_mem_nil, or_false] at hfile
  obtain ⟨-, rfl⟩ := hfile
  cases ofText?_homes.symm.trans hu
  exact not_holds_directory hh

theorem includesItself_homes :
    IncludesItself ⟨homesFiles, .empty⟩ ["w", "homes", "home.yaml"] "../homes/home.yaml" where
  winding := by
    refine ⟨by decide +kernel, by decide +kernel, fun s hs => ?_, by decide +kernel⟩
    have hlast : (Path.segments ⟨"../homes/home.yaml"⟩).getLast?
        = some (OsText.ofText "home.yaml").bytes := by decide +kernel
    cases hlast.symm.trans hs
    decide +kernel
  document := ⟨_, _, by decide +kernel, ofText?_homes, fun _ => .pair (.here rfl)⟩
  itself := ⟨some "a: !include ../homes/home.yaml\n", by decide +kernel⟩

theorem load_unnoticed_homes :
    Returns ⟨homesFiles, .empty⟩ [] ⟨"./homes/home.yaml"⟩ ⟨"./homes/home.yaml"⟩
        ⟨"././homes/../homes/home.yaml"⟩
      ∧ ∀ q, load ⟨homesFiles, .empty⟩ here ⟨"homes/home.yaml"⟩ ≠ .error (.circularInclude q) := by
  have hjoin : here.join ⟨"homes/home.yaml"⟩ = ⟨"./homes/home.yaml"⟩ := by decide +kernel
  have hagain : again "../homes/home.yaml" ⟨"./homes/home.yaml"⟩
      = ⟨"././homes/../homes/home.yaml"⟩ := by decide +kernel
  have hpath : homesFiles.lookup (here.join ⟨"homes/home.yaml"⟩)
      = .found ["w", "homes", "home.yaml"]
        (.file (some "a: !include ../homes/home.yaml\n")) := by decide +kernel
  obtain ⟨hreturns, q, -, hload⟩ :=
    load_unnoticed ⟨homesFiles, .empty⟩ ⟨"homes/home.yaml"⟩ includesItself_homes
      (completeAt_homes _) hpath
  rw [hjoin, hagain] at hreturns
  refine ⟨hreturns, fun q' hq' => ?_⟩
  rw [hload] at hq'
  cases hq'

end Unnoticed

end Document

end SmartHome
