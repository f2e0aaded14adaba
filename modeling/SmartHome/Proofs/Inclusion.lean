import Mathlib.Logic.Relation
import SmartHome.Proofs.Loading

/-!
# Documents that include each other

A document includes the files that its directives name (`Includes`), a file being its place in the
tree: the names of a path are followed from the place above the document, and it does not matter how
the document's own path is written (`leads_target`). The documents that a document mentions are
included by it (`includes_of_mentions`), so the documents under expansion lead to the one that is
opened (`Leading`), and one that is opened again is on a cycle (`Leading.cycle`). A document that
stands for something is on none (`Yields.grounded`), and no listing on the way from it leaves a
document out (`Yields.completeAt`).

So a document that stands for something is loaded as that (`Yields.load_eq`). If the listings on the
way are complete, loading gives exactly what a document stands for (`load_eq_ok_iff`), or the error
in which the walk through it ends (`load_eq_error_iff`).
-/

namespace SmartHome

namespace Document

open Yaml (Value)
open Relation (TransGen ReflTransGen)

/-- The path names the file at a place, from another place. -/
def FileAt (t : FileTree) (place : Place) (p : Path) (Q : Place) : Prop :=
  ∃ text, t.leads place p = .found Q (.file text)

/-- The document at a path is the file at a place. -/
abbrev StandsAt (t : FileTree) (q : Path) (P : Place) : Prop := FileAt t t.workingDirectory q P

/-- A directive in the document at a place names a file. -/
inductive Names (t : FileTree) (P : Place) : Directive → Value → Place → Prop
  | document {text : String} {Q} : FileAt t P.dropLast ⟨text⟩ Q →
      Names t P .document (.string text) Q
  | directory {text : String} {D access n Q} :
      t.leads P.dropLast ⟨text⟩ = .found D (.directory access) → n ∈ t.namesIn D → IsDocument n →
      FileAt t D ⟨n⟩ Q → Names t P .directory (.string text) Q

/-- The document at a place includes the file at another: a directive in it names the file. -/
def Includes (t : FileTree) (P Q : Place) : Prop :=
  ∃ text v d a, t.entry? P = some (.file (some text)) ∧ Value.ofText? text = some v
    ∧ Holds v d a ∧ Names t P d a Q

variable {w : Workspace} {t : FileTree} {P Q D : Place} {base p q q' s : Path} {u v a : Value}
  {d : Directive} {e : DocumentError} {within : List Path}

theorem FileAt.unique {place : Place} (h : FileAt t place p P) (h' : FileAt t place p Q) :
    P = Q := by
  obtain ⟨text, h⟩ := h
  obtain ⟨text', h'⟩ := h'
  rw [h] at h'
  cases h'
  rfl

theorem FileAt.congr {place : Place} (h : FileAt t place p P) (hc : p.components = q.components) :
    FileAt t place q P := by
  obtain ⟨hn, ha⟩ := Path.names_eq_of_components hc
  obtain ⟨text, h⟩ := h
  rw [FileTree.leads_congr hn ha] at h
  exact ⟨text, h⟩

theorem standsAt_of_readValue (h : readValue w q = .ok v) : ∃ P text, StandsAt w.files q P
    ∧ w.files.entry? P = some (.file (some text)) ∧ Value.ofText? text = some v := by
  obtain ⟨P, text, hP, hv⟩ := readValue_eq_ok_iff.1 h
  have hleads := FileTree.leads_of_lookup hP
  exact ⟨P, text, ⟨_, hleads⟩, FileTree.entry?_of_leads hleads, hv⟩

theorem standsAt_of_mentions (h : Mentions w base q q') :
    ∃ P, StandsAt w.files q P := by
  obtain ⟨v, d, a, hr, -⟩ := h
  obtain ⟨P, -, hP, -⟩ := standsAt_of_readValue hr
  exact ⟨P, hP⟩

theorem readValue_ne_circular (p : Path) : readValue w q ≠ .error (.circularInclude p) := by
  intro h
  rw [readValue, readText] at h
  rcases hq : w.files.lookup q with _ | _ | ⟨place, (_ | text) | _⟩ <;> rw [hq] at h
  case found.file.some =>
    rcases hv : Value.ofText? text with _ | v <;> simp [hv, bind, Except.bind] at h
  all_goals cases h

section Here

theorem names_here_join (p : Path) : (here.join p).names = p.names
    ∧ (here.join p).isAbsolute = p.isAbsolute := by
  rcases hp : p.isAbsolute with _ | _
  · rw [Path.names_join hp, Path.isAbsolute_join hp]
    exact ⟨rfl, rfl⟩
  · rw [Path.join_of_isAbsolute hp, hp]
    exact ⟨rfl, rfl⟩

theorem names_target {text : String} (hs : s.names ≠ []) (htext : Path.isAbsolute ⟨text⟩ = false) :
    (target here s text).names = s.names.dropLast ++ Path.names ⟨text⟩ := by
  rw [target, Path.names_join htext, (FileTree.names_directoryOf hs).1]

end Here

section Working

variable (hb : w.files.IsWorking base)

include hb

/-- A path in a document leads to where it leads from the place above the document. -/
theorem leads_target (hs : StandsAt w.files s P) (text : String) :
    w.files.leads w.files.workingDirectory (target base s text)
      = w.files.leads P.dropLast ⟨text⟩ := by
  obtain ⟨text', hs⟩ := hs
  obtain ⟨access, hdirectory, -⟩ := FileTree.leads_directoryOf hb hs
  exact FileTree.leads_join hdirectory

theorem leads_documentIn {folder : Path} {access : Access}
    (hf : w.files.leads w.files.workingDirectory folder = .found D (.directory access))
    (n : OsText) :
    w.files.leads w.files.workingDirectory (documentIn base folder n) = w.files.leads D ⟨n⟩ := by
  rw [documentIn, FileTree.leads_working_join hb]
  exact FileTree.leads_join hf

theorem includes_of_mentions (hm : Mentions w base q q') (hq : StandsAt w.files q P)
    (hq' : StandsAt w.files q' Q) : Includes w.files P Q := by
  obtain ⟨v, d, a, hr, hh, hc⟩ := hm
  obtain ⟨P', text, hP', hentry, hv⟩ := standsAt_of_readValue hr
  cases hq.unique hP'
  refine ⟨text, v, d, a, hentry, hv, hh, ?_⟩
  obtain ⟨text', hq'⟩ := hq'
  cases hc with
  | document =>
    rw [FileTree.leads_working_join hb, leads_target hb hq] at hq'
    exact .document ⟨text', hq'⟩
  | @member text names n hl hn =>
    obtain ⟨D, access, hD, -, -, hmem⟩ := hl
    have hfolder := FileTree.leads_of_lookup hD
    obtain ⟨hn, hdoc⟩ := (hmem n).1 hn
    rw [leads_documentIn hb hfolder] at hq'
    rw [leads_target hb hq] at hfolder
    exact .directory hfolder hn hdoc ⟨text', hq'⟩

end Working

section Accessible

/-- Whatever the document at a place includes, directly or through others, comes to an end. -/
def Grounded (t : FileTree) (P : Place) : Prop := Acc (fun Q P => Includes t P Q) P

theorem Grounded.not_cycle (h : Grounded t P) : ¬ TransGen (Includes t) P P := by
  induction h with
  | intro P _ ih =>
    intro hcycle
    obtain ⟨Q, hQ, hback⟩ := TransGen.head'_iff.1 hcycle
    exact ih Q hQ (TransGen.tail' hback hQ)

theorem grounded_of_names (hr : readValue w q = .ok v) (hq : StandsAt w.files q P)
    (h : ∀ d a Q, Holds v d a → Names w.files P d a Q → Grounded w.files Q) :
    Grounded w.files P := by
  refine .intro P fun Q hQ => ?_
  obtain ⟨text, v', d, a, hentry, hv', hholds, hnames⟩ := hQ
  obtain ⟨P', text', hP', hentry', hv⟩ := standsAt_of_readValue hr
  cases hq.unique hP'
  rw [hentry] at hentry'
  cases hentry'
  rw [hv'] at hv
  cases hv
  exact h d a Q hholds hnames

/-- Whatever a directive in a value that stands for something names comes to an end. -/
theorem grounded_of_expands (hb : w.files.IsWorking base) (h : Expands w base s v u) :
    ∀ {P}, StandsAt w.files s P →
    ∀ d a Q, Holds v d a → Names w.files P d a Q → Grounded w.files Q := by
  induction h with
  | scalar hv =>
    intro P _ d a Q hholds
    cases hholds <;> exact hv.elim
  | nil =>
    intro P _ d a Q hholds
    cases hholds with
    | item hmem => cases hmem
  | item _ _ ihv ihvs =>
    intro P hs d a Q hholds
    cases hholds with
    | item hmem hh =>
      rcases List.mem_cons.1 hmem with rfl | hmem
      · exact ihv hs d a Q hh
      · exact ihvs hs d a Q (.item hmem hh)
  | empty =>
    intro P _ d a Q hholds
    cases hholds with
    | pair hmem => cases hmem
  | pair _ _ ihv ihps =>
    intro P hs d a Q hholds
    cases hholds with
    | pair hmem hh =>
      rcases List.mem_cons.1 hmem with heq | hmem
      · cases heq
        exact ihv hs d a Q hh
      · exact ihps hs d a Q (.pair hmem hh)
  | other ht _ ih =>
    intro P hs d a Q hholds
    cases hholds with
    | here ht' => simp [ht] at ht'
    | under _ hh => exact ih hs d a Q hh
  | document ht hr _ ih =>
    intro P hs d a Q hholds hnames
    obtain ⟨rfl, rfl⟩ := hholds.eq_of_tagged ht
    cases hnames with
    | document hQ =>
      obtain ⟨text, hQ⟩ := hQ
      rw [← leads_target hb hs, ← FileTree.leads_working_join hb] at hQ
      exact grounded_of_names hr ⟨text, hQ⟩ (ih ⟨text, hQ⟩)
  | directory ht hl hr _ ih =>
    intro P hs d a Q hholds hnames
    obtain ⟨rfl, rfl⟩ := hholds.eq_of_tagged ht
    cases hnames with
    | @directory _ D access n _ hD hn hdoc hQ =>
      obtain ⟨D', access', hD', -, -, hmem⟩ := hl
      have hfolder := FileTree.leads_of_lookup hD'
      rw [leads_target hb hs, hD] at hfolder
      cases hfolder
      obtain ⟨text, hQ⟩ := hQ
      rw [← leads_documentIn hb (FileTree.leads_of_lookup hD')] at hQ
      have hmember := (hmem n).2 ⟨hn, hdoc⟩
      exact grounded_of_names (hr n hmember) ⟨text, hQ⟩ (ih n hmember ⟨text, hQ⟩)
  | environment ht =>
    intro P _ d a Q hholds hnames
    obtain ⟨rfl, rfl⟩ := hholds.eq_of_tagged ht
    cases hnames

theorem Yields.grounded (h : Yields w base q u) (hb : w.files.IsWorking base)
    (hq : StandsAt w.files q P) : Grounded w.files P := by
  obtain ⟨v, hr, hv⟩ := h
  exact grounded_of_names hr hq (grounded_of_expands hb hv hq)

end Accessible

/-- Every document under expansion includes the one at the path, directly or through others. -/
def Leading (t : FileTree) (within : List Path) (q : Path) : Prop :=
  ∀ p ∈ within, ∃ P, StandsAt t p P ∧ ∀ Q, StandsAt t q Q → TransGen (Includes t) P Q

theorem Leading.nil (t : FileTree) (q : Path) : Leading t [] q := by
  intro p hp
  cases hp

theorem Leading.cons (h : Leading w.files within q) (hb : w.files.IsWorking base)
    (hm : Mentions w base q q') : Leading w.files (q :: within) q' := by
  obtain ⟨P, hP⟩ := standsAt_of_mentions hm
  have hlast : ∀ Q, StandsAt w.files q' Q → Includes w.files P Q := fun Q hQ =>
    includes_of_mentions hb hm hP hQ
  intro p hp
  rcases List.mem_cons.1 hp with rfl | hp
  · exact ⟨P, hP, fun Q hQ => .single (hlast Q hQ)⟩
  · obtain ⟨R, hR, hchain⟩ := h p hp
    exact ⟨R, hR, fun Q hQ => .tail (hchain P hP) (hlast Q hQ)⟩

/-- A document that is under expansion already is on a cycle. -/
theorem Leading.cycle (h : Leading t within q) (hp : p ∈ within) (hP : StandsAt t p P)
    (hq : StandsAt t q P) : TransGen (Includes t) P P := by
  obtain ⟨R, hR, hchain⟩ := h p hp
  rw [hR.unique hP] at hchain
  exact hchain P hq

theorem Leading.cycle_of_components (h : Leading t within q) (hp : p ∈ within)
    (hc : p.components = q.components) :
    ∃ P, StandsAt t q P ∧ TransGen (Includes t) P P := by
  obtain ⟨P, hP, hchain⟩ := h p hp
  have hq : StandsAt t q P := FileAt.congr hP hc
  exact ⟨P, hq, hchain P hq⟩

section Found

/-- A document in a directory is found by the directory's path if it can be read from the working
directory. -/
theorem isFile_of_readValue (hb : w.files.IsWorking base) (h : readValue w (base.join p) = .ok v) :
    w.files.isFile p = true := by
  obtain ⟨P, text, hP, -⟩ := readValue_eq_ok_iff.1 h
  obtain ⟨hlong, hnul, -⟩ := FileTree.follow_of_lookup hP
  have hlookup := FileTree.lookup_of_leads_eq (q := p) hP (FileTree.leads_working_join hb p).symm
    (Path.getLast?_segments_join base p).symm (Nat.le_trans (Path.length_le_join base p) hlong)
    fun hmem => hnul (Path.mem_join_of_mem hmem)
  rw [FileTree.isFile, hlookup]

/-- Where a value stands for something, no listing on the way leaves a document out. -/
theorem Expands.complete (h : Expands w base s v u) (hb : w.files.IsWorking base) :
    Complete w base s v := by
  intro q a hreach text hh names hl n hn
  obtain ⟨x, hx⟩ := hreach.expands h
  obtain ⟨y, z, hr, -⟩ := (Cites.member hl hn).yields (hh.stands hx)
  exact isFile_of_readValue hb hr

theorem Yields.completeAt (h : Yields w base q u) (hb : w.files.IsWorking base) :
    CompleteAt w base q := by
  obtain ⟨v, hr, hv⟩ := h
  intro v' hr'
  cases hr.symm.trans hr'
  exact hv.complete hb

end Found

section Complete

variable (hb : w.files.IsWorking base)

include hb

theorem Ends.not_yields (h : Ends w base within q e) (hl : Leading w.files within q) :
    ∀ u, ¬ Yields w base q u := by
  induction h with
  | again hp hc =>
    intro u hu
    obtain ⟨P, hP, hcycle⟩ := hl.cycle_of_components hp hc
    exact (hu.grounded hb hP).not_cycle hcycle
  | stops _ hs => exact fun u => hs.not_yields
  | enters _ he _ ih =>
    intro u hu
    obtain ⟨u', hu'⟩ := he.yields hu
    exact ih (hl.cons hb (mentions_of_enters he)) u' hu'

theorem Ends.unique {e' : DocumentError} (h : Ends w base within q e)
    (h' : Ends w base within q e') (hl : Leading w.files within q) : e = e' := by
  have fails : ∀ {within q q' e}, Ends w base (q :: within) q' e → Enters w base q q' →
      Leading w.files within q → ∀ u, ¬ Yields w base q' u :=
    fun h he hl => h.not_yields hb (hl.cons hb (mentions_of_enters he))
  induction h with
  | again hp hc => cases h' with
    | again => rfl
    | stops hnew | enters hnew => exact absurd hc (hnew _ hp)
  | stops hnew hs => cases h' with
    | again hp hc => exact absurd hc (hnew _ hp)
    | stops _ hs' => exact hs.unique hs'
    | enters _ he' h' => exact (hs.not_enters he' (fails h' he' hl)).elim
  | enters hnew he h ih => cases h' with
    | again hp hc => exact absurd hc (hnew _ hp)
    | stops _ hs' => exact (hs'.not_enters he (fails h he hl)).elim
    | enters _ he' h' =>
      cases he.unique he' (fails h he hl) (fails h' he' hl)
      exact ih h' (hl.cons hb (mentions_of_enters he))

/-- A document that stands for something is loaded as that. -/
theorem Yields.load_eq {path : Path} (h : Yields w base (base.join path) u) :
    load w base path = .ok u := by
  have hcomplete := h.completeAt hb
  rcases hload : load w base path with e | u'
  · exact ((ends_of_load hcomplete hload).not_yields hb (.nil _ _) u h).elim
  · rw [(yields_of_load hcomplete hload).unique h]

/-- A document is loaded as what it stands for, and loaded if it stands for anything. -/
theorem load_eq_ok_iff {path : Path} (hcomplete : CompleteAt w base (base.join path)) :
    load w base path = .ok u ↔ Yields w base (base.join path) u :=
  ⟨yields_of_load hcomplete, fun h => h.load_eq hb⟩

/-- A value in a document that is not under expansion is expanded as what it stands for. -/
theorem expand_load_eq_ok_iff (hcomplete : Complete w base s v) :
    expand w base (load w base) s v = .ok u ↔ Expands w base s v u := by
  have hl : Faithful w base (load w base) s v :=
    .of_complete hcomplete fun _ _ => yields_of_load
  refine ⟨expand_ok hl, fun h => ?_⟩
  rcases hexpand : expand w base (load w base) s v with e | u'
  · obtain ⟨d, a, hc, hfaulty | ⟨p, hopens, herror⟩⟩ := expand_error hl hexpand
    · exact (hfaulty.not_stands (hc.stands h)).elim
    · obtain ⟨u', hu'⟩ := hopens.yields (hc.stands h)
      cases (hu'.load_eq hb).symm.trans herror
  · rw [(expand_ok hl hexpand).unique h]

/-- A document is not loaded if the walk through it ends in an error, and this is the error. -/
theorem load_eq_error_iff {path : Path} (hcomplete : CompleteAt w base (base.join path)) :
    load w base path = .error e ↔ Ends w base [] (base.join path) e := by
  refine ⟨ends_of_load hcomplete, fun h => ?_⟩
  rcases hload : load w base path with e' | u
  · rw [(ends_of_load hcomplete hload).unique hb h (.nil _ _)]
  · exact (h.not_yields hb (.nil _ _) u (yields_of_load hcomplete hload)).elim

end Complete

end Document

end SmartHome
