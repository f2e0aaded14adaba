import SmartHome.Proofs.Inclusion

/-!
# Documents by other paths

What a document stands for is a matter of the files, and not of the paths to them: a value that
stands for something as part of a document stands for the same under every other path to the
document, read from every base that is the working directory (`Expands.elsewhere`), as far as paths
are not too long to be looked up.
-/

namespace SmartHome

namespace Document

open Yaml (Value)

variable {w : Workspace} {base base' folder folder' q q' s s' : Path} {P D : Place} {u v : Value}

theorem nul_not_mem_of_readValue (h : readValue w q = .ok v) : 0 ∉ q.bytes := by
  obtain ⟨P, text, hP, -⟩ := readValue_eq_ok_iff.1 h
  exact (FileTree.follow_of_lookup hP).2.1

/-- The paths lead to one place and end in the same piece. -/
structure Agree (t : FileTree) (q q' : Path) : Prop where
  leads : t.leads t.workingDirectory q' = t.leads t.workingDirectory q
  last : q'.segments.getLast? = q.segments.getLast?
  nul : 0 ∉ q.bytes → 0 ∉ q'.bytes

theorem Agree.refl (t : FileTree) (q : Path) : Agree t q q := ⟨rfl, rfl, id⟩

theorem Agree.trans {t : FileTree} {r : Path} (h : Agree t q q') (h' : Agree t q' r) :
    Agree t q r :=
  ⟨h'.leads.trans h.leads, h'.last.trans h.last, h'.nul ∘ h.nul⟩

theorem agree_join (hb : w.files.IsWorking base) (q : Path) : Agree w.files q (base.join q) where
  leads := FileTree.leads_working_join hb q
  last := Path.getLast?_segments_join base q
  nul := by
    rw [Path.mem_join (by decide) hb.nul]
    exact id

theorem Agree.readValue (hagree : Agree w.files q q') (h : readValue w q = .ok v)
    (hshort : IsShort q') : Document.readValue w q' = .ok v
      ∧ ∃ P, StandsAt w.files q P ∧ StandsAt w.files q' P := by
  have hnul := hagree.nul (nul_not_mem_of_readValue h)
  obtain ⟨P, text, hP, hv⟩ := readValue_eq_ok_iff.1 h
  have hP' := FileTree.lookup_of_leads_eq hP hagree.leads hagree.last hshort hnul
  exact ⟨readValue_eq_ok_iff.2 ⟨P, text, hP', hv⟩, P, ⟨_, FileTree.leads_of_lookup hP⟩,
    ⟨_, FileTree.leads_of_lookup hP'⟩⟩

section Elsewhere

variable (hb : w.files.IsWorking base) (hb' : w.files.IsWorking base')

include hb'

theorem nul_not_mem_target (hs' : StandsAt w.files s' P) (hnul : 0 ∉ s'.bytes) {text : String}
    (htext : 0 ∉ Path.bytes ⟨text⟩) : 0 ∉ (target base' s' text).bytes := by
  obtain ⟨file, hs'⟩ := hs'
  have hdirectory : 0 ∉ (directoryOf base' s').bytes :=
    FileTree.not_mem_directoryOf (by decide) (by decide) (FileTree.names_ne_nil hs') hb'.nul hnul
  rwa [target, Path.mem_join (by decide) hdirectory]

include hb

/-- A path in a document names the same document, however the document is written. -/
theorem agree_target (hs : StandsAt w.files s P) (hs' : StandsAt w.files s' P)
    (hnul : 0 ∉ s'.bytes) (text : String) :
    Agree w.files (base.join (target base s text)) (base'.join (target base' s' text)) where
  leads := by
    rw [FileTree.leads_working_join hb, FileTree.leads_working_join hb', leads_target hb hs,
      leads_target hb' hs']
  last := by simp only [target, Path.getLast?_segments_join]
  nul := by
    intro htext
    rw [Path.mem_join (by decide) hb'.nul]
    refine nul_not_mem_target hb' hs' hnul fun hmem => htext ?_
    exact Path.mem_join_of_mem (Path.mem_join_of_mem hmem)

theorem agree_documentIn {access : Access}
    (hf : w.files.lookup folder = .found D (.directory access))
    (hf' : w.files.lookup folder' = .found D (.directory access)) (n : OsText) :
    Agree w.files (documentIn base folder n) (documentIn base' folder' n) where
  leads := by
    rw [leads_documentIn hb (FileTree.leads_of_lookup hf),
      leads_documentIn hb' (FileTree.leads_of_lookup hf')]
  last := by simp only [documentIn, Path.getLast?_segments_join]
  nul := by
    intro hn
    rw [documentIn, Path.mem_join (by decide) hb'.nul,
      Path.mem_join (by decide) (FileTree.follow_of_lookup hf').2.1]
    exact fun hmem => hn (Path.mem_join_of_mem (Path.mem_join_of_mem hmem))

/-- A path in a document finds the same directory, however the document is written. -/
theorem lookup_target (hs : StandsAt w.files s P) (hs' : StandsAt w.files s' P)
    (hnul : 0 ∉ s'.bytes) {text : String} {access : Access}
    (h : w.files.lookup (target base s text) = .found D (.directory access))
    (hshort : IsShort (target base' s' text)) :
    w.files.lookup (target base' s' text) = .found D (.directory access) := by
  obtain ⟨hlong, hnul₀, -⟩ := FileTree.follow_of_lookup h
  have htext : 0 ∉ Path.bytes ⟨text⟩ := fun hmem => hnul₀ (Path.mem_join_of_mem hmem)
  have hnul' := nul_not_mem_target hb' hs' hnul htext
  have hne := fun {b : Path} (hb : w.files.IsWorking b) (s : Path) =>
    Path.bytes_join_ne_nil (p := ⟨text⟩) (FileTree.bytes_directoryOf_ne_nil hb.nonempty s)
  have hleads := FileTree.leads_of_lookup h
  rw [leads_target hb hs, ← leads_target hb' hs'] at hleads
  by_cases hnames : Path.names ⟨text⟩ = []
  · rcases habs : Path.isAbsolute ⟨text⟩ with _ | _
    · -- the path names the directory of the document, and that can be gone through
      obtain ⟨file, hfile⟩ := hs'
      obtain ⟨a, hdirectory, hsearch⟩ := FileTree.leads_directoryOf hb' hfile
      have habove := hleads
      rw [leads_target hb' ⟨file, hfile⟩, FileTree.leads_of_names_nil hnames habs
        (FileTree.entry?_of_leads hdirectory)] at habove
      cases habove
      exact FileTree.lookup_directory_of_leads hshort hnul' (hne hb' s') hleads hsearch
    · rw [target, Path.join_of_isAbsolute habs] at h ⊢
      exact h
  · have hending : Path.ending (target base' s' text).segments
        = Path.ending (target base s text).segments := by
      rw [target, target, Path.ending_segments_join _ hnames, Path.ending_segments_join _ hnames]
    rw [FileTree.lookup_eq hshort hnul' (hne hb' s') hleads, hending,
      ← FileTree.lookup_eq hlong hnul₀ (hne hb s) (FileTree.leads_of_lookup h), h]

/-- A value stands for the same in the document by another path. -/
theorem Expands.elsewhere (h : Expands w base s v u) :
    ∀ {s' P}, StandsAt w.files s P → StandsAt w.files s' P → 0 ∉ s'.bytes →
      Fits w base' s' v → Expands w base' s' v u := by
  -- the place is general: included documents have paths and places of their own
  induction h with
  | scalar hv => exact fun _ _ _ _ => .scalar hv
  | nil => exact fun _ _ _ _ => .nil
  | item _ _ ihv ihvs =>
    intro s' P hs hs' hnul hfits
    exact .item (ihv hs hs' hnul (hfits.of_holds fun _ _ => .item List.mem_cons_self))
      (ihvs hs hs' hnul (hfits.of_holds fun _ _ => Holds.of_tail_items))
  | empty => exact fun _ _ _ _ => .empty
  | pair _ _ ihv ihps =>
    intro s' P hs hs' hnul hfits
    exact .pair (ihv hs hs' hnul (hfits.of_holds fun _ _ => .pair List.mem_cons_self))
      (ihps hs hs' hnul (hfits.of_holds fun _ _ => Holds.of_tail_pairs))
  | other ht _ ih =>
    intro s' P hs hs' hnul hfits
    exact .other ht (ih hs hs' hnul (hfits.of_holds fun _ _ => .under ht))
  | @document s _ text v _ ht hr _ ih =>
    intro s' P hs hs' hnul hfits
    obtain ⟨hshort, hfits'⟩ := hfits.step (.here ht) .document
    obtain ⟨hr', Q, hQ, hQ'⟩ := (agree_target hb hb' hs hs' hnul text).readValue hr hshort
    exact .document ht hr' (ih hQ hQ' (nul_not_mem_of_readValue hr') (hfits' _ hr'))
  | @directory s _ text names v u ht hl hr _ ih =>
    intro s' P hs hs' hnul hfits
    obtain ⟨D, access, hf, -⟩ := id hl
    have hf' := lookup_target hb hb' hs hs' hnul hf (hfits.directory _ _ .refl _ (.here ht))
    have hl' := lists_of_lookup hl hf hf'
    have hdocuments : ∀ n ∈ names, readValue w (documentIn base' (target base' s' text) n)
        = .ok (v n) ∧ Expands w base' (documentIn base' (target base' s' text) n) (v n) (u n) := by
      intro n hn
      obtain ⟨hshort, hfits'⟩ := hfits.step (.here ht) (.member hl' hn)
      obtain ⟨hr', Q, hQ, hQ'⟩ := (agree_documentIn hb hb' hf hf' n).readValue (hr n hn) hshort
      exact ⟨hr', ih n hn hQ hQ' (nul_not_mem_of_readValue hr') (hfits' _ hr')⟩
    exact .directory ht hl' (fun n hn => (hdocuments n hn).1) fun n hn => (hdocuments n hn).2
  | environment ht hget => exact fun _ _ _ _ => .environment ht hget

/-- A document stands for the same by every path that leads to it. -/
theorem Yields.elsewhere (h : Yields w base q u) (hagree : Agree w.files q q')
    (hfits : FitsAt w base' q') : Yields w base' q' u := by
  obtain ⟨v, hr, hv⟩ := h
  obtain ⟨hr', P, hP, hP'⟩ := hagree.readValue hr hfits.1
  exact ⟨v, hr', hv.elsewhere hb hb' hP hP' (nul_not_mem_of_readValue hr') (hfits.2 v hr')⟩

end Elsewhere

end Document

end SmartHome
