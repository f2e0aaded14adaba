import SmartHome.Proofs.Place
import SmartHome.Proofs.Reach

/-!
# Listings of directories

A directory that can be listed has documents (`lists_of_sorted`), and one that cannot has none
(`lists_or_unlisted`). It is listed with those of its documents that its path with their names finds
(`filesIn_of_lists`); if the listing is complete, these are all (`found_eq`).
-/

namespace SmartHome

namespace FileTree

variable {t : FileTree} {D : Place} {n : OsText}

theorem place_of_nameIn? {f : Place × Entry} (h : nameIn? D f = some n) : f.1 = D ++ [n] := by
  rcases f with ⟨key, text | _⟩
  · obtain ⟨name, hlast, hname⟩ := Option.bind_eq_some_iff.1 h
    split_ifs at hname with hplace
    cases hname
    obtain ⟨pre, rfl⟩ := List.getLast?_eq_some_iff.1 hlast
    rw [← hplace, List.dropLast_concat]
  · cases h

/-- The names in a directory are those of the files that are recorded in it. -/
theorem mem_namesIn_iff :
    n ∈ t.namesIn D ↔ ∃ text, t.entries.get? (D ++ [n]) = some (.file text) := by
  rw [namesIn, List.mem_filterMap]
  constructor
  · rintro ⟨⟨P, e⟩, hmem, hname⟩
    obtain rfl : P = D ++ [n] := place_of_nameIn? hname
    rcases e with text | _
    · exact ⟨text, Dict.get?_eq_some_iff.2 hmem⟩
    · cases hname
  · rintro ⟨text, h⟩
    refine ⟨(D ++ [n], .file text), Dict.get?_eq_some_iff.1 h, ?_⟩
    simp [nameIn?]

theorem nodup_namesIn (t : FileTree) (D : Place) : (t.namesIn D).Nodup := by
  have hkeys : t.entries.entries.Pairwise fun f g => f.1 ≠ g.1 :=
    List.pairwise_map.1 t.entries.nodup
  rw [namesIn, List.nodup_iff_pairwise_ne, List.pairwise_filterMap]
  refine hkeys.imp fun {f g} hne n hn m hm hnm => hne ?_
  rw [place_of_nameIn? hn, place_of_nameIn? hm, hnm]

end FileTree

namespace Document

variable {w : Workspace} {folder : Path} {names : List OsText} {place : Place} {access : Access}
  {e : DocumentError}

theorem pairwise_sort_filter (t : FileTree) (place : Place) (p : OsText → Bool) :
    (Sorted.sort OsText.bytes ((t.namesIn place).filter p)).Pairwise (· < ·) := by
  have hbytes : Function.Injective OsText.bytes := fun _ _ h => congrArg OsText.mk h
  exact Sorted.pairwise_lt_sort (((t.nodup_namesIn place).filter p).map hbytes)

/-- Every directory that can be listed has documents, perhaps none. -/
theorem lists_of_sorted (h : w.files.lookup folder = .found place (.directory access))
    (hlist : access.list = true)
    (hnames : Sorted.sort OsText.bytes ((w.files.namesIn place).filter isDocumentName) = names) :
    Lists w folder names := by
  subst hnames
  refine ⟨place, access, h, hlist, pairwise_sort_filter _ _ _, fun n => ?_⟩
  rw [(Sorted.perm_sort _ _).mem_iff, List.mem_filter, isDocumentName_iff]

theorem lists_or_unlisted (w : Workspace) (folder : Path) :
    (∃ names, Lists w folder names) ∨ ∃ e, Unlisted w folder e := by
  by_cases hfolder : ∃ place access, w.files.lookup folder = .found place (.directory access)
  · obtain ⟨place, access, hfolder⟩ := hfolder
    rcases hlist : access.list with _ | _
    · exact .inr ⟨_, .closed hfolder hlist⟩
    · exact .inl ⟨_, lists_of_sorted hfolder hlist rfl⟩
  · exact .inr ⟨_, .absent fun place access h => hfolder ⟨place, access, h⟩⟩

theorem Lists.unabridged_iff (hl : Lists w folder names) :
    Unabridged w folder ↔ ∀ n ∈ names, w.files.isFile (folder.join ⟨n⟩) = true := by
  constructor
  · exact fun h => h names hl
  · intro h names' hl'
    cases hl.unique hl'
    exact h

/-- Of names, those that the directory's path with the name leads to a file by. -/
def found (w : Workspace) (folder : Path) (names : List OsText) : List OsText :=
  names.filter fun n => w.files.isFile (folder.join ⟨n⟩)

theorem found_eq (h : Unabridged w folder) (hl : Lists w folder names) :
    found w folder names = names :=
  List.filter_eq_self.2 (hl.unabridged_iff.1 h)

/-- Where there is no room for the names, no document is found. -/
theorem found_of_long
    (h : ∀ n ∈ names, FileTree.pathLimit < (folder.join ⟨n⟩).bytes.length) :
    found w folder names = [] := by
  refine List.filter_eq_nil_iff.2 fun n hn => ?_
  rw [FileTree.isFile, FileTree.lookup_of_long (h n hn)]
  exact Bool.false_ne_true

theorem mem_of_mem_found {n : OsText} (h : n ∈ found w folder names) : n ∈ names :=
  List.mem_of_mem_filter h

/-- Of the documents of a directory, those are listed that are found. -/
theorem filesIn_of_lists (hl : Lists w folder names) : filesIn w.files folder
    = .ok ((found w folder names).map fun n => (n, folder.join ⟨n⟩)) := by
  obtain ⟨place, access, hfolder, hlist, hsorted, hmem⟩ := hl
  have hsame : Sorted.sort OsText.bytes ((w.files.namesIn place).filter fun n =>
      w.files.isFile (folder.join ⟨n⟩) && isDocumentName n) = found w folder names := by
    refine (pairwise_sort_filter _ _ _).eq_of_mem_iff (hsorted.filter _) fun n => ?_
    rw [(Sorted.perm_sort _ _).mem_iff, found, List.mem_filter, List.mem_filter, hmem,
      ← isDocumentName_iff, Bool.and_eq_true, and_assoc, and_comm (a := _ = true)]
  simp only [filesIn, FileTree.isDirectory, FileTree.names?, hfolder, hlist, if_true, hsame]

theorem filesIn_of_unlisted (h : Unlisted w folder e) : filesIn w.files folder = .error e := by
  cases h with
  | absent hnone =>
    have hnot : w.files.isDirectory folder = false := by
      rw [FileTree.isDirectory]
      split
      · rename_i hq
        exact absurd hq (hnone _ _)
      · rfl
    simp only [filesIn, hnot, Bool.false_eq_true, if_false]
  | closed hfolder hlist =>
    simp only [filesIn, FileTree.isDirectory, FileTree.names?, hfolder, hlist, if_true,
      Bool.false_eq_true, if_false]

theorem filesIn_eq_ok {files : List (OsText × Path)} (h : filesIn w.files folder = .ok files) :
    ∃ names, Lists w folder names
      ∧ files = (found w folder names).map fun n => (n, folder.join ⟨n⟩) := by
  obtain ⟨names, hl⟩ | ⟨e, hu⟩ := lists_or_unlisted w folder
  · exact ⟨names, hl, Except.ok.inj (h.symm.trans (filesIn_of_lists hl))⟩
  · rw [filesIn_of_unlisted hu] at h
    cases h

theorem filesIn_eq_error_iff : filesIn w.files folder = .error e ↔ Unlisted w folder e := by
  refine ⟨fun h => ?_, filesIn_of_unlisted⟩
  obtain ⟨names, hl⟩ | ⟨e', hu⟩ := lists_or_unlisted w folder
  · rw [filesIn_of_lists hl] at h
    cases h
  · rw [filesIn_of_unlisted hu] at h
    cases h
    exact hu

end Document

end SmartHome
