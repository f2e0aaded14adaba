import SmartHome.Proofs.Alike
import SmartHome.Proofs.DeclaredTypes
import SmartHome.Proofs.Registered

/-!
# Which directories give a registry

The documents of a directory are the files in it whose names have one of the two extensions behind
something else (`Documents`); they are read in the order of their names. The listing leaves out
those that cannot be looked up, which in a sound tree are all of them if the directory cannot be
gone through, and else those whose paths are too long (`isFile_join_iff`, `unabridged_iff_of_sound`).

A document that offends is one that cannot be added to the registry of those before it
(`offends_iff`). So the registry has one type for each document, or none of this comes about and
the first document that offends decides the error (`exists_readNames_iff`,
`readNames_eq_error_iff`). The documents, and what is reached from them, are all that counts
(`ofDirectory_exact`); but a directory whose path leaves no room for a name seems to have none
(`ofDirectory_padded`).
-/

namespace SmartHome

namespace FileTree

/-- Something in a directory can have the name. -/
structure IsName (n : OsText) : Prop where
  named : n ≠ "" ∧ n ≠ "." ∧ n ≠ ".."
  separate : Path.slash ∉ n.bytes ∧ 0 ∉ n.bytes
  size : n.bytes.length ≤ nameLimit

instance (n : OsText) : Decidable (IsName n) :=
  decidable_of_iff ((n ≠ "" ∧ n ≠ "." ∧ n ≠ "..") ∧ (Path.slash ∉ n.bytes ∧ 0 ∉ n.bytes)
    ∧ n.bytes.length ≤ nameLimit) ⟨fun h => ⟨h.1, h.2.1, h.2.2⟩, fun h => ⟨h.1, h.2, h.3⟩⟩

/-- A file is recorded for the place. -/
def hasFile (t : FileTree) (P : Place) : Bool :=
  match t.entries.get? P with
  | some (.file _) => true
  | _ => false

/-- All that is in the tree has names, and files have nothing below them. -/
structure Sound (t : FileTree) : Prop where
  names : ∀ P ∈ t.entries.keys, ∀ n ∈ P, IsName n
  files : ∀ P ∈ t.entries.keys, t.hasFile P = true → t.hasBelow P = false

instance (t : FileTree) : Decidable t.Sound :=
  decidable_of_iff ((∀ P ∈ t.entries.keys, ∀ n ∈ P, IsName n)
    ∧ ∀ P ∈ t.entries.keys, t.hasFile P = true → t.hasBelow P = false)
    ⟨fun h => ⟨h.1, h.2⟩, fun h => ⟨h.1, h.2⟩⟩

variable {t : FileTree} {folder : Path} {D : Place} {n : OsText} {text : Option String}
  {access : Access}

theorem IsName.segments (hn : IsName n) : Path.segments ⟨n⟩ = [n.bytes] :=
  Split.splitAll_of_not_mem hn.separate.1

theorem IsName.isIdle (hn : IsName n) : Path.isIdle n.bytes = false := by
  have hempty : n.bytes ≠ [] := fun h => hn.named.1 (congrArg OsText.mk h)
  have hdot : n.bytes ≠ [Path.dot] := fun h => hn.named.2.1 (congrArg OsText.mk h)
  simp [Path.isIdle, hempty, hdot]

theorem IsName.isAbsolute (hn : IsName n) : Path.isAbsolute ⟨n⟩ = false := by
  refine Bool.eq_false_iff.2 fun h => hn.separate.1 ?_
  exact List.mem_of_mem_head? (of_decide_eq_true h)

/-- A name leads down from a directory that can be gone through. -/
theorem leads_name (hn : IsName n) (hD : t.entry? D = some (.directory access)) :
    t.leads D ⟨n⟩ = if access.search then t.follow (D ++ [n]) [] else .unusable := by
  have hempty : n.bytes ≠ [] := fun h => hn.named.1 (congrArg OsText.mk h)
  have hdot : n.bytes ≠ [Path.dot] := fun h => hn.named.2.1 (congrArg OsText.mk h)
  have hup : n.bytes ≠ [Path.dot, Path.dot] := fun h => hn.named.2.2 (congrArg OsText.mk h)
  have hnames : Path.names ⟨n⟩ = [n.bytes] := by
    rw [Path.names, hn.segments, Path.named, List.filter_cons, hn.isIdle]
    rfl
  rw [leads, hnames, hn.isAbsolute]
  rcases hsearch : access.search with _ | _ <;>
    simp [follow, hD, hempty, hdot, hup, hsearch, Nat.not_lt.2 hn.size]

/-- A file in a directory is found by the directory's path with its name, if the directory can be
gone through and the path is not too long. -/
theorem isFile_join_iff (ht : t.Sound) (hfolder : t.lookup folder = .found D (.directory access))
    (h : t.entries.get? (D ++ [n]) = some (.file text)) : t.isFile (folder.join ⟨n⟩) = true
      ↔ access.search = true ∧ (folder.join ⟨n⟩).bytes.length ≤ pathLimit := by
  have hkey := Dict.mem_keys_iff.2 ⟨_, h⟩
  have hn : IsName n := ht.names _ hkey n (by simp)
  have hleads : t.leads t.workingDirectory (folder.join ⟨n⟩)
      = if access.search then .found (D ++ [n]) (.file text) else .unusable := by
    have hD := entry?_of_follow (follow_of_lookup hfolder).2.2
    have hbelow := ht.files _ hkey (by rw [hasFile, h])
    rw [leads_join (leads_of_lookup hfolder), leads_name hn hD, follow, FileTree.entry?, hbelow]
    simp [h]
  have hnul : 0 ∉ (folder.join ⟨n⟩).bytes := by
    rw [Path.mem_join (by decide) (follow_of_lookup hfolder).2.1]
    exact hn.separate.2
  have hlast : ∀ s, (folder.join ⟨n⟩).segments.getLast? = some s → Path.isIdle s = false := by
    intro s hs
    rw [Path.getLast?_segments_join, hn.segments] at hs
    cases hs
    exact hn.isIdle
  constructor
  · intro hfile
    rw [isFile] at hfile
    split at hfile
    · rename_i hfound
      have hsearch : access.search = true := by
        refine Bool.not_eq_false _ ▸ fun hsearch => ?_
        have hfound' := leads_of_lookup hfound
        rw [hleads, hsearch] at hfound'
        cases hfound'
      exact ⟨hsearch, (follow_of_lookup hfound).1⟩
    · cases hfile
  · rintro ⟨hsearch, hsize⟩
    rw [hsearch, if_pos rfl] at hleads
    rw [isFile, lookup_of_leads hsize hnul hlast hleads]

end FileTree

namespace Document

/-- The names are those of the files in the directory at a place that have one of the two extensions
behind something else; they ascend by their bytes. -/
structure Documents (w : Workspace) (D : Place) (names : List OsText) : Prop where
  ascending : names.Pairwise fun m n => m.bytes < n.bytes
  mem_iff : ∀ n, n ∈ names ↔ (∃ text, w.files.entries.get? (D ++ [n]) = some (.file text))
    ∧ ∃ s : OsText, s ≠ "" ∧ (n = s ++ ".yaml" ∨ n = s ++ ".yml")

theorem lists_iff {w : Workspace} {folder : Path} {D : Place} {access : Access}
    {names : List OsText} (hfolder : w.files.lookup folder = .found D (.directory access))
    (hlist : access.list = true) : Lists w folder names ↔ Documents w D names := by
  constructor
  · rintro ⟨D', access', hD', -, hsorted, hnames⟩
    cases hfolder.symm.trans hD'
    exact ⟨hsorted, fun n => by rw [hnames, FileTree.mem_namesIn_iff, IsDocument]⟩
  · rintro ⟨hsorted, hnames⟩
    exact ⟨D, access, hfolder, hlist, hsorted,
      fun n => by rw [hnames, FileTree.mem_namesIn_iff, IsDocument]⟩

end Document

namespace Registry

open Document (here load Documents IsStem AlikeAt Lists Unabridged)

/-- The document at the path is loaded and decoded to the type. -/
def TypeAt (w : Workspace) (p : Path) (t : DeviceType) : Prop :=
  ∃ v, load w here p = .ok v ∧ Decode.deviceType (.value v) = .ok t

/-- The document at the path cannot be loaded or decoded. -/
inductive Unfit (w : Workspace) (p : Path) : HomeError → Prop
  | unloaded {e} (h : load w here p = .error e) (he : ∀ q, e ≠ .malformed q) :
    Unfit w p (.ofDocument e)
  | malformed {q} (h : load w here p = .error (.malformed q)) :
    Unfit w p (.undecodableType p.text ⟨[], .malformed⟩)
  | undecodable {v fault} (h : load w here p = .ok v)
      (hv : Decode.deviceType (.value v) = .error fault) :
    Unfit w p (.undecodableType p.text fault)

/-- The document with the name offends, given the names of the earlier ones: it cannot be loaded or
decoded, or else its type has another identifier than its name says, or else an earlier one has a
type with the same identifier. -/
inductive Offends (w : Workspace) (folder : Path) (earlier : List OsText) (n : OsText) :
    HomeError → Prop
  | unfit {e} (h : Unfit w (folder.join ⟨n⟩) e) : Offends w folder earlier n e
  | misnamed {t} (ht : TypeAt w (folder.join ⟨n⟩) t) (hid : t.id ≠ Path.stem n) :
    Offends w folder earlier n (.misnamedType (folder.join ⟨n⟩).text t.id)
  | duplicate {t m u} (ht : TypeAt w (folder.join ⟨n⟩) t) (hid : t.id = Path.stem n)
      (hm : m ∈ earlier) (hu : TypeAt w (folder.join ⟨m⟩) u) (hsame : u.id = t.id) :
    Offends w folder earlier n (.duplicateType t.id)

variable {w w' : Workspace} {folder p : Path} {D : Place} {r : Registry} {t : DeviceType}
  {names earlier : List OsText} {n : OsText} {e : HomeError}

section Step

theorem readType_eq_error_iff : readType w p = .error e ↔ Unfit w p e := by
  rw [readType_eq]
  constructor
  · intro h
    rcases hload : load w here p with e' | v <;> rw [hload] at h
    · cases e' with
      | malformed q =>
        cases h
        exact .malformed hload
      | _ =>
        cases h
        exact .unloaded hload fun _ => by simp
    · obtain ⟨fault, hfault, rfl⟩ := mapError_eq_error_iff.1 h
      exact .undecodable hload hfault
  · rintro (⟨h, he⟩ | h | ⟨h, hfault⟩) <;> rw [h]
    · rename_i e'
      cases e' with
      | malformed q => exact absurd rfl (he q)
      | _ => rfl
    · rfl
    · exact mapError_eq_error_iff.2 ⟨_, hfault, rfl⟩

theorem insert_eq_error_iff :
    r.insert t = .error e ↔ t.id ∈ r.types.keys ∧ e = .duplicateType t.id := by
  rw [← Dict.contains_iff, insert, contains]
  by_cases h : r.types.contains t.id = true <;> simp [h, eq_comm]

theorem addDocument_eq_error_iff : addDocument w r (n, p) = .error e ↔ Unfit w p e
    ∨ ∃ t, TypeAt w p t ∧ (t.id ≠ Path.stem n ∧ e = .misnamedType p.text t.id
      ∨ t.id = Path.stem n ∧ t.id ∈ r.types.keys ∧ e = .duplicateType t.id) := by
  rw [addDocument, bind_eq_error_iff, readType_eq_error_iff]
  refine or_congr_right (exists_congr fun t => and_congr readType_eq_ok_iff ?_)
  by_cases hid : t.id = Path.stem n
  · rw [if_pos hid, insert_eq_error_iff]
    simp [hid]
  · rw [if_neg hid]
    simp [hid, throw, throwThe, MonadExceptOf.throw, eq_comm]

end Step

section Run

/-- The registry after the documents with these names. -/
def readNames (w : Workspace) (folder : Path) (names : List OsText) : Except HomeError Registry :=
  names.foldlM (fun r n => addDocument w r (n, folder.join ⟨n⟩)) empty

theorem TypeAt.unique {u : DeviceType} (ht : TypeAt w p t) (hu : TypeAt w p u) : t = u :=
  Except.ok.inj ((readType_eq_ok_iff.2 ht).symm.trans (readType_eq_ok_iff.2 hu))

theorem Unfit.not_typeAt (h : Unfit w p e) : ¬ TypeAt w p t := by
  intro ht
  cases (readType_eq_error_iff.2 h).symm.trans (readType_eq_ok_iff.2 ht)

theorem list_of_readNames (h : readNames w folder names = .ok r) :
    List.Forall₂ (fun n t => TypeAt w (folder.join ⟨n⟩) t ∧ t.id = Path.stem n) names r.list := by
  have hlist := list_of_addDocument (fun n => (n, folder.join ⟨n⟩)) h
  exact hlist.imp fun n t ht => ⟨readType_eq_ok_iff.1 ht.1, ht.2⟩

theorem mem_keys_of_readNames {id : String} (h : readNames w folder names = .ok r) :
    id ∈ r.types.keys ↔ ∃ m ∈ names, ∃ u, TypeAt w (folder.join ⟨m⟩) u ∧ u.id = id := by
  have hlist := list_of_readNames h
  rw [keys_eq_map_id, List.mem_map]
  constructor
  · rintro ⟨u, hu, rfl⟩
    obtain ⟨m, hm, hmu, -⟩ := exists_of_forall₂ hlist hu
    exact ⟨m, hm, u, hmu, rfl⟩
  · rintro ⟨m, hm, u, hmu, rfl⟩
    obtain ⟨t, ht, hmt, -⟩ := exists_of_forall₂ hlist.flip hm
    exact ⟨t, ht, by rw [hmt.unique hmu]⟩

/-- Behind documents that have been read, a document offends exactly if it cannot be added. -/
theorem offends_iff (h : readNames w folder earlier = .ok r) :
    Offends w folder earlier n e ↔ addDocument w r (n, folder.join ⟨n⟩) = .error e := by
  rw [addDocument_eq_error_iff]
  constructor
  · rintro (hunfit | ⟨ht, hid⟩ | ⟨ht, hid, hm, hu, hsame⟩)
    · exact .inl hunfit
    · exact .inr ⟨_, ht, .inl ⟨hid, rfl⟩⟩
    · exact .inr ⟨_, ht, .inr ⟨hid, (mem_keys_of_readNames h).2 ⟨_, hm, _, hu, hsame⟩, rfl⟩⟩
  · rintro (hunfit | ⟨t, ht, ⟨hid, rfl⟩ | ⟨hid, hm, rfl⟩⟩)
    · exact .unfit hunfit
    · exact .misnamed ht hid
    · obtain ⟨m, hm, u, hu, hsame⟩ := (mem_keys_of_readNames h).1 hm
      exact .duplicate ht hid hm hu hsame

/-- None of the documents with these names offends. -/
def Inoffensive (w : Workspace) (folder : Path) (names : List OsText) : Prop :=
  ∀ pre n post, names = pre ++ n :: post → ∀ e, ¬ Offends w folder pre n e

theorem inoffensive_iff : Inoffensive w folder names ↔ ∃ r, readNames w folder names = .ok r := by
  constructor
  · intro h
    rcases hread : readNames w folder names with e | r
    · obtain ⟨pre, n, post, r, hsplit, hpre, hn⟩ := foldlM_eq_error_iff.1 hread
      exact absurd ((offends_iff hpre).2 hn) (h pre n post hsplit e)
    · exact ⟨r, rfl⟩
  · rintro ⟨r, hread⟩ pre n post rfl e hoffends
    rw [readNames, List.foldlM_append] at hread
    obtain ⟨r₁, hpre, hrest⟩ := bind_eq_ok_iff.1 hread
    obtain ⟨r₂, hn, -⟩ := bind_eq_ok_iff.1 (List.foldlM_cons.symm.trans hrest)
    rw [(offends_iff hpre).1 hoffends] at hn
    cases hn

/-- Reading ends in the error of the first document that offends. -/
theorem readNames_eq_error_iff : readNames w folder names = .error e ↔ ∃ pre n post,
    names = pre ++ n :: post ∧ Inoffensive w folder pre ∧ Offends w folder pre n e := by
  rw [readNames, foldlM_eq_error_iff]
  refine exists_congr fun pre => exists_congr fun n => exists_congr fun post => ?_
  constructor
  · rintro ⟨r, hsplit, hpre, hn⟩
    exact ⟨hsplit, inoffensive_iff.2 ⟨r, hpre⟩, (offends_iff hpre).2 hn⟩
  · rintro ⟨hsplit, hpre, hn⟩
    obtain ⟨r, hread⟩ := inoffensive_iff.1 hpre
    exact ⟨r, hsplit, hread, (offends_iff hread).1 hn⟩

theorem exists_readNames_iff : (∃ r, readNames w folder names = .ok r)
    ↔ (∀ n ∈ names, ∃ t, TypeAt w (folder.join ⟨n⟩) t ∧ t.id = Path.stem n)
      ∧ (names.map Path.stem).Nodup := by
  constructor
  · rintro ⟨r, hread⟩
    have hlist := list_of_readNames hread
    refine ⟨fun n hn => ?_, ?_⟩
    · obtain ⟨t, -, ht⟩ := exists_of_forall₂ hlist.flip hn
      exact ⟨t, ht⟩
    · rw [← map_eq_of_forall₂ (fun n t ht => ht.2) hlist]
      exact r.identified.nodup
  · rintro ⟨htypes, hstems⟩
    refine inoffensive_iff.1 ?_
    rintro pre n post rfl e hoffends
    obtain ⟨t, ht, hid⟩ := htypes n (by simp)
    cases hoffends with
    | unfit hunfit => exact hunfit.not_typeAt ht
    | misnamed hu hne =>
      rw [hu.unique ht] at hne
      exact hne hid
    | @duplicate _ m u hn hidn hm hu hsame =>
      -- an earlier document with the same identifier has the same name without extension
      obtain ⟨t', ht', hid'⟩ := htypes m (by simp [hm])
      have hstem : Path.stem n = Path.stem m := by
        rw [← hidn, ← hsame, hu.unique ht', hid']
      rw [List.map_append, List.map_cons, List.nodup_append] at hstems
      exact hstems.2.2 _ (List.mem_map_of_mem hm) _ List.mem_cons_self hstem.symm

end Run

theorem readNames_congr (henv : w.environment = w'.environment)
    (h : ∀ n ∈ names, AlikeAt w w' here (here.join (folder.join ⟨n⟩))) :
    readNames w folder names = readNames w' folder names := by
  unfold readNames
  refine foldlM_congr fun r n hn => ?_
  rw [addDocument, addDocument, readType_eq, readType_eq, Document.load_congr henv (h n hn)]

theorem ofDirectory_eq_readNames (hl : Lists w folder names) (h : Unabridged w folder) :
    ofDirectory w folder = readNames w folder names := by
  rw [ofDirectory_of_lists hl, Document.found_eq h hl, readNames]

/-- The listing of a directory leaves out a document exactly if the directory cannot be gone through
or a path in it is too long. -/
theorem unabridged_iff_of_sound {access : Access} (ht : w.files.Sound)
    (hfolder : w.files.lookup folder = .found D (.directory access)) (hl : Lists w folder names) :
    Unabridged w folder ↔ ∀ n ∈ names, access.search = true
      ∧ (folder.join ⟨n⟩).bytes.length ≤ FileTree.pathLimit := by
  have hfile : ∀ n ∈ names, w.files.isFile (folder.join ⟨n⟩) = true ↔ access.search = true
      ∧ (folder.join ⟨n⟩).bytes.length ≤ FileTree.pathLimit := by
    intro n hn
    obtain ⟨D', access', hD', -, -, hmem⟩ := id hl
    cases hfolder.symm.trans hD'
    obtain ⟨text, h⟩ := FileTree.mem_namesIn_iff.1 ((hmem n).1 hn).1
    exact FileTree.isFile_join_iff ht hfolder h
  rw [hl.unabridged_iff]
  exact forall₂_congr hfile

/-- A directory that can be listed gives a registry exactly if each of its documents is loaded and
decoded to a type with the document's stem as its identifier, and no two have one stem; the registry
then has these types in the order of the names. Else the error is that of the first document that
offends. All this is so if the listing leaves out no document, which in a sound tree means that the
directory can be gone through and no path in it is too long. Nothing else in the tree plays a part,
but for what the documents reach, and neither does the order in which the tree gives its entries. -/
theorem ofDirectory_exact (w : Workspace) (folder : Path) (D : Place) (access : Access)
    (hfolder : w.files.lookup folder = .found D (.directory access)) (hlist : access.list = true) :
    ∃ names, Documents w D names
      ∧ (∀ n ∈ names, ∀ k, Path.stem n = k ↔ IsStem n k)
      ∧ (w.files.Sound → (Unabridged w folder ↔ ∀ n ∈ names, access.search = true
        ∧ (folder.join ⟨n⟩).bytes.length ≤ FileTree.pathLimit))
      ∧ (Unabridged w folder →
        ((∃ R, ofDirectory w folder = .ok R)
          ↔ (∀ n ∈ names, ∃ t, TypeAt w (folder.join ⟨n⟩) t ∧ t.id = Path.stem n)
            ∧ (names.map Path.stem).Nodup)
        ∧ (∀ R, ofDirectory w folder = .ok R →
          List.Forall₂ (fun n t => TypeAt w (folder.join ⟨n⟩) t ∧ t.id = Path.stem n) names R.list)
        ∧ (∀ e, ofDirectory w folder = .error e ↔ ∃ pre n post,
          names = pre ++ n :: post ∧ Inoffensive w folder pre ∧ Offends w folder pre n e)
        ∧ ∀ (w' : Workspace) (D' : Place) (access' : Access),
          w'.files.lookup folder = .found D' (.directory access') → access'.list = true →
          Documents w' D' names → Unabridged w' folder → w.environment = w'.environment →
          (∀ n ∈ names, AlikeAt w w' here (here.join (folder.join ⟨n⟩))) →
            ofDirectory w folder = ofDirectory w' folder)
      ∧ ∀ w' : Workspace, w.files.workingDirectory = w'.files.workingDirectory →
        w.files.entries.entries.Perm w'.files.entries.entries → w.environment = w'.environment →
          ofDirectory w folder = ofDirectory w' folder := by
  have hl := Document.lists_of_sorted hfolder hlist rfl
  have hdocuments := (Document.lists_iff hfolder hlist).1 hl
  refine ⟨_, hdocuments, fun n hn k => ?_, fun ht => unabridged_iff_of_sound ht hfolder hl,
    fun hunabridged => ?_, fun w' hd hp henv => ?_⟩
  · exact (Document.isStem_iff ((hdocuments.mem_iff n).1 hn).2).symm
  · have hread := ofDirectory_eq_readNames hl hunabridged
    refine ⟨?_, fun R hR => list_of_readNames (hread.symm.trans hR), fun e => ?_,
      fun w' D' access' hfolder' hlist' hdocuments' hunabridged' henv halike => ?_⟩
    · rw [hread]
      exact exists_readNames_iff
    · rw [hread]
      exact readNames_eq_error_iff
    · rw [hread, ofDirectory_eq_readNames ((Document.lists_iff hfolder' hlist').2 hdocuments')
        hunabridged']
      exact readNames_congr henv halike
  · have hfiles := Document.filesIn_congr (FileTree.lookup_of_perm hd hp)
      (FileTree.mem_namesIn_of_perm hp) folder
    rw [ofDirectory, ofDirectory, ← hfiles]
    refine bind_congr_of_ok fun files _ => foldlM_congr fun r file _ => ?_
    rw [addDocument, addDocument, readType_eq, readType_eq,
      Document.load_congr henv (Document.alikeAt_of_perm hd hp)]

section Types

def tallLampText : String := "device_type: tall.lamp\ndesc: A lamp\n"

/-- A directory with two documents, and with files of other names and a directory besides. -/
def typesFiles : FileTree where
  workingDirectory := ["home"]
  entries := ⟨[(["home", "types", "tall.lamp.yml"], .file (some tallLampText)),
    (["home", "types", ".yaml"], .file none),
    (["home", "types", "lamp.txt"], .file (some Home.lampText)),
    (["home", "types", "old", "camera.yaml"], .file (some Home.lampText)),
    (["home", "types", "lamp.yaml"], .file (some Home.lampText))], by decide⟩

/-- The documents of the directory, and nothing else. -/
def bareFiles : FileTree where
  workingDirectory := ["home"]
  entries := ⟨[(["home", "types", "tall.lamp.yml"], .file (some tallLampText)),
    (["home", "types", "lamp.yaml"], .file (some Home.lampText))], by decide⟩

/-- The same in another order. -/
def turnedFiles : FileTree where
  workingDirectory := ["home"]
  entries := ⟨typesFiles.entries.entries.reverse, by decide⟩

theorem alikeAt_types (p : Path) (P : Place) (text id : String)
    (h : typesFiles.lookup p = .found P (.file (some text)))
    (h' : bareFiles.lookup p = .found P (.file (some text)))
    (hv : Yaml.Value.ofText? text = some (.mapping [(.string "device_type", .string id),
      (.string "desc", .string "A lamp")])) :
    AlikeAt ⟨typesFiles, .empty⟩ ⟨bareFiles, .empty⟩ here p := by
  refine Document.alikeAt_of_not_holds ?_ (Document.readValue_eq_ok_iff.2 ⟨P, text, h, hv⟩)
    fun _ => ⟨Home.expanded_described id "A lamp" _ _, Home.expanded_described id "A lamp" _ _⟩
  rw [Document.readText, Document.readText, h, h']

theorem ofDirectory_exact_types : ∃ R,
    typesFiles.lookup ⟨"types"⟩ = .found ["home", "types"] (.directory .full)
      ∧ Documents ⟨typesFiles, .empty⟩ ["home", "types"] ["lamp.yaml", "tall.lamp.yml"]
      ∧ Unabridged ⟨typesFiles, .empty⟩ ⟨"types"⟩
      ∧ ofDirectory ⟨typesFiles, .empty⟩ ⟨"types"⟩ = .ok R
      ∧ R.list.map DeviceType.id = ["lamp", "tall.lamp"]
      ∧ ofDirectory ⟨bareFiles, .empty⟩ ⟨"types"⟩ = .ok R
      ∧ ofDirectory ⟨turnedFiles, .empty⟩ ⟨"types"⟩ = .ok R := by
  have hfolder : typesFiles.lookup ⟨"types"⟩ = .found ["home", "types"] (.directory .full) := by
    decide +kernel
  have hbare : bareFiles.lookup ⟨"types"⟩ = .found ["home", "types"] (.directory .full) := by
    decide +kernel
  have hl : Lists ⟨typesFiles, .empty⟩ ⟨"types"⟩ ["lamp.yaml", "tall.lamp.yml"] :=
    Document.lists_of_sorted hfolder rfl (by decide +kernel)
  have hbarel : Lists ⟨bareFiles, .empty⟩ ⟨"types"⟩ ["lamp.yaml", "tall.lamp.yml"] :=
    Document.lists_of_sorted hbare rfl (by decide +kernel)
  have hunabridged := hl.unabridged_iff.2 (by decide +kernel)
  have hstems : (["lamp.yaml", "tall.lamp.yml"] : List OsText).map Path.stem
      = ["lamp", "tall.lamp"] := by decide +kernel
  obtain ⟨names, hnames, -, -, hexact, horder⟩ :=
    ofDirectory_exact ⟨typesFiles, .empty⟩ ⟨"types"⟩ ["home", "types"] .full hfolder rfl
  cases ((Document.lists_iff hfolder rfl).2 hnames).unique hl
  obtain ⟨-, hlist, -, hother⟩ := hexact hunabridged
  have hread : (ofDirectory ⟨bareFiles, .empty⟩ ⟨"types"⟩).toOption.isSome = true := by
    decide +kernel
  have hsame : ofDirectory ⟨typesFiles, .empty⟩ ⟨"types"⟩
      = ofDirectory ⟨bareFiles, .empty⟩ ⟨"types"⟩ := by
    refine hother ⟨bareFiles, .empty⟩ _ .full hbare rfl ((Document.lists_iff hbare rfl).1 hbarel)
      (hbarel.unabridged_iff.2 (by decide +kernel)) rfl ?_
    simp only [List.forall_mem_cons]
    refine ⟨?_, ?_, fun _ h => absurd h List.not_mem_nil⟩
    · exact alikeAt_types _ ["home", "types", "lamp.yaml"] Home.lampText "lamp"
        (by decide +kernel) (by decide +kernel) (by decide +kernel)
    · exact alikeAt_types _ ["home", "types", "tall.lamp.yml"] tallLampText "tall.lamp"
        (by decide +kernel) (by decide +kernel) (by decide +kernel)
  rcases hR : ofDirectory ⟨bareFiles, .empty⟩ ⟨"types"⟩ with e | R
  · rw [hR] at hread
    cases hread
  · have hR' := hsame.trans hR
    refine ⟨R, hfolder, hnames, hunabridged, hR', ?_, rfl, ?_⟩
    · rw [map_eq_of_forall₂ (fun n t ht => ht.2) (hlist R hR'), hstems]
    · rw [← hR', horder ⟨turnedFiles, .empty⟩ rfl (List.reverse_perm _).symm rfl]

end Types

section Padded

/-- The path to the directory of `homeFiles`, with separators behind it. -/
def padded : Nat → Path
  | 0 => ⟨"all_device_types"⟩
  | n + 1 => ⟨⟨(padded n).bytes ++ Path.slash :: []⟩⟩

/-- What is known of a path with separators behind it. -/
structure Pads (n : Nat) (p : Path) : Prop where
  relative : p.isAbsolute = false
  names : p.names = [(OsText.ofText "all_device_types").bytes]
  size : p.bytes.length = n + 16
  nul : 0 ∉ p.bytes

theorem pads_padded : ∀ n, Pads n (padded n)
  | 0 => ⟨rfl, rfl, rfl, by decide +kernel⟩
  | n + 1 => by
    obtain ⟨hrelative, hnames, hsize, hnul⟩ := pads_padded n
    have hne : (padded n).bytes ≠ [] := by
      intro h
      rw [h] at hsize
      cases hsize
    refine ⟨?_, ?_, ?_, ?_⟩
    · rw [padded, Path.isAbsolute_append hne]
      exact hrelative
    · rw [padded, Path.names, Path.segments_append, Path.named_append]
      exact (List.append_nil _).trans hnames
    · rw [padded, Path.bytes_mk, List.length_append, hsize]
      rfl
    · rw [padded, Path.bytes_mk, List.mem_append, not_or]
      exact ⟨hnul, by decide⟩

theorem lookup_padded {n : Nat} (hn : n + 16 ≤ FileTree.pathLimit) :
    Home.homeFiles.lookup (padded n) = .found ["home", "all_device_types"] (.directory .full) := by
  obtain ⟨hrelative, hnames, hsize, hnul⟩ := pads_padded n
  refine FileTree.lookup_directory_of_leads (by rwa [hsize]) hnul ?_ ?_ rfl
  · intro h
    rw [h] at hsize
    cases hsize
  · have hnames' : Path.names ⟨"all_device_types"⟩ = [(OsText.ofText "all_device_types").bytes] :=
      rfl
    rw [FileTree.leads_congr (d := ⟨"all_device_types"⟩) (hnames.trans hnames'.symm) hrelative]
    exact FileTree.leads_of_lookup Home.lookup_homeFiles

theorem length_join_lamp {p : Path} (h : p.bytes.length = 4095) :
    FileTree.pathLimit < (p.join ⟨"lamp.yaml"⟩).bytes.length := by
  have hname : (Path.bytes ⟨"lamp.yaml"⟩).length = 9 := rfl
  have hle := Path.le_length_join p (p := ⟨"lamp.yaml"⟩) rfl
  rw [h, hname] at hle
  exact Nat.lt_of_lt_of_le (by decide) hle

/-- If there is no room behind the directory's path for the name of its one document, the document
is passed over: the registry is read and is empty, although the document cannot be read. -/
theorem ofDirectory_padded :
    Home.homeFiles.Sound
      ∧ Home.homeFiles.lookup (padded 4079)
        = .found ["home", "all_device_types"] (.directory .full)
      ∧ Documents Home.homeSpace ["home", "all_device_types"] ["lamp.yaml"]
      ∧ (∃ p, load Home.homeSpace here ((padded 4079).join ⟨"lamp.yaml"⟩) = .error (.unreadable p))
      ∧ ofDirectory Home.homeSpace (padded 4079) = .ok empty := by
  have hsound : Home.homeFiles.Sound := by decide +kernel
  have hfolder := lookup_padded (n := 4079) (by decide)
  have hlong := length_join_lamp (pads_padded 4079).size
  -- of the path no more is needed, and it is too long to be written out
  generalize padded 4079 = p at *
  have hl : Lists Home.homeSpace p ["lamp.yaml"] :=
    Document.lists_of_sorted hfolder rfl (by decide +kernel)
  have hnone : Document.found Home.homeSpace p ["lamp.yaml"] = [] :=
    Document.found_of_long fun _ hn => List.mem_singleton.1 hn ▸ hlong
  refine ⟨hsound, hfolder, (Document.lists_iff hfolder rfl).1 hl, ⟨_, Document.load_of_long ?_⟩, ?_⟩
  · exact Nat.lt_of_lt_of_le hlong (Path.length_le_join here _)
  · rw [ofDirectory_of_lists hl, hnone]
    rfl

end Padded

end Registry

end SmartHome
