import SmartHome.Proofs.Reading

/-!
# What is reached from a document

The directives that stand in a value (`Holds`) cite documents (`Cites`), and from a value one
reaches the values of the documents that its directives cite, of those that they cite, and so on
(`Reaches`). What the walk through a value comes to and opens is held and cited (`holds_of_comes`,
`cites_of_opens`).

A loader that lists a directory leaves out the documents that it cannot look up, so it need not find
all that the directive stands for, nor the same by every path. It does if its listings are complete,
as `Complete` says of all listings on the way from a value. `Fits` says besides that no path on the
way is too long to be looked up. Both pass from a value to what is reached from it.
-/

namespace SmartHome

namespace Document

open Yaml (Value)

/-- The directive with the argument stands in the value, where tags are expanded. -/
inductive Holds : Value → Directive → Value → Prop
  | here {tag d a} : Directive.ofTag? tag = some d → Holds (.tagged tag a) d a
  | under {tag v d a} : Directive.ofTag? tag = none → Holds v d a → Holds (.tagged tag v) d a
  | item {v vs d a} : v ∈ vs → Holds v d a → Holds (.sequence vs) d a
  | pair {k v ps d a} : (k, v) ∈ ps → Holds v d a → Holds (.mapping ps) d a

variable (w : Workspace) (base : Path)

/-- A directive in a document cites a document: the one it names, or one in the directory it names.
-/
inductive Cites (s : Path) : Directive → Value → Path → Prop
  | document {text} : Cites s .document (.string text) (base.join (target base s text))
  | member {text names n} : Lists w (target base s text) names → n ∈ names →
      Cites s .directory (.string text) (documentIn base (target base s text) n)

/-- A directive in the document at a path cites the document at another. -/
def Mentions (q q' : Path) : Prop :=
  ∃ v d a, readValue w q = .ok v ∧ Holds v d a ∧ Cites w base q d a q'

/-- From a value in a document one reaches a value in another, directive by directive. -/
inductive Reaches : Path → Value → Path → Value → Prop
  | refl {s v} : Reaches s v s v
  | step {s v d a q u r x} : Holds v d a → Cites w base s d a q → readValue w q = .ok u →
      Reaches q u r x → Reaches s v r x

/-- The listing of a directory leaves out none of its documents. -/
def Unabridged (w : Workspace) (folder : Path) : Prop :=
  ∀ names, Lists w folder names → ∀ n ∈ names, w.files.isFile (folder.join ⟨n⟩) = true

/-- No directory on the way from a value in a document has a document that its listing leaves out.
-/
def Complete (s : Path) (v : Value) : Prop :=
  ∀ q u, Reaches w base s v q u → ∀ text, Holds u .directory (.string text) →
    Unabridged w (target base q text)

/-- The path is not too long to be looked up. -/
def IsShort (p : Path) : Prop := p.bytes.length ≤ FileTree.pathLimit

instance (p : Path) : Decidable (IsShort p) := inferInstanceAs (Decidable (_ ≤ _))

/-- All listings on the way from a value in a document are complete, and no path that is looked up
on the way is too long. -/
structure Fits (s : Path) (v : Value) : Prop where
  complete : Complete w base s v
  document : ∀ q u, Reaches w base s v q u → ∀ d a r, Holds u d a → Cites w base q d a r → IsShort r
  directory : ∀ q u, Reaches w base s v q u → ∀ text, Holds u .directory (.string text) →
    IsShort (target base q text)

/-- `Complete` for the document at a path. -/
def CompleteAt (q : Path) : Prop := ∀ v, readValue w q = .ok v → Complete w base q v

/-- `Fits` for the document at a path. -/
def FitsAt (q : Path) : Prop := IsShort q ∧ ∀ v, readValue w q = .ok v → Fits w base q v

/-- The listing of a directory is complete, and no path on the way from its documents is too long.
-/
structure FitsIn (folder : Path) : Prop where
  unabridged : Unabridged w folder
  documents : ∀ names, Lists w folder names → ∀ n ∈ names, FitsAt w base (documentIn base folder n)

variable {w base} {q q' s : Path} {u v v' a a' : Value} {d d' : Directive}

theorem Holds.eq_of_tagged {tag : String} (h : Holds (.tagged tag a) d' a')
    (ht : Directive.ofTag? tag = some d) : d' = d ∧ a' = a := by
  cases h with
  | here ht' =>
    rw [ht] at ht'
    cases ht'
    exact ⟨rfl, rfl⟩
  | under ht' => simp [ht] at ht'

theorem Holds.eq_of_field {k : Value} {tag : String}
    (h : Holds (.mapping [(k, .tagged tag a)]) d' a') (ht : Directive.ofTag? tag = some d) :
    d' = d ∧ a' = a := by
  cases h with
  | pair hmem h =>
    cases List.mem_singleton.1 hmem
    exact h.eq_of_tagged ht

theorem not_holds_directory {k : Value} :
    ¬ Holds (.mapping [(k, .tagged "include" a)]) .directory a' := by
  intro h
  obtain ⟨hd, -⟩ := h.eq_of_field (d := .document) rfl
  cases hd

theorem Holds.of_tail_items {vs : List Value} (h : Holds (.sequence vs) d a) :
    Holds (.sequence (v :: vs)) d a := by
  cases h with
  | item hmem h => exact .item (List.mem_cons_of_mem _ hmem) h

theorem Holds.of_tail_pairs {k : Value} {ps : List (Value × Value)} (h : Holds (.mapping ps) d a) :
    Holds (.mapping ((k, v) :: ps)) d a := by
  cases h with
  | pair hmem h => exact .pair (List.mem_cons_of_mem _ hmem) h

theorem holds_of_comes (h : Comes w base s v d a) : Holds v d a := by
  induction h with
  | here ht => exact .here ht
  | under ht _ ih => exact .under ht ih
  | item _ ih => exact .item List.mem_cons_self ih
  | items _ _ ih => exact ih.of_tail_items
  | pair _ ih => exact .pair List.mem_cons_self ih
  | pairs _ _ ih => exact ih.of_tail_pairs

theorem cites_of_opens (h : Opens w base s d a q) : Cites w base s d a q := by
  cases h with
  | document => exact .document
  | member hl => exact .member hl (by simp)

theorem mentions_of_enters (h : Enters w base q q') : Mentions w base q q' := by
  obtain ⟨v, d, a, hr, hc, ho⟩ := h
  exact ⟨v, d, a, hr, holds_of_comes hc, cites_of_opens ho⟩

theorem Reaches.readValue (h : Reaches w base s v q a) (hr : readValue w s = .ok v) :
    Document.readValue w q = .ok a := by
  induction h with
  | refl => exact hr
  | step _ _ hr' _ ih => exact ih hr'

/-- A directive that stands in a value stands for something if the whole value does. -/
theorem Holds.stands (h : Holds v d a) (hv : Expands w base s v u) : Stands w base s d a := by
  induction h generalizing u with
  | here ht => exact ⟨_, u, ht, hv⟩
  | under ht _ ih => cases hv with
    | scalar hv => exact hv.elim
    | other _ hv => exact ih hv
    | document ht' | directory ht' | environment ht' => simp [ht] at ht'
  | item hmem _ ih =>
    obtain ⟨us, -, hall⟩ := expands_sequence hv
    obtain ⟨x, -, hx⟩ := exists_of_forall₂ hall.flip hmem
    exact ih hx
  | pair hmem _ ih =>
    obtain ⟨qs, -, hall⟩ := expands_mapping hv
    obtain ⟨q, -, -, hq⟩ := exists_of_forall₂ hall.flip hmem
    exact ih hq

theorem Cites.yields (h : Cites w base s d a q) (hs : Stands w base s d a) :
    ∃ u, Yields w base q u := by
  obtain ⟨tag, u, ht, hu⟩ := hs
  cases hu with
  | scalar hv => exact hv.elim
  | other ht' => simp [ht] at ht'
  | document ht' hr hv =>
    cases ht.symm.trans ht'
    cases h with
    | document => exact ⟨u, _, hr, hv⟩
  | directory ht' hl hr hv =>
    cases ht.symm.trans ht'
    cases h with
    | member hl' hn =>
      cases hl.unique hl'
      exact ⟨_, _, hr _ hn, hv _ hn⟩
  | environment ht' =>
    cases ht.symm.trans ht'
    cases h

theorem Reaches.expands (h : Reaches w base s v q a) (hv : Expands w base s v u) :
    ∃ x, Expands w base q a x := by
  induction h generalizing u with
  | refl => exact ⟨u, hv⟩
  | step hh hc hr _ ih =>
    obtain ⟨x, v', hr', hv'⟩ := hc.yields (hh.stands hv)
    cases hr.symm.trans hr'
    exact ih hv'

theorem Reaches.joined (h : Reaches w base s v q a) (hs : ∃ x, s = base.join x) :
    ∃ x, q = base.join x := by
  induction h with
  | refl => exact hs
  | step _ hc _ _ ih =>
    cases hc with
    | document => exact ih ⟨_, rfl⟩
    | member => exact ih ⟨_, rfl⟩

theorem Reaches.of_holds (hv : ∀ d a, Holds v d a → Holds v' d a)
    (h : Reaches w base s v q a) : (q = s ∧ a = v) ∨ Reaches w base s v' q a := by
  cases h with
  | refl => exact .inl ⟨rfl, rfl⟩
  | step hh hc hr h => exact .inr (.step (hv _ _ hh) hc hr h)

theorem Complete.of_holds (h : Complete w base s v') (hv : ∀ d a, Holds v d a → Holds v' d a) :
    Complete w base s v := by
  intro q u hreach text hh
  rcases hreach.of_holds hv with ⟨rfl, rfl⟩ | hreach
  · exact h _ _ .refl text (hv _ _ hh)
  · exact h q u hreach text hh

theorem Fits.of_holds (h : Fits w base s v') (hv : ∀ d a, Holds v d a → Holds v' d a) :
    Fits w base s v := by
  refine ⟨h.complete.of_holds hv, fun q u hreach d a r hh hc => ?_, fun q u hreach text hh => ?_⟩
  · rcases hreach.of_holds hv with ⟨rfl, rfl⟩ | hreach
    · exact h.document _ _ .refl d a r (hv _ _ hh) hc
    · exact h.document q u hreach d a r hh hc
  · rcases hreach.of_holds hv with ⟨rfl, rfl⟩ | hreach
    · exact h.directory _ _ .refl text (hv _ _ hh)
    · exact h.directory q u hreach text hh

theorem Complete.step (h : Complete w base s v) (hh : Holds v d a) (hc : Cites w base s d a q) :
    CompleteAt w base q :=
  fun _ hr q' u' hreach => h q' u' (.step hh hc hr hreach)

theorem Fits.step (h : Fits w base s v) (hh : Holds v d a) (hc : Cites w base s d a q) :
    FitsAt w base q :=
  ⟨h.document _ _ .refl _ _ _ hh hc, fun _ hr => ⟨h.complete.step hh hc _ hr,
    fun q' u' hreach => h.document q' u' (.step hh hc hr hreach),
    fun q' u' hreach => h.directory q' u' (.step hh hc hr hreach)⟩⟩

theorem Fits.fitsIn {text : String} (h : Fits w base s v) (hh : Holds v .directory (.string text)) :
    FitsIn w base (target base s text) :=
  ⟨h.complete _ _ .refl _ hh, fun _ hl _ hn => h.step hh (.member hl hn)⟩

theorem FitsAt.completeAt (h : FitsAt w base q) : CompleteAt w base q :=
  fun v hr => (h.2 v hr).complete

theorem complete_of_cites
    (hcites : ∀ d a r, Holds v d a → Cites w base s d a r → CompleteAt w base r)
    (hdirectory : ∀ text, Holds v .directory (.string text) →
      Unabridged w (target base s text)) : Complete w base s v := by
  intro q u hreach text hh
  cases hreach with
  | refl => exact hdirectory text hh
  | step hh' hc hr h => exact hcites _ _ _ hh' hc _ hr q u h text hh

theorem fits_of_cites (hcites : ∀ d a r, Holds v d a → Cites w base s d a r → FitsAt w base r)
    (hdirectory : ∀ text, Holds v .directory (.string text) →
      IsShort (target base s text) ∧ Unabridged w (target base s text)) : Fits w base s v := by
  refine ⟨complete_of_cites (fun d a r hh hc => (hcites d a r hh hc).completeAt)
    fun text hh => (hdirectory text hh).2, fun q u hreach d a r hh hc => ?_,
    fun q u hreach text hh => ?_⟩
  · cases hreach with
    | refl => exact (hcites d a r hh hc).1
    | step hh' hc' hr h => exact ((hcites _ _ _ hh' hc').2 _ hr).document q u h d a r hh hc
  · cases hreach with
    | refl => exact (hdirectory text hh).1
    | step hh' hc hr h => exact ((hcites _ _ _ hh' hc).2 _ hr).directory q u h text hh

theorem fits_of_not_holds (h : ∀ d a, ¬ Holds v d a) : Fits w base s v :=
  fits_of_cites (fun d a _ hh => (h d a hh).elim) fun _ hh => (h _ _ hh).elim

theorem fitsAt_of_readValue (hshort : IsShort q) (hr : readValue w q = .ok v)
    (h : Fits w base q v) : FitsAt w base q := by
  refine ⟨hshort, fun v' hr' => ?_⟩
  cases hr.symm.trans hr'
  exact h

theorem CompleteAt.mentions (h : CompleteAt w base q) (hm : Mentions w base q q') :
    CompleteAt w base q' := by
  obtain ⟨v, d, a, hr, hh, hc⟩ := hm
  exact (h v hr).step hh hc

theorem completeAt_of_not_holds
    (h : ∀ r u text, readValue w r = .ok u → ¬ Holds u .directory (.string text)) :
    CompleteAt w base q := by
  intro v hr q' u hreach text hh
  exact (h q' u text (hreach.readValue hr) hh).elim

theorem lists_of_lookup {folder folder' : Path} {names : List OsText} {place : Place}
    {access : Access} (hl : Lists w folder names)
    (h : w.files.lookup folder = .found place (.directory access))
    (h' : w.files.lookup folder' = .found place (.directory access)) : Lists w folder' names := by
  obtain ⟨place', access', hplace, hlist, hsorted, hmem⟩ := hl
  cases h.symm.trans hplace
  exact ⟨place, access, h', hlist, hsorted, hmem⟩

end Document

end SmartHome
