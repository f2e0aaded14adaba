import Mathlib.Data.List.Sort
import SmartHome.Document.Loader
import SmartHome.Proofs.Dictionary
import SmartHome.Proofs.Failure

/-!
# What a document stands for

A document stands for its value with every directive in it replaced (`Yields`): a document named in
it by what that document stands for, a directory by the mapping of its documents, a variable by its
text; all else stays as it is, a sequence its length and a mapping its keys (`expands_sequence`,
`expands_mapping`). Nothing here knows of a loader, of what is under expansion, or of a bound.

Where a document stands for nothing, the walk through it from the front comes to a first directive
that stands for nothing (`Comes`), which is faulty (`Faulty`) or opens a document that stands for
nothing (`Opens`); the error is the one at the end of this descent (`Fails`). What a document stands
for and where the descent leads are unique (`Expands.unique`, `Enters.unique`), and no document has
both (`Fails.not_yields`).
-/

namespace SmartHome

namespace Document

open Yaml (Value)

/-- The tags that stand for something else. -/
inductive Directive where
  | document
  | directory
  | environment
  deriving DecidableEq

namespace Directive

def tag : Directive → String
  | document => "include"
  | directory => "include_dir_named"
  | environment => "env_var"

def ofTag? (tag : String) : Option Directive :=
  if tag = document.tag then some document
  else if tag = directory.tag then some directory
  else if tag = environment.tag then some environment
  else none

theorem ofTag?_tag (d : Directive) : ofTag? d.tag = some d := by
  cases d <;> rfl

theorem tag_of_ofTag? {tag : String} {d : Directive} (h : ofTag? tag = some d) : tag = d.tag := by
  simp only [ofTag?] at h
  split_ifs at h <;> cases h <;> assumption

end Directive

/-- The value holds no other value. -/
def IsScalar : Value → Prop
  | .null | .bool _ | .number _ | .string _ => True
  | _ => False

/-- The path that a text means in a document. -/
def target (base source : Path) (text : String) : Path := (directoryOf base source).join ⟨text⟩

/-- The document with a name in a directory. -/
def documentIn (base folder : Path) (name : OsText) : Path := base.join (folder.join ⟨name⟩)

/-- The name is a document's: something with one of two extensions. -/
def IsDocument (n : OsText) : Prop := ∃ s : OsText, s ≠ "" ∧ (n = s ++ ".yaml" ∨ n = s ++ ".yml")

/-- The text is what stands before the extension of a document's name, or the empty one if that is
no text. -/
def IsStem (n : OsText) (k : String) : Prop :=
  ∃ s : OsText, s ≠ "" ∧ (n = s ++ ".yaml" ∨ n = s ++ ".yml")
    ∧ (s = k ∨ k = "" ∧ ∀ text : String, s ≠ text)

/-- The mapping from the stems of names; of two names with one stem the later counts, in the place
of the earlier. -/
def mappingOf (names : List OsText) (u : OsText → Value) : Value :=
  .mapping ((Dict.ofList (names.map fun n => (Path.stem n, u n))).entries.map
    fun e => (.string e.1, e.2))

variable (w : Workspace) (base : Path)

/-- The value of a document's text, tags and all. -/
def readValue (w : Workspace) (q : Path) : Except DocumentError Value := do
  match Value.ofText? (← readText w.files q) with
  | some v => .ok v
  | none => .error (.malformed q)

/-- The names of a directory's documents, in order; the directory can be listed. -/
def Lists (folder : Path) (names : List OsText) : Prop :=
  ∃ place access, w.files.lookup folder = .found place (.directory access) ∧ access.list = true
    ∧ names.Pairwise (· < ·) ∧ ∀ n, n ∈ names ↔ n ∈ w.files.namesIn place ∧ IsDocument n

/-- Why a path names no directory that can be listed. -/
inductive Unlisted (folder : Path) : DocumentError → Prop
  | absent : (∀ place access, w.files.lookup folder ≠ .found place (.directory access)) →
      Unlisted folder (.directoryNotFound folder)
  | closed {place access} : w.files.lookup folder = .found place (.directory access) →
      access.list = false → Unlisted folder (.unreadable folder)

/-- What a value in a document stands for. -/
inductive Expands : Path → Value → Value → Prop
  | scalar {s v} : IsScalar v → Expands s v v
  | nil {s} : Expands s (.sequence []) (.sequence [])
  | item {s v u vs us} : Expands s v u → Expands s (.sequence vs) (.sequence us) →
      Expands s (.sequence (v :: vs)) (.sequence (u :: us))
  | empty {s} : Expands s (.mapping []) (.mapping [])
  | pair {s k v u ps qs} : Expands s v u → Expands s (.mapping ps) (.mapping qs) →
      Expands s (.mapping ((k, v) :: ps)) (.mapping ((k, u) :: qs))
  | other {s tag v u} : Directive.ofTag? tag = none → Expands s v u →
      Expands s (.tagged tag v) (.tagged tag u)
  | document {s tag text v u} : Directive.ofTag? tag = some .document →
      readValue w (base.join (target base s text)) = .ok v →
      Expands (base.join (target base s text)) v u → Expands s (.tagged tag (.string text)) u
  | directory {s tag text names} {v u : OsText → Value} :
      Directive.ofTag? tag = some .directory → Lists w (target base s text) names →
      (∀ n ∈ names, readValue w (documentIn base (target base s text) n) = .ok (v n)) →
      (∀ n ∈ names, Expands (documentIn base (target base s text) n) (v n) (u n)) →
      Expands s (.tagged tag (.string text)) (mappingOf names u)
  | environment {s tag name text} : Directive.ofTag? tag = some .environment →
      w.environment.get? name = some text → Expands s (.tagged tag (.string name)) (.string text)

/-- What a document stands for. -/
def Yields (q : Path) (u : Value) : Prop := ∃ v, readValue w q = .ok v ∧ Expands w base q v u

/-- The directive with the argument stands for something. -/
def Stands (s : Path) (d : Directive) (a : Value) : Prop :=
  ∃ tag u, Directive.ofTag? tag = some d ∧ Expands w base s (.tagged tag a) u

/-- The walk through a value in a document, from the front, comes to a directive with an argument:
what stands before it stands for something. -/
inductive Comes (s : Path) : Value → Directive → Value → Prop
  | here {tag d a} : Directive.ofTag? tag = some d → Comes s (.tagged tag a) d a
  | under {tag v d a} : Directive.ofTag? tag = none → Comes s v d a → Comes s (.tagged tag v) d a
  | item {v vs d a} : Comes s v d a → Comes s (.sequence (v :: vs)) d a
  | items {v u vs d a} : Expands w base s v u → Comes s (.sequence vs) d a →
      Comes s (.sequence (v :: vs)) d a
  | pair {k v ps d a} : Comes s v d a → Comes s (.mapping ((k, v) :: ps)) d a
  | pairs {k v u ps d a} : Expands w base s v u → Comes s (.mapping ps) d a →
      Comes s (.mapping ((k, v) :: ps)) d a

/-- A directive that names nothing. -/
inductive Faulty (s : Path) : Directive → Value → DocumentError → Prop
  | path {d a} : d ≠ .environment → (∀ text, a ≠ .string text) →
      Faulty s d a (.invalidIncludePath d.tag a)
  | directory {text e} : Unlisted w (target base s text) e → Faulty s .directory (.string text) e
  | unset {name} : w.environment.get? name = none →
      Faulty s .environment (.string name) (.variableNotSet name)
  | name {a} : (∀ text, a ≠ .string text) → Faulty s .environment a .invalidVariableName

/-- A directive opens a document: the one it names, or one in the directory it names, with all
before it standing for something. -/
inductive Opens (s : Path) : Directive → Value → Path → Prop
  | document {text} : Opens s .document (.string text) (base.join (target base s text))
  | member {text n pre post} : Lists w (target base s text) (pre ++ n :: post) →
      (∀ m ∈ pre, ∃ u, Yields w base (documentIn base (target base s text) m) u) →
      Opens s .directory (.string text) (documentIn base (target base s text) n)

/-- The document fails where it stands. -/
inductive Stops (q : Path) : DocumentError → Prop
  | unread {e} : readValue w q = .error e → Stops q e
  | faulty {v d a e} : readValue w q = .ok v → Comes w base q v d a → Faulty w base q d a e →
      Stops q e

/-- The walk through the document opens another one. -/
def Enters (q q' : Path) : Prop :=
  ∃ v d a, readValue w q = .ok v ∧ Comes w base q v d a ∧ Opens w base q d a q'

/-- The first error on the walk through a document and those that it opens. -/
inductive Fails : Path → DocumentError → Prop
  | stops {q e} : Stops w base q e → Fails q e
  | enters {q q' e} : Enters w base q q' → Fails q' e → Fails q e

variable {w base}

variable {q q' q'' s : Path} {u u' v v' : Value} {e e' : DocumentError} {d d' : Directive}
  {a a' : Value} {names names' : List OsText}

section Name

variable {n : OsText} {k : String}

theorem isDocumentName_iff : isDocumentName n = true ↔ IsDocument n := by
  have hext : isDocumentName n = true
      ↔ Path.extension? n = some ↑"yaml" ∨ Path.extension? n = some ↑"yml" := by
    rw [isDocumentName]
    rcases Path.extension? n with _ | ext <;> simp
  rw [hext, Path.extension?_eq_some_iff (by decide), Path.extension?_eq_some_iff (by decide),
    ← exists_or]
  simp only [IsDocument, Path.append_yaml, Path.append_yml, and_or_left]

theorem isStem_iff (hn : IsDocument n) : IsStem n k ↔ Path.stem n = k := by
  constructor
  · rintro ⟨s, hs, hname, hk⟩
    exact (Path.stem_document hs hname).2 hk
  · intro hk
    obtain ⟨s, hs, hname⟩ := hn
    exact ⟨s, hs, hname, (Path.stem_document hs hname).1 hk⟩

/-- The keys of a directory's mapping are the stems of its documents, in the order of the first ones
with them, and each has the value of the last document with it. -/
theorem mappingOf_spec (hnames : ∀ n ∈ names, IsDocument n) (x : OsText → Value) :
    ∃ (ks : List String) (ps : List (String × Value)), List.Forall₂ IsStem names ks
      ∧ mappingOf names x = .mapping (ps.map fun p => (.string p.1, p.2))
      ∧ ps.map Prod.fst = ks.eraseDups
      ∧ ∀ k v, (k, v) ∈ ps → ∃ n, IsStem n k ∧ LastWith (IsStem · k) names n ∧ v = x n := by
  refine ⟨names.map Path.stem, _, ?_, rfl, ?_, fun k v hkv => ?_⟩
  · rw [List.forall₂_map_right_iff, List.forall₂_same]
    exact fun n hn => (isStem_iff (hnames n hn)).2 rfl
  · have hkeys := Dict.keys_ofList (names.map fun n => (Path.stem n, x n))
    rwa [List.map_map] at hkeys
  · have hmem := Dict.get?_eq_some_iff.2 hkv
    obtain ⟨n, hlast, hn⟩ := LastWith.map_iff.1 (Dict.get?_ofList_eq_some_iff.1 hmem)
    cases hn
    have hstems : ∀ m ∈ names, Path.stem m = Path.stem n ↔ IsStem m (Path.stem n) := fun m hm =>
      (isStem_iff (hnames m hm)).symm
    obtain ⟨pre, post, rfl, hpost⟩ := hlast
    refine ⟨n, (hstems n (by simp)).1 rfl, ⟨pre, post, rfl, fun m hm hk => ?_⟩, rfl⟩
    exact hpost m hm ((hstems m (by simp [hm])).2 hk)

end Name

section Shape

/-- A sequence keeps its length. -/
theorem expands_sequence : ∀ {vs : List Value} {u : Value}, Expands w base s (.sequence vs) u →
    ∃ us, u = .sequence us ∧ List.Forall₂ (Expands w base s) vs us
  | [], _, h => by
    cases h with
    | scalar hv => exact hv.elim
    | nil => exact ⟨[], rfl, .nil⟩
  | v :: vs, _, h => by
    cases h with
    | scalar hv => exact hv.elim
    | item hv hvs =>
      obtain ⟨us, hus, hall⟩ := expands_sequence hvs
      cases hus
      exact ⟨_, rfl, .cons hv hall⟩

/-- A mapping keeps its keys and their order. -/
theorem expands_mapping : ∀ {ps : List (Value × Value)} {u : Value},
    Expands w base s (.mapping ps) u →
    ∃ qs, u = .mapping qs
      ∧ List.Forall₂ (fun p q => q.1 = p.1 ∧ Expands w base s p.2 q.2) ps qs
  | [], _, h => by
    cases h with
    | scalar hv => exact hv.elim
    | empty => exact ⟨[], rfl, .nil⟩
  | (k, v) :: ps, _, h => by
    cases h with
    | scalar hv => exact hv.elim
    | pair hv hps =>
      obtain ⟨qs, hqs, hall⟩ := expands_mapping hps
      cases hqs
      exact ⟨_, rfl, .cons ⟨rfl, hv⟩ hall⟩

/-- A field of a mapping stands for something by itself, and can be given another value. -/
theorem expands_mapping_field {k v : Value} {post : List (Value × Value)} :
    ∀ {pre : List (Value × Value)} {u : Value},
      Expands w base s (.mapping (pre ++ (k, v) :: post)) u →
        ∃ pre' x post', u = .mapping (pre' ++ (k, x) :: post') ∧ Expands w base s v x
          ∧ ∀ v' x', Expands w base s v' x' → Expands w base s (.mapping (pre ++ (k, v') :: post))
            (.mapping (pre' ++ (k, x') :: post'))
  | [], _, h => by
    cases h with
    | scalar hv => exact hv.elim
    | pair hv hps => exact ⟨[], _, _, rfl, hv, fun v' x' hv' => .pair hv' hps⟩
  | p :: pre, _, h => by
    cases h with
    | scalar hv => exact hv.elim
    | pair hp hps =>
      obtain ⟨pre', x, post', heq, hv, hother⟩ := expands_mapping_field hps
      cases heq
      exact ⟨_ :: pre', x, post', rfl, hv, fun v' x' hv' => .pair hp (hother v' x' hv')⟩

end Shape

section Unique

theorem Lists.unique (h : Lists w q names) (h' : Lists w q names') : names = names' := by
  obtain ⟨place, access, hq, -, hsorted, hmem⟩ := h
  obtain ⟨place', access', hq', -, hsorted', hmem'⟩ := h'
  rw [hq] at hq'
  cases hq'
  exact hsorted.eq_of_mem_iff hsorted' fun n => (hmem n).trans (hmem' n).symm

theorem mappingOf_congr {f g : OsText → Value} (h : ∀ n ∈ names, f n = g n) :
    mappingOf names f = mappingOf names g := by
  have hmap : (names.map fun n => (Path.stem n, f n)) = names.map fun n => (Path.stem n, g n) :=
    List.map_congr_left fun n hn => by rw [h n hn]
  rw [mappingOf, mappingOf, hmap]

theorem Expands.unique (h : Expands w base s v u) (h' : Expands w base s v u') : u = u' := by
  induction h generalizing u' with
  | scalar hv => cases h' with
    | scalar => rfl
    | _ => exact hv.elim
  | nil => cases h' with
    | scalar hv => exact hv.elim
    | nil => rfl
  | item _ _ ihv ihvs => cases h' with
    | scalar hv => exact hv.elim
    | item hv hvs =>
      cases ihv hv
      cases ihvs hvs
      rfl
  | empty => cases h' with
    | scalar hv => exact hv.elim
    | empty => rfl
  | pair _ _ ihv ihps => cases h' with
    | scalar hv => exact hv.elim
    | pair hv hps =>
      cases ihv hv
      cases ihps hps
      rfl
  | other ht _ ih => cases h' with
    | scalar hv => exact hv.elim
    | other _ hv => rw [ih hv]
    | document ht' | directory ht' | environment ht' => simp [ht] at ht'
  | document ht hr _ ih => cases h' with
    | scalar hv => exact hv.elim
    | document _ hr' hv' =>
      cases hr.symm.trans hr'
      exact ih hv'
    | other ht' | directory ht' | environment ht' => simp [ht] at ht'
  | directory ht hl hr _ ih => cases h' with
    | scalar hv => exact hv.elim
    | directory _ hl' hr' hv' =>
      cases hl.unique hl'
      refine mappingOf_congr fun n hn => ih n hn ?_
      rw [Except.ok.inj ((hr n hn).symm.trans (hr' n hn))]
      exact hv' n hn
    | other ht' | document ht' | environment ht' => simp [ht] at ht'
  | environment ht hget => cases h' with
    | scalar hv => exact hv.elim
    | environment _ hget' =>
      cases hget.symm.trans hget'
      rfl
    | other ht' | document ht' | directory ht' => simp [ht] at ht'

theorem Yields.unique (h : Yields w base q u) (h' : Yields w base q u') : u = u' := by
  obtain ⟨v, hr, hv⟩ := h
  obtain ⟨v', hr', hv'⟩ := h'
  cases hr.symm.trans hr'
  exact hv.unique hv'

/-- A directive that the walk comes to stands for something if the whole value does. -/
theorem Comes.stands (hc : Comes w base s v d a) (h : Expands w base s v u) :
    Stands w base s d a := by
  induction hc generalizing u with
  | here ht => exact ⟨_, u, ht, h⟩
  | under ht _ ih => cases h with
    | scalar hv => exact hv.elim
    | other _ hv => exact ih hv
    | document ht' | directory ht' | environment ht' => simp [ht] at ht'
  | item _ ih => cases h with
    | scalar hv => exact hv.elim
    | item hv => exact ih hv
  | items _ _ ih => cases h with
    | scalar hv => exact hv.elim
    | item _ hvs => exact ih hvs
  | pair _ ih => cases h with
    | scalar hv => exact hv.elim
    | pair hv => exact ih hv
  | pairs _ _ ih => cases h with
    | scalar hv => exact hv.elim
    | pair _ hps => exact ih hps

theorem Unlisted.not_lists (h : Unlisted w q e) : ¬ Lists w q names := by
  rintro ⟨place, access, hq, hlist, -⟩
  cases h with
  | absent hnone => exact hnone place access hq
  | closed hq' hlist' =>
    cases hq.symm.trans hq'
    rw [hlist] at hlist'
    cases hlist'

theorem Unlisted.unique (h : Unlisted w q e) (h' : Unlisted w q e') : e = e' := by
  cases h with
  | absent hnone => cases h' with
    | absent => rfl
    | closed hq => exact absurd hq (hnone _ _)
  | closed hq => cases h' with
    | absent hnone => exact absurd hq (hnone _ _)
    | closed => rfl

theorem Faulty.not_stands (h : Faulty w base s d a e) : ¬ Stands w base s d a := by
  rintro ⟨tag, u, ht, hu⟩
  cases hu with
  | scalar hv => exact hv
  | other ht' => simp [ht] at ht'
  | document ht' =>
    cases ht.symm.trans ht'
    cases h with
    | path _ hs => exact hs _ rfl
  | directory ht' hl =>
    cases ht.symm.trans ht'
    cases h with
    | path _ hs => exact hs _ rfl
    | directory hu => exact hu.not_lists hl
  | environment ht' hget =>
    cases ht.symm.trans ht'
    cases h with
    | path hne => exact hne rfl
    | unset hs => simp [hget] at hs
    | name hs => exact hs _ rfl

/-- What a directive opens stands for something if the directive does. -/
theorem Opens.yields (h : Opens w base s d a q) (hs : Stands w base s d a) :
    ∃ u, Yields w base q u := by
  obtain ⟨tag, u, ht, hu⟩ := hs
  cases hu with
  | scalar hv => exact hv.elim
  | other ht' => simp [ht] at ht'
  | document ht' hr hv =>
    cases ht.symm.trans ht'
    cases h with
    | document => exact ⟨u, _, hr, hv⟩
  | directory ht' hl hr hv =>
    cases ht.symm.trans ht'
    cases h with
    | member hl' =>
      cases hl.unique hl'
      exact ⟨_, _, hr _ (by simp), hv _ (by simp)⟩
  | environment ht' =>
    cases ht.symm.trans ht'
    cases h

/-- The walk comes to one directive that stands for nothing. -/
theorem Comes.unique (h : Comes w base s v d a) (h' : Comes w base s v d' a')
    (hs : ¬ Stands w base s d a) (hs' : ¬ Stands w base s d' a') : d = d' ∧ a = a' := by
  induction h with
  | here ht => cases h' with
    | here ht' => 
      rw [ht] at ht'
      exact ⟨Option.some.inj ht', rfl⟩
    | under ht' => simp [ht] at ht'
  | under ht _ ih => cases h' with
    | here ht' => simp [ht] at ht'
    | under _ h' => exact ih h' hs
  | item h ih => cases h' with
    | item h' => exact ih h' hs
    | items hv => exact absurd (h.stands hv) hs
  | items hv _ ih => cases h' with
    | item h' => exact absurd (h'.stands hv) hs'
    | items _ h' => exact ih h' hs
  | pair h ih => cases h' with
    | pair h' => exact ih h' hs
    | pairs hv => exact absurd (h.stands hv) hs
  | pairs hv _ ih => cases h' with
    | pair h' => exact absurd (h'.stands hv) hs'
    | pairs _ h' => exact ih h' hs

theorem Faulty.unique (h : Faulty w base s d a e) (h' : Faulty w base s d a e') : e = e' := by
  cases h with
  | path hne hs => cases h' with
    | path => rfl
    | directory => exact absurd rfl (hs _)
    | unset => exact absurd rfl hne
    | name => exact absurd rfl hne
  | directory hu => cases h' with
    | path _ hs => exact absurd rfl (hs _)
    | directory hu' => exact hu.unique hu'
  | unset => cases h' with
    | path hne => exact absurd rfl hne
    | unset => rfl
    | name hs => exact absurd rfl (hs _)
  | name hs => cases h' with
    | path hne => exact absurd rfl hne
    | unset => exact absurd rfl (hs _)
    | name => rfl

theorem Faulty.not_opens (h : Faulty w base s d a e) : ¬ Opens w base s d a q := by
  intro ho
  cases ho with
  | document => cases h with
    | path _ hs => exact hs _ rfl
  | member hl => cases h with
    | path _ hs => exact hs _ rfl
    | directory hu => exact hu.not_lists hl

/-- A directive opens one document that stands for nothing. -/
theorem Opens.unique (h : Opens w base s d a q) (h' : Opens w base s d a q')
    (hq : ∀ u, ¬ Yields w base q u) (hq' : ∀ u, ¬ Yields w base q' u) : q = q' := by
  cases h with
  | document => cases h' with
    | document => rfl
  | @member text n pre post hl hpre => cases h' with
    | @member _ n' pre' post' hl' hpre' =>
      let P : OsText → Prop := fun m =>
        ∃ u, Yields w base (documentIn base (target base s text) m) u
      have hn : FirstFailing P (pre ++ n :: post) n :=
        ⟨pre, post, rfl, hpre, fun ⟨u, hu⟩ => hq u hu⟩
      have hn' : FirstFailing P (pre ++ n :: post) n' :=
        ⟨pre', post', hl.unique hl', hpre', fun ⟨u, hu⟩ => hq' u hu⟩
      rw [hn.unique hn']

theorem Stops.not_yields (h : Stops w base q e) : ¬ Yields w base q u := by
  rintro ⟨v, hr, hv⟩
  cases h with
  | unread hr' => cases hr.symm.trans hr'
  | faulty hr' hc hf =>
    cases hr.symm.trans hr'
    exact hf.not_stands (hc.stands hv)

theorem Stops.unique (h : Stops w base q e) (h' : Stops w base q e') : e = e' := by
  cases h with
  | unread hr => cases h' with
    | unread hr' => exact Except.error.inj (hr.symm.trans hr')
    | faulty hr' => cases hr.symm.trans hr'
  | faulty hr hc hf => cases h' with
    | unread hr' => cases hr.symm.trans hr'
    | faulty hr' hc' hf' =>
      cases hr.symm.trans hr'
      obtain ⟨rfl, rfl⟩ := hc.unique hc' hf.not_stands hf'.not_stands
      exact hf.unique hf'

/-- A document that stands for something opens only such documents. -/
theorem Enters.yields (h : Enters w base q q') (hq : Yields w base q u) :
    ∃ u', Yields w base q' u' := by
  obtain ⟨v, d, a, hr, hc, ho⟩ := h
  obtain ⟨v', hr', hv⟩ := hq
  cases hr.symm.trans hr'
  exact ho.yields (hc.stands hv)

/-- A document opens one document that stands for nothing. -/
theorem Enters.unique (h : Enters w base q q') (h' : Enters w base q q'')
    (hq' : ∀ u, ¬ Yields w base q' u) (hq'' : ∀ u, ¬ Yields w base q'' u) : q' = q'' := by
  obtain ⟨v, d, a, hr, hc, ho⟩ := h
  obtain ⟨v', d', a', hr', hc', ho'⟩ := h'
  cases hr.symm.trans hr'
  have hs : ¬ Stands w base q d a := fun hs => (ho.yields hs).elim hq'
  have hs' : ¬ Stands w base q d' a' := fun hs => (ho'.yields hs).elim hq''
  obtain ⟨rfl, rfl⟩ := hc.unique hc' hs hs'
  exact ho.unique ho' hq' hq''

/-- A document that fails where it stands opens none that stands for nothing. -/
theorem Stops.not_enters (h : Stops w base q e) (he : Enters w base q q')
    (hq' : ∀ u, ¬ Yields w base q' u) : False := by
  obtain ⟨v, d, a, hr, hc, ho⟩ := he
  have hs : ¬ Stands w base q d a := fun hs => (ho.yields hs).elim hq'
  cases h with
  | unread hr' => cases hr.symm.trans hr'
  | faulty hr' hc' hf =>
    cases hr.symm.trans hr'
    obtain ⟨rfl, rfl⟩ := hc.unique hc' hs hf.not_stands
    exact hf.not_opens ho

theorem Fails.not_yields (h : Fails w base q e) : ∀ u, ¬ Yields w base q u := by
  induction h with
  | stops hs => exact fun u => hs.not_yields
  | enters he _ ih =>
    intro u hu
    obtain ⟨u', hu'⟩ := he.yields hu
    exact ih u' hu'

theorem Fails.unique (h : Fails w base q e) (h' : Fails w base q e') : e = e' := by
  induction h with
  | stops hs => cases h' with
    | stops hs' => exact hs.unique hs'
    | enters he' h' => exact (hs.not_enters he' h'.not_yields).elim
  | enters he h ih => cases h' with
    | stops hs' => exact (hs'.not_enters he h.not_yields).elim
    | enters he' h' =>
      cases he.unique he' h.not_yields h'.not_yields
      exact ih h'

end Unique

end Document

end SmartHome
