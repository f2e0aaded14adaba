import SmartHome.Document.Session
import SmartHome.Proofs.Loading

/-!
# A loader remembers nothing

Whatever a loader is asked for, it answers as if it had never been asked before: a call gives what
loading gives with the documents on the stack under expansion, and leaves the loader as it was
(`loadFile_leaves`). Every step of an expansion does so if the loading of included documents does
(`expand_leaves`), whether it fails or not, and a document is taken from the stack again before its
result is looked at. So the answers of one loader are those of a new loader for each request
(`answers_forget`).
-/

namespace SmartHome

namespace Document

open Yaml (Value)

/-- Run by the loader, it gives the result and leaves the loader as it is. -/
def Leaves {α : Type} (x : Session α) (loader : Loader) (r : Except DocumentError α) : Prop :=
  x.run.run loader = (r, loader)

namespace Leaves

variable {α β : Type} {loader : Loader} {x : Session α} {r : Except DocumentError α}

theorem pure (a : α) : Leaves (Pure.pure a) loader (.ok a) := rfl

theorem throw (e : DocumentError) :
    Leaves (MonadExcept.throw e : Session α) loader (.error e) := rfl

theorem get : Leaves (MonadState.get : Session Loader) loader (.ok loader) := rfl

theorem ofExcept (r : Except DocumentError α) : Leaves (MonadExcept.ofExcept r) loader r := by
  cases r <;> rfl

theorem bind {f : α → Session β} {g : α → Except DocumentError β} (hx : Leaves x loader r)
    (hf : ∀ a, Leaves (f a) loader (g a)) : Leaves (x >>= f) loader (r >>= g) := by
  rw [Leaves] at hx ⊢
  rw [ExceptT.run_bind, StateT.run_bind, hx]
  rcases r with e | a
  · rfl
  · exact hf a

theorem bind_ok {a : α} {f : α → Session β} {g : Except DocumentError β}
    (hx : Leaves x loader (.ok a)) (hf : Leaves (f a) loader g) : Leaves (x >>= f) loader g := by
  rw [Leaves] at hx ⊢
  rw [ExceptT.run_bind, StateT.run_bind, hx]
  exact hf

theorem map (f : α → β) (hx : Leaves x loader r) :
    Leaves (do Pure.pure (f (← x))) loader (r.map f) := by
  have h : Leaves (do Pure.pure (f (← x))) loader (r >>= fun a => .ok (f a)) :=
    hx.bind fun a => pure (f a)
  rcases r <;> exact h

theorem foldlM {f : β → α → Session β} {g : β → α → Except DocumentError β}
    (h : ∀ b a, Leaves (f b a) loader (g b a)) :
    ∀ (as : List α) (b : β), Leaves (as.foldlM f b) loader (as.foldlM g b)
  | [], b => pure b
  | a :: as, b => by
    rw [List.foldlM_cons, List.foldlM_cons]
    exact (h b a).bind fun b' => foldlM h as b'

end Leaves

section Expansion

variable {w : Workspace} {load : Path → Session Value} {loader : Loader}
  {plain : Path → Except DocumentError Value}

theorem tagPath_leaves (s : Path) (tag : String) (a : Value) :
    Leaves (Session.tagPath s tag a) loader (tagPath loader.base s tag a) :=
  Leaves.get.bind fun _ => .ofExcept _

theorem directoryMapping_leaves (hload : ∀ p, Leaves (load p) loader (plain p)) (folder : Path) :
    Leaves (Session.directoryMapping w load folder) loader (directoryMapping w plain folder) := by
  refine (Leaves.ofExcept _).bind fun files => ?_
  refine (Leaves.foldlM (fun pairs file => ?_) files []).bind fun _ => .pure _
  exact (hload file.2).bind fun _ => .pure _

theorem expand_tagged_leaves (hload : ∀ p, Leaves (load p) loader (plain p)) {s : Path}
    {tag : String} {a : Value}
    (ih : Leaves (Session.expand w load s a) loader (expand w loader.base plain s a)) :
    Leaves (Session.expand w load s (.tagged tag a)) loader
      (expand w loader.base plain s (.tagged tag a)) := by
  have differs : ∀ d : Directive, Directive.ofTag? tag = none → tag ≠ d.tag := by
    rintro d hnone rfl
    rw [Directive.ofTag?_tag] at hnone
    cases hnone
  rcases hd : Directive.ofTag? tag with _ | d
  · rw [expand_tagged, hd, Session.expand]
    · exact ih.map (Value.tagged tag)
    · exact differs .document hd
    · exact differs .directory hd
    · exact differs .environment hd
  · rw [Directive.tag_of_ofTag? hd]
    cases d with
    | document => exact (tagPath_leaves s _ a).bind hload
    | directory => exact (tagPath_leaves s _ a).bind (directoryMapping_leaves hload)
    | environment => exact .ofExcept _

mutual

theorem expand_leaves (hload : ∀ p, Leaves (load p) loader (plain p)) (s : Path) : ∀ v : Value,
    Leaves (Session.expand w load s v) loader (expand w loader.base plain s v)
  | .null | .bool _ | .number _ | .string _ => .pure _
  | .sequence vs => by
    rw [Session.expand, expand]
    exact (expandItems_leaves hload s vs).bind fun _ => .pure _
  | .mapping ps => by
    rw [Session.expand, expand]
    exact (expandPairs_leaves hload s ps).bind fun _ => .pure _
  | .tagged _ a => expand_tagged_leaves hload (expand_leaves hload s a)

theorem expandItems_leaves (hload : ∀ p, Leaves (load p) loader (plain p)) (s : Path) :
    ∀ vs : List Value,
      Leaves (Session.expandItems w load s vs) loader (expandItems w loader.base plain s vs)
  | [] => .pure _
  | v :: vs => by
    rw [Session.expandItems, expandItems]
    refine (expand_leaves hload s v).bind fun _ => ?_
    exact (expandItems_leaves hload s vs).bind fun _ => .pure _

theorem expandPairs_leaves (hload : ∀ p, Leaves (load p) loader (plain p)) (s : Path) :
    ∀ ps : List (Value × Value),
      Leaves (Session.expandPairs w load s ps) loader (expandPairs w loader.base plain s ps)
  | [] => .pure _
  | (k, v) :: ps => by
    rw [Session.expandPairs, expandPairs]
    refine (expand_leaves hload s v).bind fun _ => ?_
    exact (expandPairs_leaves hload s ps).bind fun _ => .pure _

end

theorem expandText_leaves (hload : ∀ p, Leaves (load p) loader (plain p)) (text : String)
    (s : Path) :
    Leaves (Session.expandText w load text s) loader (expandText w loader.base plain text s) := by
  rw [Session.expandText, expandText]
  rcases Value.ofText? text with _ | v
  · exact .throw _
  · exact expand_leaves hload s v

end Expansion

section Load

variable {w : Workspace} {loader : Loader}

theorem pop_push (loader : Loader) (p : Path) : (loader.push p).pop = loader := by
  rw [Loader.push, Loader.pop, List.dropLast_concat]

theorem whileExpanding_leaves {α : Type} {x : Session α} {r : Except DocumentError α} {p : Path}
    (h : Leaves x (loader.push p) r) : Leaves (Session.whileExpanding p x) loader r := by
  have hrun : (Session.whileExpanding p x).run.run loader = match x.run.run (loader.push p) with
      | (result, after) => (result, after.pop) := rfl
  rw [Leaves, hrun, h]
  exact congrArg (Prod.mk r) (pop_push loader p)

/-- With the documents on a loader's stack under expansion, it loads what loading gives. -/
theorem loadFile_leaves : ∀ (fuel : Nat) (loader : Loader) (p : Path),
    Leaves (Session.loadFile w fuel p) loader
      (loadWithin w loader.base fuel loader.stack.reverse p)
  | 0, _, _ => .throw _
  | fuel + 1, loader, p => by
    have hstack : (loader.push (loader.base.join p)).stack.reverse
        = loader.base.join p :: loader.stack.reverse := by
      rw [Loader.push, List.reverse_concat]
    have hexpanding : (loader.stack.reverse.any fun q =>
        q.components = (loader.base.join p).components) = loader.isExpanding (loader.base.join p) :=
      List.any_reverse
    have hload := loadFile_leaves fuel (loader.push (loader.base.join p))
    rw [hstack] at hload
    rw [Session.loadFile, loadWithin, hexpanding]
    refine Leaves.get.bind_ok ?_
    by_cases hp : loader.isExpanding (loader.base.join p) = true
    · rw [if_pos hp, if_pos hp]
      exact .throw _
    · rw [if_neg hp, if_neg hp]
      refine (Leaves.ofExcept _).bind fun text => ?_
      exact whileExpanding_leaves (expandText_leaves hload text _)

theorem loadText_leaves (fuel : Nat) (loader : Loader) (text : String) (source : Path) :
    Leaves (Session.loadText w fuel text source) loader (expandText w loader.base
      (loadWithin w loader.base fuel loader.stack.reverse) text source) :=
  expandText_leaves (loadFile_leaves fuel loader) text source

end Load

section Answers

variable {w : Workspace} {loader : Loader}

theorem answer_leaves (request : Request) :
    loader.answer w request = ((loader.answer w request).1, loader) := by
  cases request with
  | file path => rw [Loader.answer, loadFile_leaves]
  | text text source => rw [Loader.answer, loadText_leaves]

theorem answers_eq_map : ∀ requests : List Request,
    loader.answers w requests = requests.map fun request => (loader.answer w request).1
  | [] => rfl
  | request :: requests => by
    rw [Loader.answers, answer_leaves, List.map_cons, ← answers_eq_map requests]

/-- Every call leaves the loader as it was, whatever is on its stack and whether it succeeds or
fails. So a loader answers each of a list of requests as a new loader does, which gives what loading
gives; the bound on the documents under expansion plays no part. -/
theorem answers_forget (w : Workspace) :
    (∀ fuel loader path, ((Session.loadFile w fuel path).run.run loader).2 = loader)
      ∧ (∀ fuel loader text source,
        ((Session.loadText w fuel text source).run.run loader).2 = loader)
      ∧ (∀ base requests, (Loader.new base).answers w requests
        = requests.map fun request => ((Loader.new base).answer w request).1)
      ∧ (∀ base n path, (Session.loadFile w (pathBound w.files + n) path).run.run (.new base)
        = (load w base path, .new base))
      ∧ ∀ base n text source,
        (Session.loadText w (pathBound w.files + n) text source).run.run (.new base)
          = (loadText w base text source, .new base) := by
  refine ⟨fun fuel loader path => ?_, fun fuel loader text source => ?_,
    fun base => answers_eq_map, fun base n path => ?_, fun base n text source => ?_⟩
  · rw [loadFile_leaves]
  · rw [loadText_leaves]
  · have hleaves := loadFile_leaves (w := w) (pathBound w.files + n) (.new base) path
    rw [← loadWithin_eq_load w base n]
    exact hleaves
  · have hleaves := loadText_leaves (w := w) (pathBound w.files + n) (.new base) text source
    rw [loadText, ← loadWithin_eq_load w base n]
    exact hleaves

end Answers

/-- A document that cannot be loaded two files deep, asked for between two requests for another. -/
example : (Loader.new here).answers
    ⟨⟨["home"], ⟨[(["home", "a.yaml"], .file (some "!include b.yaml\n")),
      (["home", "b.yaml"], .file (some "- !include c.yaml\n- !include d.yaml\n")),
      (["home", "c.yaml"], .file (some "1\n"))], by decide⟩⟩, .empty⟩
    [.file ⟨"c.yaml"⟩, .file ⟨"a.yaml"⟩, .text "x: !include c.yaml" ⟨"b.yaml"⟩]
  = [.ok (.number (.int 1)), .error (.notFound ⟨"././d.yaml"⟩),
    .ok (.mapping [(.string "x", .number (.int 1))])] := by decide +kernel

end Document

end SmartHome
