import SmartHome.Document.Loader

/-!
# One loader for many documents

A loader keeps the documents that it is expanding on a stack, and is asked for one document after
another, by its path or by its text. Whatever a request ends in, the loader answers the next one
with the stack that it was left with.
-/

namespace SmartHome

namespace Document

open Yaml (Value)

/-- The directory that relative paths are read from, and the documents under expansion, the
innermost last. -/
structure Loader where
  base : Path
  stack : List Path
  deriving DecidableEq

namespace Loader

def new (base : Path) : Loader := ⟨base, []⟩

def push (path : Path) (loader : Loader) : Loader :=
  { loader with stack := loader.stack ++ [path] }

def pop (loader : Loader) : Loader := { loader with stack := loader.stack.dropLast }

/-- The document at the path is under expansion. -/
def isExpanding (loader : Loader) (path : Path) : Bool :=
  loader.stack.any fun p => p.components = path.components

end Loader

/-- What a loader does: it ends in a result or an error, and is left in some state by both. -/
abbrev Session := ExceptT DocumentError (StateM Loader)

namespace Session

section Expansion

variable (workspace : Workspace) (load : Path → Session Value)

/-- The path that a tag's argument means in a document. -/
def tagPath (source : Path) (tag : String) (argument : Value) : Session Path := do
  MonadExcept.ofExcept (Document.tagPath (← get).base source tag argument)

/-- The documents of a directory by their names without extension. -/
def directoryMapping (directory : Path) : Session Value := do
  let files ← MonadExcept.ofExcept (filesIn workspace.files directory)
  let pairs ← files.foldlM (fun pairs file => do
    let v ← load file.2
    pure (Value.insert (.string (Path.stem file.1)) v pairs)) []
  pure (.mapping pairs)

mutual

/-- Expand the tags of a value that stands in the document `source`. -/
def expand (source : Path) : Value → Session Value
  | .tagged tag v => match tag with
    | "include" => do load (← tagPath source tag v)
    | "include_dir_named" => do directoryMapping workspace load (← tagPath source tag v)
    | "env_var" => MonadExcept.ofExcept (variableText workspace.environment v)
    | tag => do pure (.tagged tag (← expand source v))
  | .sequence items => do pure (.sequence (← expandItems source items))
  | .mapping pairs => do pure (.mapping (← expandPairs source pairs))
  | v => pure v

def expandItems (source : Path) : List Value → Session (List Value)
  | [] => pure []
  | v :: vs => do
    let v ← expand source v
    pure (v :: (← expandItems source vs))

def expandPairs (source : Path) : List (Value × Value) → Session (List (Value × Value))
  | [] => pure []
  | (k, v) :: ps => do
    let v ← expand source v
    pure ((k, v) :: (← expandPairs source ps))

end

/-- Expand the document of a text. -/
def expandText (text : String) (source : Path) : Session Value :=
  match Value.ofText? text with
  | some v => expand workspace load source v
  | none => throw (.malformed source)

end Expansion

/-- Do something with a document on the stack. The document is taken from the stack again before the
result is looked at, be it a value or an error. -/
def whileExpanding {α : Type} (path : Path) (x : Session α) : Session α := ExceptT.mk do
  modify (Loader.push path)
  let result ← x.run
  modify Loader.pop
  pure result

/-- Load the document at a path. The fuel bounds the number of documents under expansion. -/
def loadFile (workspace : Workspace) : Nat → Path → Session Value
  | 0, path => throw (.circularInclude path)
  | fuel + 1, path => do
    let loader ← get
    let path := loader.base.join path
    if loader.isExpanding path then throw (.circularInclude path)
    else
      let text ← MonadExcept.ofExcept (readText workspace.files path)
      whileExpanding path (expandText workspace (loadFile workspace fuel) text path)

/-- Load the document of a text under the name of a source. -/
def loadText (workspace : Workspace) (fuel : Nat) (text : String) (source : Path) : Session Value :=
  expandText workspace (loadFile workspace fuel) text source

end Session

/-- A document that a loader is asked for. -/
inductive Request where
  | file (path : Path)
  | text (text : String) (source : Path)

namespace Loader

/-- The answer to a request, and the loader after it. -/
def answer (workspace : Workspace) (loader : Loader) : Request → Except DocumentError Value × Loader
  | .file path => (Session.loadFile workspace (pathBound workspace.files) path).run.run loader
  | .text text source =>
    (Session.loadText workspace (pathBound workspace.files) text source).run.run loader

/-- The answers of one loader to requests made one after the other. -/
def answers (workspace : Workspace) (loader : Loader) :
    List Request → List (Except DocumentError Value)
  | [] => []
  | request :: requests =>
    let (result, after) := loader.answer workspace request
    result :: after.answers workspace requests

end Loader

end Document

end SmartHome
