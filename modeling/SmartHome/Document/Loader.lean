import SmartHome.Document.Error
import SmartHome.Files.Tree
import SmartHome.Text.Sorted

/-!
# Loading documents with their tags expanded

Three tags stand for something else: `!include` for the document at a path, `!include_dir_named` for
the mapping from the names of a directory's documents to the documents, `!env_var` for the text of
an environment variable. A relative path is read from the directory of the document in which the tag
stands. Tags inside of other tags' values are expanded, tags inside of mapping keys are not.

A document that is included while it is still being expanded is an error, so the documents under
expansion differ pairwise in the components of their paths; as there are only finitely many paths
that lead to a file, expansion ends.
-/

namespace SmartHome

/-- What loading depends on besides the document: files and environment variables. -/
structure Workspace where
  files : FileTree
  environment : Dict String String

namespace Document

open Yaml (Value)

/-- The text of the file at a path. -/
def readText (files : FileTree) (path : Path) : Except DocumentError String :=
  match files.lookup path with
  | .missing => .error (.notFound path)
  | .found _ (.file (some text)) => .ok text
  | .unusable | .found _ _ => .error (.unreadable path)

/-- Documents have one of two extensions. -/
def isDocumentName (name : OsText) : Bool :=
  (Path.extension? name).any fun (extension : OsText) => extension = "yaml" || extension = "yml"

/-- The documents of a directory, sorted by name. Each is looked up by the directory's path with its
name, and one that is not found like that is left out. -/
def filesIn (files : FileTree) (directory : Path) : Except DocumentError (List (OsText × Path)) :=
  if files.isDirectory directory then
    match files.names? directory with
    | some names =>
      let names := names.filter fun name =>
        files.isFile (directory.join ⟨name⟩) && isDocumentName name
      .ok ((Sorted.sort OsText.bytes names).map fun name => (name, directory.join ⟨name⟩))
    | none => .error (.unreadable directory)
  else .error (.directoryNotFound directory)

/-- The directory of a document, or the base directory if the document's path has none. -/
def directoryOf (base source : Path) : Path :=
  match source.parent? with
  | some d => if d.bytes.isEmpty then base else d
  | none => base

/-- The path that a tag's argument means in a document: read from the document's directory. -/
def tagPath (base source : Path) (tag : String) (argument : Value) : Except DocumentError Path :=
  match argument with
  | .string text => .ok ((directoryOf base source).join ⟨text⟩)
  | argument => .error (.invalidIncludePath tag argument)

/-- The text of the variable that a tag's argument names. -/
def variableText (environment : Dict String String) : Value → Except DocumentError Value
  | .string name => match environment.get? name with
    | some text => .ok (.string text)
    | none => .error (.variableNotSet name)
  | _ => .error .invalidVariableName

section Expansion

variable (workspace : Workspace) (base : Path) (load : Path → Except DocumentError Value)

/-- The documents of a directory by their names without extension; of two with one name the later
one counts, in the place of the earlier. -/
def directoryMapping (directory : Path) : Except DocumentError Value := do
  let pairs ← (← filesIn workspace.files directory).foldlM (fun pairs file => do
    let v ← load file.2
    pure (Value.insert (.string (Path.stem file.1)) v pairs)) []
  pure (.mapping pairs)

mutual

/-- Expand the tags of a value that stands in the document `source`; `load` gives the documents that
it includes. -/
def expand (source : Path) : Value → Except DocumentError Value
  | .tagged tag v => match tag with
    | "include" => do load (← tagPath base source tag v)
    | "include_dir_named" => do
      directoryMapping workspace load (← tagPath base source tag v)
    | "env_var" => variableText workspace.environment v
    | tag => do pure (.tagged tag (← expand source v))
  | .sequence items => do pure (.sequence (← expandItems source items))
  | .mapping pairs => do pure (.mapping (← expandPairs source pairs))
  | v => .ok v

def expandItems (source : Path) : List Value → Except DocumentError (List Value)
  | [] => .ok []
  | v :: vs => do
    let v ← expand source v
    pure (v :: (← expandItems source vs))

def expandPairs (source : Path) : List (Value × Value) → Except DocumentError (List (Value × Value))
  | [] => .ok []
  | (k, v) :: ps => do
    let v ← expand source v
    pure ((k, v) :: (← expandPairs source ps))

end

/-- Expand the document of a text; its path is used for errors and for relative paths in it. -/
def expandText (text : String) (source : Path) : Except DocumentError Value :=
  match Value.ofText? text with
  | some v => expand workspace base load source v
  | none => .error (.malformed source)

end Expansion

/-- Load the document at a path, the documents under expansion given. The fuel bounds their
number. -/
def loadWithin (workspace : Workspace) (base : Path) :
    Nat → List Path → Path → Except DocumentError Value
  | 0, _, path => .error (.circularInclude path)
  | fuel + 1, within, path => do
    let path := base.join path
    if within.any fun p => p.components = path.components then .error (.circularInclude path)
    else
      let text ← readText workspace.files path
      expandText workspace base (loadWithin workspace base fuel (path :: within)) text path

/-- More than the number of paths, up to their components, that lead to a file: the components of a
path that is not too long are at most that many, and each is a name of the tree, a mark in front or
`..`. -/
def pathBound (files : FileTree) : Nat :=
  Nat.pow (files.nameCount + 4) (FileTree.pathLimit + 2)

/-- Load the document at a path; relative paths are read from the base directory. -/
def load (workspace : Workspace) (base path : Path) : Except DocumentError Value :=
  loadWithin workspace base (pathBound workspace.files) [] path

/-- Load the document of a text under the name of a source. -/
def loadText (workspace : Workspace) (base : Path) (text : String) (source : Path) :
    Except DocumentError Value :=
  expandText workspace base (load workspace base) text source

/-- The directory from which documents are read unless told otherwise. -/
def here : Path := ⟨"."⟩

end Document

end SmartHome
