import SmartHome.Dict
import SmartHome.Files.Path

/-!
# File trees

The files and directories that documents are read from, by their places: lists of names from the
root. A path is followed name by name from the working directory or the root; `..` goes back one
name, and only a directory can be gone through, and only if it allows that.
-/

namespace SmartHome

/-- A place: names from the root. -/
abbrev Place := List OsText

/-- What a directory allows: to list the names in it, and to go through it to what they name. -/
structure Access where
  list : Bool
  search : Bool
  deriving DecidableEq

def Access.full : Access := ⟨true, true⟩

inductive Entry where
  /-- A file with its text, or without one if its bytes are no text or cannot be read. -/
  | file (text : Option String)
  | directory (access : Access)
  deriving DecidableEq

structure FileTree where
  workingDirectory : Place
  entries : Dict Place Entry

/-- Where a path leads. -/
inductive Lookup where
  | missing
  /-- Something is there, or the path is too long, ill-formed or not permitted to say. -/
  | unusable
  | found (place : Place) (entry : Entry)
  deriving DecidableEq

namespace FileTree

/-- The place leads to the working directory, or to an entry below it. -/
def hasBelow (t : FileTree) (place : Place) : Bool :=
  place.isPrefixOf t.workingDirectory
    || t.entries.keys.any fun key => place.isPrefixOf key && place ≠ key

/-- What the directory at a place allows: everything, unless something else is recorded. -/
def accessAt (t : FileTree) (place : Place) : Access :=
  match t.entries.get? place with
  | some (.directory access) => access
  | _ => .full

/-- What is at a place; whatever has an entry below it is a directory. -/
def entry? (t : FileTree) (place : Place) : Option Entry :=
  if t.hasBelow place then some (.directory (t.accessAt place)) else t.entries.get? place

/-- The longest name and the longest path, in bytes. -/
def nameLimit : Nat := 255
def pathLimit : Nat := 4095

/-- Follow the pieces of a path from a place. Every piece but an empty one is looked up in the
directory, the dots as well. -/
def follow (t : FileTree) (place : Place) : List (List UInt8) → Lookup
  | [] => match t.entry? place with
    | some e => .found place e
    | none => .missing
  | s :: ss =>
    match t.entry? place with
    | none => .missing
    | some (.file _) => .unusable
    | some (.directory access) =>
      if s = [] then follow t place ss
      else if !access.search then .unusable
      else if s = [Path.dot] then follow t place ss
      else if s = [Path.dot, Path.dot] then follow t place.dropLast ss
      else if nameLimit < s.length then .unusable
      else follow t (place ++ [⟨s⟩]) ss

/-- Where a path leads. -/
def lookup (t : FileTree) (p : Path) : Lookup :=
  if p.bytes.isEmpty then .missing
  else if p.bytes.contains 0 || pathLimit < p.bytes.length then .unusable
  else t.follow (if p.isAbsolute then [] else t.workingDirectory) p.segments

def isDirectory (t : FileTree) (p : Path) : Bool :=
  match t.lookup p with
  | .found _ (.directory _) => true
  | _ => false

def isFile (t : FileTree) (p : Path) : Bool :=
  match t.lookup p with
  | .found _ (.file _) => true
  | _ => false

/-- The path leads to something. -/
def pathExists (t : FileTree) (p : Path) : Bool :=
  match t.lookup p with
  | .found _ _ => true
  | _ => false

/-- The name of an entry that is a file directly in the directory at a place. -/
def nameIn? (place : Place) : Place × Entry → Option OsText
  | (key, .file _) =>
    key.getLast?.bind fun name => if key.dropLast = place then some name else none
  | (_, .directory _) => none

/-- The names of the files directly in the directory at a place. -/
def namesIn (t : FileTree) (place : Place) : List OsText :=
  t.entries.entries.filterMap (nameIn? place)

/-- The names of the files directly in a directory, if the directory can be listed. -/
def names? (t : FileTree) (p : Path) : Option (List OsText) :=
  match t.lookup p with
  | .found place (.directory access) => if access.list then some (t.namesIn place) else none
  | _ => none

/-- The number of names that a path can go through without leaving the tree. -/
def nameCount (t : FileTree) : Nat :=
  (t.workingDirectory ++ t.entries.keys.flatten).length

end FileTree

end SmartHome
