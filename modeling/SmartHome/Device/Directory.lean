import SmartHome.Device.Decode
import SmartHome.Device.Registry
import SmartHome.Document.Loader

/-!
# Registries read from a directory

Every document directly in the directory holds one device type, and its name without extension is
the type's identifier. The documents are read in the order of their names, and the first one that
fails decides the error.
-/

namespace SmartHome

namespace Registry

/-- Decode a device type that comes from `source`. -/
def decodeType (source : String) (s : Decode.Source) : Except HomeError DeviceType :=
  (Decode.deviceType s).mapError (.undecodableType source)

/-- The device type in a document. -/
def readType (workspace : Workspace) (file : Path) : Except HomeError DeviceType :=
  match Document.load workspace Document.here file with
  | .ok v => decodeType file.text (.value v)
  | .error (.malformed _) => .error (.undecodableType file.text ⟨[], .malformed⟩)
  | .error e => .error (.ofDocument e)

/-- Add the device type of a document, given by its name and its path. -/
def addDocument (workspace : Workspace) (r : Registry) (file : OsText × Path) :
    Except HomeError Registry := do
  let t ← readType workspace file.2
  if t.id = Path.stem file.1 then r.insert t else throw (.misnamedType file.2.text t.id)

/-- The device types of a directory. -/
def ofDirectory (workspace : Workspace) (directory : Path) : Except HomeError Registry := do
  let files ← (Document.filesIn workspace.files directory).mapError .ofDocument
  files.foldlM (addDocument workspace) empty

end Registry

end SmartHome
