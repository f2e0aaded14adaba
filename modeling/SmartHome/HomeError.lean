import SmartHome.Decode.Fault
import SmartHome.Document.Error
import SmartHome.Symbol

/-!
# Why a home cannot be compiled

Every error ends the work on the home; the constructors are the causes, from reading the documents
to substituting symbols.
-/

namespace SmartHome

/-- Why a symbol has no usable value. -/
inductive SymbolProblem where
  | malformed (error : SymbolError)
  | unknown
  /-- The value is no feature flag. -/
  | notAFlag
  deriving DecidableEq

namespace SymbolProblem

def message : SymbolProblem → String
  | malformed e => e.message
  | unknown => "unknown symbol"
  | notAFlag => "feature flags must be non-negative integers"

end SymbolProblem

inductive HomeError where
  /-- A document or a directory is not there. -/
  | notFound (path : Path)
  | undecodableHome (source : String) (fault : Decode.Fault)
  | undecodableType (source : String) (fault : Decode.Fault)
  /-- A device type is stored under another name than its own. -/
  | misnamedType (source id : String)
  | duplicateType (id : String)
  | unknownType (device typeId : String)
  | unsupportedAttribute (device typeId name : String)
  /-- There is no device type at all. -/
  | noTypes
  | unknownPreset (device typeId key : String) (known : List String)
  | unresolved (token : String) (problem : SymbolProblem)
  /-- A preset is selected for a device that the home does not have; without an area, for one that
  stands in none. -/
  | noDevice (area : Option String) (name : String)
  /-- Loading a document fails in another way. -/
  | document (error : DocumentError)

namespace HomeError

def message : HomeError → String
  | notFound p => "configuration file '" ++ p.text ++ "' does not exist"
  | undecodableHome source fault =>
    "unable to parse home document " ++ source ++ ": " ++ fault.message
  | undecodableType source fault =>
    "unable to decode device type " ++ source ++ ": " ++ fault.message
  | misnamedType source id => "device type '" ++ id ++ "' name does not match '" ++ source ++ "'"
  | duplicateType id => "device type registry contains duplicate device type '" ++ id ++ "'"
  | unknownType device typeId =>
    "device '" ++ device ++ "' has device type '" ++ typeId
      ++ "' not found in device type registry"
  | unsupportedAttribute device typeId name =>
    "device '" ++ device ++ "' has attribute '" ++ name ++ "' not supported by device type '"
      ++ typeId ++ "'"
  | noTypes => "device type registry is empty"
  | unknownPreset device typeId key known =>
    "device '" ++ device ++ "' has restorable attributes key '" ++ key
      ++ "' not found in device type '" ++ typeId ++ "', expected one of: "
      ++ String.intercalate ", " known
  | unresolved token problem =>
    "unable to resolve symbol '" ++ token ++ "' (expected '" ++ Symbol.shape ++ "'): "
      ++ problem.message
  | noDevice area name =>
    "device '" ++ name ++ "' not found in area '" ++ area.getD "<services>" ++ "'"
  | document e => e.message

/-- What a failure to load a document means for a home. -/
def ofDocument : DocumentError → HomeError
  | .notFound p | .directoryNotFound p => notFound p
  | .malformed p => undecodableHome p.text ⟨[], .malformed⟩
  | e => document e

end HomeError

end SmartHome
