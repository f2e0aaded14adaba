/-!
# Tokens of a document

The marks and words of a document's text. Where indentation opens or closes a block, and where a
mapping key begins, the text has no mark of its own; those tokens are inferred from the layout.
-/

namespace SmartHome

namespace Yaml

inductive Token where
  | version (major minor : Nat)
  /-- Tags with the handle stand for tags that begin with the replacement. -/
  | tagHandle (handle replacement : String)
  | documentStart
  | documentEnd
  | blockSequenceStart
  | blockMappingStart
  | blockEnd
  | flowSequenceStart
  | flowSequenceEnd
  | flowMappingStart
  | flowMappingEnd
  | blockEntry
  | flowEntry
  | key
  | value
  | aliasOf (name : String)
  | anchor (name : String)
  | tag (handle suffix : String)
  /-- A scalar's text, and whether it was written without quotes or a block header. -/
  | scalar (text : String) (plain : Bool)
  deriving DecidableEq, Inhabited

end Yaml

end SmartHome
