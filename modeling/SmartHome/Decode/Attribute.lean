import SmartHome.Decode.Source
import SmartHome.Json.Basic

/-!
# Decoding attribute values

An attribute's value is a document value without local tags and with texts for keys. Doubles that
have no written form become null, and a name given twice keeps its first place and its last value.
-/

namespace SmartHome

namespace Decode

open Yaml (Value Node)

/-- Write a field of an object. -/
def insertField (k : String) (v : Json) (fields : List (String × Json)) : List (String × Json) :=
  Dict.upsert k v fields

def ofNumber : Number → Json
  | .int i => .number (.int i)
  | .float x => .ofBinary64 x

/-- What a key of an object has to be; the first key is announced in other words. -/
def keyKind (first : Bool) : String := if first then "a string key" else "a string"

mutual

/-- The attribute value of a loaded value. -/
def attributeOfValue : Value → Except Fault Json
  | .null => .ok .null
  | .bool b => .ok (.bool b)
  | .number n => .ok (ofNumber n)
  | .string s => .ok (.string s)
  | .sequence vs => do pure (.array (← attributesOfValues vs))
  | .mapping ps => do pure (.object (← fieldsOfValues true [] ps))
  | .tagged _ _ => .error ⟨[], .invalidType .tagged "any valid JSON value"⟩

def attributesOfValues : List Value → Except Fault (List Json)
  | [] => .ok []
  | v :: vs => do
    let v ← attributeOfValue v
    pure (v :: (← attributesOfValues vs))

def fieldsOfValues (first : Bool) (before : List (String × Json)) :
    List (Value × Value) → Except Fault (List (String × Json))
  | [] => .ok before
  | (k, v) :: ps => do
    let k ← (Source.value k).textAs (keyKind first)
    let v ← attributeOfValue v
    fieldsOfValues false (insertField k v before) ps

end

mutual

/-- The attribute value of a node at the end of a trail. -/
def attributeOfNode (trail : Trail) : Node → Except Fault Json
  | .scalar tag text plain =>
    if (tag.bind Yaml.Scalar.localTag?).isSome then
      .error ⟨trail, .invalidType .tagged "any valid JSON value"⟩
    else match Yaml.Scalar.ofTagged? tag text plain with
      | some .null => .ok .null
      | some (.bool b) => .ok (.bool b)
      | some (.number n) => .ok (ofNumber n)
      | some (.string s) => .ok (.string s)
      | some .tooLarge | none => .error ⟨trail, .malformed⟩
  | .sequence tag ns =>
    if (tag.bind Yaml.Scalar.localTag?).isSome then
      .error ⟨trail, .invalidType .tagged "any valid JSON value"⟩
    else do pure (.array (← attributesOfNodes trail 0 ns))
  | .mapping tag ps =>
    if (tag.bind Yaml.Scalar.localTag?).isSome then
      .error ⟨trail, .invalidType .tagged "any valid JSON value"⟩
    else do pure (.object (← fieldsOfNodes trail true [] ps))
  | .unreadable => .error ⟨trail, .malformed⟩

def attributesOfNodes (trail : Trail) (i : Nat) : List Node → Except Fault (List Json)
  | [] => .ok []
  | n :: ns => do
    let v ← attributeOfNode (trail ++ [.index i]) n
    pure (v :: (← attributesOfNodes trail (i + 1) ns))

def fieldsOfNodes (trail : Trail) (first : Bool) (before : List (String × Json)) :
    List (Node × Node) → Except Fault (List (String × Json))
  | [] => .ok before
  | (k, v) :: ps => do
    let step := Source.stepTo k
    let k ← (Source.node trail k).textAs (keyKind first)
    let v ← attributeOfNode (trail ++ [step]) v
    fieldsOfNodes trail false (insertField k v before) ps

end

/-- The attribute value of a piece of a document. -/
def attributeValue : Source → Except Fault Json
  | .value v => attributeOfValue v
  | .node trail n => attributeOfNode trail n

/-- The attributes of a device or a preset. -/
def attributes (s : Source) : Except Fault Attributes := s.dict Source.text attributeValue

end Decode

end SmartHome
