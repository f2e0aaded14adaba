import SmartHome.Decode.Attribute
import SmartHome.Device.Type

/-!
# Decoding device types

An entity template is written as its key alone or as a mapping with the key, and for that its
content is looked at as a whole: only real texts count there, also in a text where any scalar would
do elsewhere, and no local tag may occur in it. In such a mapping the numbers zero and one stand for
the first and the second field.
-/

namespace SmartHome

namespace Decode

open Yaml (Value Node)

mutual

/-- No local tag occurs in the value. -/
def isPlain : Value → Bool
  | .tagged _ _ => false
  | .sequence vs => arePlain vs
  | .mapping ps => pairsArePlain ps
  | _ => true

def arePlain : List Value → Bool
  | [] => true
  | v :: vs => isPlain v && arePlain vs

def pairsArePlain : List (Value × Value) → Bool
  | [] => true
  | (k, v) :: ps => isPlain k && isPlain v && pairsArePlain ps

end

/-- Refuse a local tag at the end of a trail. -/
def refuseTag (trail : Trail) (tag : Option String) : Except Fault Unit :=
  if (tag.bind Yaml.Scalar.localTag?).isSome then .error ⟨trail, .taggedTemplate⟩ else .ok ()

mutual

/-- The content of a node; a key may occur twice. -/
def contentOfNode (trail : Trail) : Node → Except Fault Value
  | .scalar tag text plain => do
    refuseTag trail tag
    match (Yaml.Scalar.ofTagged? tag text plain).bind Value.ofScalar? with
    | some v => pure v
    | none => .error ⟨trail, .malformed⟩
  | .sequence tag ns => do
    refuseTag trail tag
    pure (.sequence (← contentOfNodes trail 0 ns))
  | .mapping tag ps => do
    refuseTag trail tag
    pure (.mapping (← contentOfPairs trail ps))
  | .unreadable => .error ⟨trail, .malformed⟩

def contentOfNodes (trail : Trail) (i : Nat) : List Node → Except Fault (List Value)
  | [] => .ok []
  | n :: ns => do
    let v ← contentOfNode (trail ++ [.index i]) n
    pure (v :: (← contentOfNodes trail (i + 1) ns))

def contentOfPairs (trail : Trail) : List (Node × Node) → Except Fault (List (Value × Value))
  | [] => .ok []
  | (k, v) :: ps => do
    let step := Source.stepTo k
    let k ← contentOfNode trail k
    let v ← contentOfNode (trail ++ [step]) v
    pure ((k, v) :: (← contentOfPairs trail ps))

end

/-- The whole content of a piece of a document. -/
def content : Source → Except Fault Value
  | .value v => if isPlain v then .ok v else .error ⟨[], .taggedTemplate⟩
  | .node trail n => contentOfNode trail n

/-- The texts of a sequence of texts. -/
def contentTexts? : Value → Option (List String)
  | .sequence vs => vs.mapM fun
    | .string s => some s
    | _ => none
  | _ => none

/-- The field that a key of a template's mapping means; none for one that is passed over. -/
def templateField? : Value → Option (Option String)
  | .string s => some (if s = "key" || s = "supported_attributes" then some s else none)
  | .number (.int (.ofNat n)) =>
    some (if n = 0 then some "key" else if n = 1 then some "supported_attributes" else none)
  | _ => none

/-- The key and the attributes of a template, if its content has one of the two forms. -/
def templateParts? : Value → Option (String × List String)
  | .string key => some (key, [])
  | .mapping ps => do
    let (key, specs) ← ps.foldlM (fun (key, specs) p => do
      match ← templateField? p.1, key, specs with
      | some "key", none, specs => match p.2 with
        | .string s => some (some s, specs)
        | _ => none
      | some "supported_attributes", key, none => some (key, some (← contentTexts? p.2))
      | none, key, specs => some (key, specs)
      | _, _, _ => none) ((none, none) : Option String × Option (List String))
    some (← key, specs.getD [])
  | _ => none

/-- An entity template. What is wrong with its form or its attributes is reported of the sequence in
which it stands. -/
def template (list : Source) (s : Source) : Except Fault EntityTemplate := do
  match templateParts? (← content s) with
  | none => list.fail .noTemplate
  | some (key, specs) =>
    let specs ← specs.mapM fun text => match AttributeSpec.parse? text with
      | some spec => pure spec
      | none => list.fail (.invalidSpec text)
    pure ⟨key, specs⟩

/-- The platform of a name. -/
def platformNamed (s : Source) (name : String) : Except Fault Platform :=
  match Platform.ofName? name with
  | some p => .ok p
  | none => s.fail (.unknownVariant name (Platform.all.map Platform.name))

/-- A platform, given by its name or by a local tag on nothing. -/
def platform (s : Source) : Except Fault Platform :=
  match s with
  | .value (.string name) => platformNamed s name
  | .value (.tagged name v) => do
    let p ← platformNamed s name
    match Source.untag v with
    | .null => pure p
    | _ => (Source.value v).unexpected "unit"
  | .value v => s.fail (.invalidType (Source.foundValue v) "a Value::Tagged enum")
  | .node _ (.scalar tag text plain) =>
    match tag.bind Yaml.Scalar.localTag? with
    | some name => do
      let p ← platformNamed s name
      if plain && (text.isEmpty || Yaml.Scalar.isNull text) then pure p
      else s.fail (.invalidValue (.string text) "null")
    | none => platformNamed s text
  | .node _ (.sequence tag _) => match tag.bind Yaml.Scalar.localTag? with
    | some name => do
      let _ ← platformNamed s name
      s.unexpected "unit"
    | none => s.unexpected "a YAML tag starting with '!'"
  | .node _ (.mapping tag _) => match tag.bind Yaml.Scalar.localTag? with
    | some name => do
      let _ ← platformNamed s name
      s.unexpected "unit"
    | none => s.unexpected "a YAML tag starting with '!'"
  | .node _ .unreadable => s.fail .malformed

/-- A preset; other fields than its two are passed over. -/
def preset (s : Source) : Except Fault Preset := do
  let (key, values) ← s.fields "RestorableAttributeSet" ["key", "attributes"] .ignored
    (fun (key, values) name v => match name with
      | "key" => do pure (some (← v.text), values)
      | _ => do pure (key, some (← attributes v)))
    ((none, none) : Option String × Option Attributes)
  pure ⟨← s.required "key" key, values.getD .empty⟩

/-- The fields of a device type as far as they are known. -/
structure DeviceTypeFields where
  id : Option String
  description : Option String
  entities : Dict Platform (List EntityTemplate)
  supportedAttributes : List String
  stateAttributes : List String
  presets : List Preset

/-- The names of the fields of a device type. -/
def deviceTypeFieldNames : List String :=
  ["device_type", "desc", "entities", "supported_attributes", "supported_state_attributes",
    "restorable_attributes"]

/-- The draft of a device type. -/
def deviceTypeDraft (s : Source) : Except Fault DeviceTypeDraft := do
  let f ← s.fields "DeviceTypeDocument" deviceTypeFieldNames .refused
    (fun (f : DeviceTypeFields) name v => match name with
      | "device_type" => do pure { f with id := some (← v.text) }
      | "desc" => do pure { f with description := some (← v.text) }
      | "entities" => do
        pure { f with entities := ← v.dict platform fun list => list.list (template list) }
      | "supported_attributes" => do pure { f with supportedAttributes := ← v.texts }
      | "supported_state_attributes" => do pure { f with stateAttributes := ← v.texts }
      | _ => do pure { f with presets := ← v.list preset })
    ⟨none, none, .empty, [], [], []⟩
  let id ← s.required "device_type" f.id
  let description ← s.required "desc" f.description
  pure ⟨id, description, f.entities, f.supportedAttributes, f.stateAttributes, f.presets⟩

/-- A device type. What is wrong with it as a whole has no trail. -/
def deviceType (s : Source) : Except Fault DeviceType := do
  match (← deviceTypeDraft s).toDeviceType with
  | .ok t => pure t
  | .error p => .error ⟨[], p⟩

/-- The device type of a text. -/
def deviceTypeOfText (text : String) : Except Fault DeviceType :=
  match Node.ofText? text with
  | some n => deviceType (.node [] n)
  | none => .error ⟨[], .malformed⟩

end Decode

end SmartHome
