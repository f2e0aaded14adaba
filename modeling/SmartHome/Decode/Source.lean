import SmartHome.Decode.Fault
import SmartHome.Dict
import SmartHome.Yaml.Value

/-!
# Decoding

A piece of a document is decoded either from a loaded value or straight from a node of the text.
The two differ in what they let pass. A value has to be of the expected kind, where a local tag does
not count and null stands for an empty sequence or mapping. In a text every scalar is a text as it
is written, and only a value that is left out stands for an empty sequence or mapping. Faults in a
text carry the trail to the piece.
-/

namespace SmartHome

namespace Decode

open Yaml (Value Node)

/-- A piece of a document. -/
inductive Source where
  | value (v : Value)
  | node (trail : Trail) (n : Node)
  deriving Inhabited

namespace Source

/-- The trail to the piece, if it is one of a text. -/
def trail : Source → Trail
  | value _ => []
  | node t _ => t

/-- Something is wrong with the piece. -/
def fail {α : Type} (s : Source) (p : Problem) : Except Fault α := .error ⟨s.trail, p⟩

/-- A value without the local tags around it. -/
def untag : Value → Value
  | .tagged _ v => untag v
  | v => v

def foundValue : Value → Found
  | .null => .null
  | .bool b => .bool b
  | .number n => .number n
  | .string s => .string s
  | .sequence _ => .sequence
  | .mapping _ => .map
  | .tagged _ _ => .tagged

def foundScalar? : Yaml.Scalar → Option Found
  | .null => some .null
  | .bool b => some (.bool b)
  | .number n => some (.number n)
  | .string s => some (.string s)
  | .tooLarge => none

/-- What a node is, local tags aside; nothing if it cannot be said. -/
def foundNode? : Node → Option Found
  | .scalar tag text plain => (Yaml.Scalar.ofTagged? tag text plain).bind foundScalar?
  | .sequence _ _ => some .sequence
  | .mapping _ _ => some .map
  | .unreadable => none

/-- The piece is not what was expected. -/
def unexpected {α : Type} (s : Source) (expected : String) : Except Fault α :=
  match s with
  | value v => s.fail (.invalidType (foundValue (untag v)) expected)
  | node _ n => match foundNode? n with
    | some found => s.fail (.invalidType found expected)
    | none => s.fail .malformed

/-- The value is left out. -/
def isLeftOut : Node → Bool
  | .scalar _ text plain => text.isEmpty && plain
  | _ => false

/-- A text; `expected` says what for. -/
def textAs (s : Source) (expected : String) : Except Fault String :=
  match s with
  | value v => match untag v with
    | .string t => .ok t
    | _ => s.unexpected expected
  | node _ (.scalar _ t _) => .ok t
  | node _ _ => s.unexpected expected

def text (s : Source) : Except Fault String := s.textAs "a string"

/-- The elements of a sequence. -/
def items (s : Source) : Except Fault (List Source) :=
  match s with
  | value v => match untag v with
    | .sequence vs => .ok (vs.map value)
    | .null => .ok []
    | _ => s.unexpected "a sequence"
  | node t n => match n with
    | .sequence _ ns => .ok (ns.mapIdx fun i n => node (t ++ [.index i]) n)
    | n => if isLeftOut n then .ok [] else s.unexpected "a sequence"

/-- The step to the value of a key. -/
def stepTo : Node → Step
  | .scalar _ text _ => .key text
  | _ => .unnamed

/-- The keys and values of a mapping. A fault in a key is one of the mapping. -/
def pairs (s : Source) (expected : String) : Except Fault (List (Source × Source)) :=
  match s with
  | value v => match untag v with
    | .mapping ps => .ok (ps.map fun p => (value p.1, value p.2))
    | .null => .ok []
    | _ => s.unexpected expected
  | node t n => match n with
    | .mapping _ ps => .ok (ps.map fun p => (node t p.1, node (t ++ [stepTo p.1]) p.2))
    | n => if isLeftOut n then .ok [] else s.unexpected expected

/-- The elements of a sequence, each decoded. -/
def list {α : Type} (s : Source) (element : Source → Except Fault α) : Except Fault (List α) := do
  (← s.items).mapM element

/-- The texts of a sequence. -/
def texts (s : Source) : Except Fault (List String) := s.list text

/-- Nothing for null, and otherwise the decoded piece. -/
def optional {α : Type} (s : Source) (present : Source → Except Fault α) :
    Except Fault (Option α) :=
  match s with
  | value .null => .ok none
  | s => (present s).map some

/-- A dictionary: keys and values decoded in document order, a later value in the place of an
earlier one with its key. -/
def dict {κ α : Type} [DecidableEq κ] (s : Source) (key : Source → Except Fault κ)
    (present : Source → Except Fault α) : Except Fault (Dict κ α) := do
  (← s.pairs "a map").foldlM (fun d p => do
    let k ← key p.1
    let v ← present p.2
    pure (d.insert k v)) .empty

/-- What to do with a field that a structure does not have. -/
inductive Extra where
  | refused
  | ignored
  deriving DecidableEq

/-- The fields of a structure in document order, each of the known ones at most once, read into a
record by `read`. -/
def fields {σ : Type} (s : Source) (name : String) (known : List String) (extra : Extra)
    (read : σ → String → Source → Except Fault σ) (initial : σ) : Except Fault σ := do
  let (_, record) ← (← s.pairs ("struct " ++ name)).foldlM (fun (seen, record) p => do
    let field ← p.1.textAs "field identifier"
    if field ∈ known then
      if field ∈ seen then s.fail (.duplicateField field)
      else pure (field :: seen, ← read record field p.2)
    else if extra = .refused then s.fail (.unknownField field known)
    else pure (seen, record)) (([] : List String), initial)
  pure record

/-- A field that has to be there. -/
def required {α : Type} (s : Source) (name : String) : Option α → Except Fault α
  | some a => .ok a
  | none => s.fail (.missingField name)

end Source

end Decode

end SmartHome
