import SmartHome.Yaml.Node
import SmartHome.Yaml.Scalar

/-!
# Document values

The value of a document: null, truth values, numbers, texts, sequences, mappings with keys of any
kind, and values with a local tag. A mapping keeps its pairs in document order and has no key twice;
`Value.ofText?` fails on a document that repeats one.
-/

namespace SmartHome

namespace Yaml

inductive Value where
  | null
  | bool (value : Bool)
  | number (value : Number)
  | string (value : String)
  | sequence (items : List Value)
  | mapping (pairs : List (Value × Value))
  /-- A local tag, without its exclamation mark. -/
  | tagged (tag : String) (value : Value)
  deriving Inhabited

namespace Value

mutual

/-- Structural equality of two values. -/
def identical : Value → Value → Bool
  | null, null => true
  | bool a, bool b => a = b
  | number a, number b => a = b
  | string a, string b => a = b
  | sequence as, sequence bs => identicalItems as bs
  | mapping ps, mapping qs => identicalPairs ps qs
  | tagged s a, tagged t b => s = t && identical a b
  | _, _ => false

def identicalItems : List Value → List Value → Bool
  | [], [] => true
  | a :: as, b :: bs => identical a b && identicalItems as bs
  | _, _ => false

def identicalPairs : List (Value × Value) → List (Value × Value) → Bool
  | [], [] => true
  | (k, v) :: ps, (j, w) :: qs => identical k j && identical v w && identicalPairs ps qs
  | _, _ => false

end

mutual

theorem identical_iff : ∀ a b : Value, identical a b = true ↔ a = b
  | null, b => by cases b <;> simp [identical]
  | bool _, b => by cases b <;> simp [identical]
  | number _, b => by cases b <;> simp [identical]
  | string _, b => by cases b <;> simp [identical]
  | sequence as, b => by
    cases b with
    | sequence bs => simp [identical, identicalItems_iff as bs]
    | _ => simp [identical]
  | mapping ps, b => by
    cases b with
    | mapping qs => simp [identical, identicalPairs_iff ps qs]
    | _ => simp [identical]
  | tagged _ a, b => by
    cases b with
    | tagged _ b => simp [identical, identical_iff a b]
    | _ => simp [identical]

theorem identicalItems_iff : ∀ as bs : List Value, identicalItems as bs = true ↔ as = bs
  | [], bs => by cases bs <;> simp [identicalItems]
  | a :: as, bs => by
    cases bs with
    | nil => simp [identicalItems]
    | cons b bs => simp [identicalItems, identical_iff a b, identicalItems_iff as bs]

theorem identicalPairs_iff : ∀ ps qs : List (Value × Value), identicalPairs ps qs = true ↔ ps = qs
  | [], qs => by cases qs <;> simp [identicalPairs]
  | (k, v) :: ps, qs => by
    cases qs with
    | nil => simp [identicalPairs]
    | cons q qs =>
      simp [identicalPairs, identical_iff k q.1, identical_iff v q.2, identicalPairs_iff ps qs,
        Prod.ext_iff]

end

instance : DecidableEq Value := fun a b => decidable_of_iff _ (identical_iff a b)

/-- Doubles are the same key if they are equal or neither is a number. -/
def sameNumber : Number → Number → Bool
  | .int a, .int b => a = b
  | .float a, .float b => (a.isNaN && b.isNaN) || (a.le b && b.le a)
  | _, _ => false

mutual

/-- The values are the same as keys: integers and doubles differ, and the order of a mapping's pairs
does not count. -/
def same : Value → Value → Bool
  | null, null => true
  | bool a, bool b => a = b
  | number a, number b => sameNumber a b
  | string a, string b => a = b
  | sequence as, sequence bs => sameItems as bs
  | mapping ps, mapping qs => ps.length = qs.length && samePairs ps qs
  | tagged s a, tagged t b => s = t && same a b
  | _, _ => false

def sameItems : List Value → List Value → Bool
  | [], [] => true
  | a :: as, b :: bs => same a b && sameItems as bs
  | _, _ => false

/-- Each pair of the first mapping is also in the second. -/
def samePairs : List (Value × Value) → List (Value × Value) → Bool
  | [], _ => true
  | (k, v) :: ps, qs => (qs.any fun q => same k q.1 && same v q.2) && samePairs ps qs

end

/-- A key of the mapping is the same as the given one. -/
def hasKey (k : Value) (pairs : List (Value × Value)) : Bool := pairs.any fun p => same k p.1

/-- Write a pair into a mapping: the value of the same key in its place, or a pair at the end. -/
def insert (k v : Value) : List (Value × Value) → List (Value × Value)
  | [] => [(k, v)]
  | p :: ps => if same k p.1 then (p.1, v) :: ps else p :: insert k v ps

def ofScalar? : Scalar → Option Value
  | .null => some null
  | .bool b => some (bool b)
  | .number n => some (number n)
  | .string s => some (string s)
  | .tooLarge => none

/-- A second exclamation mark in front of a local tag's name does not count. -/
def tagName (name : String) : String :=
  match name.toList with
  | '!' :: c :: r => String.ofList (c :: r)
  | _ => name

/-- Put a local tag back around a value; the standard ones have done their work. -/
def withTag (tag : Option String) (v : Value) : Value :=
  match tag.bind Scalar.localTag? with
  | some name => tagged (tagName name) v
  | none => v

mutual

/-- The value of a node; none if it has a key twice or something unreadable. -/
def ofNode? : Node → Option Value
  | .scalar tag text plain => do
    some (withTag tag (← ofScalar? (← Scalar.ofTagged? tag text plain)))
  | .sequence tag items => do some (withTag tag (sequence (← ofItems? items)))
  | .mapping tag pairs => do some (withTag tag (mapping (← ofPairs? [] pairs)))
  | .unreadable => none

def ofItems? : List Node → Option (List Value)
  | [] => some []
  | n :: ns => do some ((← ofNode? n) :: (← ofItems? ns))

/-- The pairs of a mapping behind those already read, which come in reverse. -/
def ofPairs? (before : List (Value × Value)) :
    List (Node × Node) → Option (List (Value × Value))
  | [] => some before.reverse
  | (k, v) :: ps => do
    let k ← ofNode? k
    if hasKey k before then none
    else ofPairs? ((k, ← ofNode? v) :: before) ps

end

/-- The value of the only document of a text. -/
def ofText? (text : String) : Option Value := do ofNode? (← Node.ofText? text)

end Value

end Yaml

end SmartHome
