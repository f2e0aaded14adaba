import SmartHome.Yaml.Tree

/-!
# The nodes of a document, aliases replaced

An alias stands for the node with its anchor. Anchors are numbered, each by the count of distinct
names before it; where two share a number because a name was used twice, the later one holds. An
alias may stand inside the node that it means, and a few aliases may stand for a great many nodes,
so the replacement is limited in depth and in number; a node beyond the limits is unreadable, which
matters only to a reader who looks at it.
-/

namespace SmartHome

namespace Yaml

namespace Tree

variable {α : Type}

/-- The anchors met so far. -/
structure Anchors where
  /-- The number of each name. -/
  numbers : List (String × Nat)
  /-- For each number, which anchor of the document holds it. -/
  holders : List (Nat × Nat)
  /-- The anchors of the document counted so far, with their nodes. -/
  count : Nat
  nodes : List (Nat × Tree Nat)

namespace Anchors

def none : Anchors := ⟨[], [], 0, []⟩

/-- Meet an anchor. -/
def meet (a : Anchors) (name : String) : Anchors :=
  let number := a.numbers.length
  { a with
    numbers := (name, number) :: a.numbers.filter (·.1 ≠ name)
    holders := (number, a.count) :: a.holders.filter (·.1 ≠ number)
    count := a.count + 1 }

/-- The node of a number. -/
def node? (a : Anchors) (number : Nat) : Option (Tree Nat) := do
  let holder ← a.holders.lookup number
  a.nodes.lookup holder

/-- Read a node with these properties by `read`, meeting its anchor before it. -/
def around (a : Anchors) (p : Props) (read : Anchors → Option (Tree Nat × Anchors)) :
    Option (Tree Nat × Anchors) :=
  match p.anchor with
  | .none => read a
  | some name => do
    let (t, b) ← read (a.meet name)
    some (t, { b with nodes := (a.count, t) :: b.nodes })

end Anchors

mutual

/-- Number the aliases from left to right; an alias of a name not yet met is an error. -/
def number? (a : Anchors) : Tree String → Option (Tree Nat × Anchors)
  | aliasOf name => (a.numbers.lookup name).map fun n => (aliasOf n, a)
  | scalar p text plain => a.around p fun a => some (scalar p text plain, a)
  | sequence p items => a.around p fun a =>
    (numberItems? a items).map fun r => (sequence p r.1, r.2)
  | mapping p pairs => a.around p fun a =>
    (numberPairs? a pairs).map fun r => (mapping p r.1, r.2)

def numberItems? (a : Anchors) : List (Tree String) → Option (List (Tree Nat) × Anchors)
  | [] => some ([], a)
  | t :: ts => do
    let (t, a) ← number? a t
    let (ts, a) ← numberItems? a ts
    some (t :: ts, a)

def numberPairs? (a : Anchors) :
    List (Tree String × Tree String) → Option (List (Tree Nat × Tree Nat) × Anchors)
  | [] => some ([], a)
  | (k, v) :: ps => do
    let (k, a) ← number? a k
    let (v, a) ← number? a v
    let (ps, a) ← numberPairs? a ps
    some ((k, v) :: ps, a)

end

mutual

/-- The number of marks in a document: a collection has two, anything else one. -/
def marks : Tree α → Nat
  | aliasOf _ => 1
  | scalar _ _ _ => 1
  | sequence _ items => marksItems items + 2
  | mapping _ pairs => marksPairs pairs + 2

def marksItems : List (Tree α) → Nat
  | [] => 0
  | t :: ts => t.marks + marksItems ts

def marksPairs : List (Tree α × Tree α) → Nat
  | [] => 0
  | (k, v) :: ps => k.marks + v.marks + marksPairs ps

end

end Tree

/-- A node without aliases. -/
inductive Node where
  | scalar (tag : Option String) (text : String) (plain : Bool)
  | sequence (tag : Option String) (items : List Node)
  | mapping (tag : Option String) (pairs : List (Node × Node))
  | unreadable
  deriving Inhabited

namespace Node

/-- What an empty document consists of. -/
def void : Node := scalar none "" true

/-- The number of collections that may stand inside each other. -/
def depthLimit : Nat := 128

/-- Replace the aliases of a node by means of `mean?`. The first argument bounds the depth of
collections, the state the number of aliases still to be replaced. -/
def expand (mean? : Nat → Option (Tree Nat)) : Nat → Tree Nat → StateM Nat Node
  | depth, t => do
    let budget ← get
    let t ← match t with
      | .aliasOf n =>
        if budget = 0 then pure none
        else
          set (budget - 1)
          pure (mean? n)
      | t => pure (some t)
    match depth, t with
    | _, some (.scalar p text plain) => pure (scalar p.tag text plain)
    | depth + 1, some (.sequence p items) =>
      return sequence p.tag (← items.mapM (expand mean? depth))
    | depth + 1, some (.mapping p pairs) =>
      return mapping p.tag (← pairs.mapM fun q => do
        let k ← expand mean? depth q.1
        let v ← expand mean? depth q.2
        pure (k, v))
    | _, _ => pure unreadable

/-- The node of a tree; at most a hundred aliases are replaced for each mark of the document. -/
def ofTree? (t : Tree String) : Option Node := do
  let (numbered, anchors) ← t.number? .none
  some ((expand anchors.node? depthLimit numbered).run (100 * t.marks)).1

/-- The node of the only document of a text. -/
def ofText? (text : String) : Option Node := do
  match ← Tree.ofText? text with
  | none => some void
  | some t => ofTree? t

end Node

end Yaml

end SmartHome
