import SmartHome.Yaml.Token.Stream

/-!
# The tree of a document

A document is one node: an alias, a scalar, a sequence or a mapping, the latter three with an anchor
and a tag if they were given. `Tree.ofTokens?` reads the tokens by the rules for block and flow
collections, where a node that is left out is an empty plain scalar.
-/

namespace SmartHome

namespace Yaml

/-- What stands in front of a node. -/
structure Props where
  anchor : Option String
  tag : Option String
  deriving DecidableEq

namespace Props

def none : Props := ⟨.none, .none⟩

end Props

/-- A node, its aliases given by names or by whatever the names were replaced with. -/
inductive Tree (α : Type) where
  | aliasOf (name : α)
  | scalar (props : Props) (text : String) (plain : Bool)
  | sequence (props : Props) (items : List (Tree α))
  | mapping (props : Props) (pairs : List (Tree α × Tree α))
  deriving Inhabited

namespace Tree

/-- The node that is left out. -/
def empty {α : Type} : Tree α := scalar .none "" true

/-- The handles that tags may use, with what they stand for. -/
abbrev Handles := List (String × String)

/-- Without directives, one exclamation mark stands for itself and two for the standard types. -/
def standardHandles : Handles := [("!", "!"), ("!!", "tag:yaml.org,2002:")]

/-- The full tag; a tag without a handle is one already. -/
def fullTag? (handles : Handles) (handle suffix : String) : Option String :=
  if handle.isEmpty then some suffix
  else (handles.find? (·.1 = handle)).map (·.2 ++ suffix)

/-- An anchor and a tag, in either order. -/
def props? (handles : Handles) : List Token → Option (Props × List Token)
  | .anchor a :: .tag h t :: r => do some (⟨some a, some (← fullTag? handles h t)⟩, r)
  | .tag h t :: .anchor a :: r => do some (⟨some a, some (← fullTag? handles h t)⟩, r)
  | .anchor a :: r => some (⟨some a, .none⟩, r)
  | .tag h t :: r => do some (⟨.none, some (← fullTag? handles h t)⟩, r)
  | r => some (.none, r)

/-- On a scalar, the exclamation mark alone is no tag. -/
def scalarProps (p : Props) : Props := if p.tag = some "!" then ⟨p.anchor, .none⟩ else p

/-- The next token closes a block or begins another entry. -/
def endsEntry : List Token → Bool
  | .blockEntry :: _ | .blockEnd :: _ | [] => true
  | _ => false

/-- The next token closes a block or begins a key or a value. -/
def endsPair : List Token → Bool
  | .key :: _ | .value :: _ | .blockEnd :: _ | [] => true
  | _ => false

mutual

/-- A node. In a block it may be a block collection, and `asValue` allows the sequence whose
entries stand at the column of the mapping's keys. The fuel bounds the depth of the calls. -/
def node? (handles : Handles) (inBlock asValue : Bool) :
    Nat → List Token → Option (Tree String × List Token)
  | 0, _ => .none
  | _ + 1, .aliasOf name :: r => some (aliasOf name, r)
  | fuel + 1, ts => do
    let (props, ts) ← props? handles ts
    match ts with
    | .scalar text plain :: r => some (scalar (scalarProps props) text plain, r)
    | .flowSequenceStart :: r => do
      let (items, r) ← flowEntries? handles true fuel r
      some (sequence props items, r)
    | .flowMappingStart :: r => do
      let (pairs, r) ← flowPairs? handles true fuel r
      some (mapping props pairs, r)
    | ts =>
      match inBlock, asValue, ts with
      | _, true, .blockEntry :: _ => do
        let (items, r) ← alignedEntries? handles fuel ts
        some (sequence props items, r)
      | true, _, .blockSequenceStart :: r => do
        let (items, r) ← blockEntries? handles fuel r
        some (sequence props items, r)
      | true, _, .blockMappingStart :: r => do
        let (pairs, r) ← blockPairs? handles fuel r
        some (mapping props pairs, r)
      | _, _, ts => if props = .none then .none else some (scalar props "" true, ts)

/-- The entries of a block sequence up to its end. -/
def blockEntries? (handles : Handles) : Nat → List Token → Option (List (Tree String) × List Token)
  | 0, _ => .none
  | _ + 1, .blockEnd :: r => some ([], r)
  | fuel + 1, .blockEntry :: r => do
    let (item, r) ← if endsEntry r then some (empty, r) else node? handles true false fuel r
    let (items, r) ← blockEntries? handles fuel r
    some (item :: items, r)
  | _ + 1, _ => .none

/-- The entries of a sequence at the column of the mapping around it; it has no end of its own. -/
def alignedEntries? (handles : Handles) : Nat → List Token → Option (List (Tree String) × List Token)
  | 0, _ => .none
  | fuel + 1, .blockEntry :: r => do
    let (item, r) ← if endsEntry r || endsPair r then some (empty, r)
      else node? handles true false fuel r
    let (items, r) ← alignedEntries? handles fuel r
    some (item :: items, r)
  | _ + 1, r => some ([], r)

/-- The pairs of a block mapping up to its end. -/
def blockPairs? (handles : Handles) : Nat → List Token → Option (List (Tree String × Tree String) × List Token)
  | 0, _ => .none
  | _ + 1, .blockEnd :: r => some ([], r)
  | fuel + 1, .key :: r => do
    let (k, r) ← if endsPair r then some (empty, r) else node? handles true true fuel r
    let (v, r) ← match r with
      | .value :: r => if endsPair r then some (empty, r) else node? handles true true fuel r
      | r => some (empty, r)
    let (pairs, r) ← blockPairs? handles fuel r
    some ((k, v) :: pairs, r)
  | _ + 1, _ => .none

/-- The entries of a flow sequence up to its bracket; a comma stands between any two. A pair
without braces is a mapping of its own. -/
def flowEntries? (handles : Handles) (first : Bool) :
    Nat → List Token → Option (List (Tree String) × List Token)
  | 0, _ => .none
  | _ + 1, .flowSequenceEnd :: r => some ([], r)
  | fuel + 1, ts => do
    let ts ← match first, ts with
      | true, ts => some ts
      | false, .flowEntry :: r => some r
      | false, _ => .none
    match ts with
    | .flowSequenceEnd :: r => some ([], r)
    | .key :: r =>
      let (k, r) ← match r with
        -- a key that is left out takes the mark behind it along
        | .value :: r | .flowEntry :: r | .flowSequenceEnd :: r => some (empty, r)
        | r => node? handles false false fuel r
      let (v, r) ← match r with
        | .value :: r => match r with
          | .flowEntry :: _ | .flowSequenceEnd :: _ => some (empty, r)
          | r => node? handles false false fuel r
        | r => some (empty, r)
      let (items, r) ← flowEntries? handles false fuel r
      some (mapping .none [(k, v)] :: items, r)
    | ts =>
      let (item, r) ← node? handles false false fuel ts
      let (items, r) ← flowEntries? handles false fuel r
      some (item :: items, r)

/-- The pairs of a flow mapping up to its brace; a comma stands between any two. -/
def flowPairs? (handles : Handles) (first : Bool) :
    Nat → List Token → Option (List (Tree String × Tree String) × List Token)
  | 0, _ => .none
  | _ + 1, .flowMappingEnd :: r => some ([], r)
  | fuel + 1, ts => do
    let ts ← match first, ts with
      | true, ts => some ts
      | false, .flowEntry :: r => some r
      | false, _ => .none
    match ts with
    | .flowMappingEnd :: r => some ([], r)
    | .key :: r =>
      let (k, r) ← match r with
        | .value :: _ | .flowEntry :: _ | .flowMappingEnd :: _ => some (empty, r)
        | r => node? handles false false fuel r
      let (v, r) ← match r with
        | .value :: r => match r with
          | .flowEntry :: _ | .flowMappingEnd :: _ => some (empty, r)
          | r => node? handles false false fuel r
        | r => some (empty, r)
      let (pairs, r) ← flowPairs? handles false fuel r
      some ((k, v) :: pairs, r)
    | ts =>
      let (k, r) ← node? handles false false fuel ts
      let (pairs, r) ← flowPairs? handles false fuel r
      some ((k, empty) :: pairs, r)

end

/-- The directives in front of a document: at most one version, 1.1 or 1.2, and no handle twice. -/
def directives? : Bool → Handles → List Token → Option (Handles × List Token)
  | false, handles, .version 1 minor :: r =>
    if minor = 1 || minor = 2 then directives? true handles r else .none
  | _, _, .version _ _ :: _ => .none
  | seen, handles, .tagHandle h t :: r =>
    if (handles.find? (·.1 = h)).isSome then .none else directives? seen (handles ++ [(h, t)]) r
  | _, handles, r => some (handles, r)

/-- Nothing but marks of a document's end. -/
def onlyEnds : List Token → Bool
  | [] => true
  | .documentEnd :: r => onlyEnds r
  | _ => false

/-- The node of the only document of a text, or `none` within if the text has none. A document's
node may be left out behind the mark of its start, but not without it. -/
def ofTokens? (ts : List Token) : Option (Option (Tree String)) := do
  let fuel := 4 * ts.length + 8
  let (tree, r) ← match ts with
    | [] => return .none
    | .version _ _ :: _ | .tagHandle _ _ :: _ | .documentStart :: _ => do
      let (handles, r) ← directives? false [] ts
      match r with
      | .documentStart :: r => match r with
        | [] | .version _ _ :: _ | .tagHandle _ _ :: _ | .documentStart :: _
        | .documentEnd :: _ => some (empty, r)
        | r => node? (handles ++ standardHandles) true false fuel r
      | _ => .none
    | ts => node? standardHandles true false fuel ts
  if onlyEnds r then some (some tree) else .none

/-- The node of the only document of a text. -/
def ofText? (text : String) : Option (Option (Tree String)) := do
  ofTokens? (← Token.ofText? text.toList)

end Tree

end Yaml

end SmartHome
