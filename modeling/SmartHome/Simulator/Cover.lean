import SmartHome.Simulator.Seed

/-!
# Covers

A cover stands at a position from 0, closed, to 100, open. A move sets a target, and every tick
brings the position nearer to it by a step, until it is reached and the cover rests again.
-/

namespace SmartHome

inductive CoverState where
  | opening
  | closing
  | opened
  | closed
  deriving DecidableEq

namespace CoverState

def name : CoverState → String
  | opening => "opening"
  | closing => "closing"
  | opened => "open"
  | closed => "closed"

/-- The state of a cover that rests at a position. -/
def atRest (position : UInt8) : CoverState := if position = 0 then closed else opened

end CoverState

structure Cover where
  position : UInt8
  target : Option UInt8
  state : CoverState
  step : UInt8
  deviceClass : Option String
  features : UInt64
  deriving DecidableEq

namespace Cover

/-- The position of an open cover. -/
def top : UInt8 := 100

/-- The step of a cover unless told otherwise. -/
def usualStep : UInt8 := 10

/-- No position is above the top. -/
def limit (position : UInt8) : UInt8 := if position ≤ top then position else top

/-- A cover that rests at a position. -/
def resting (position : UInt8) : Cover where
  position := limit position
  target := none
  state := .atRest (limit position)
  step := usualStep
  deviceClass := none
  features := 0

/-- The cover with another step; it is at least one. -/
def withStep (c : Cover) (step : UInt8) : Cover := { c with step := if step = 0 then 1 else step }

def isClosed (c : Cover) : Bool := c.state = .closed

def isMoving (c : Cover) : Bool := c.target.isSome

/-- Halt where the cover is. -/
def stop (c : Cover) : Cover := { c with target := none, state := .atRest c.position }

/-- Start to move to a position. -/
def moveTo (c : Cover) (position : UInt8) : Cover :=
  let t := limit position
  if t = c.position then c.stop
  else { c with target := some t, state := if c.position < t then .opening else .closing }

/-- The position after a step toward a target, which is not passed. -/
def advance (step position target : UInt8) : UInt8 :=
  if position < target then
    if target - position ≤ step then target else position + step
  else if position - target ≤ step then target else position - step

/-- Let the time of one step pass; also says whether the cover was moving. -/
def tick (c : Cover) : Bool × Cover :=
  match c.target with
  | none => (false, c)
  | some t =>
    let moved := { c with position := advance c.step c.position t }
    (true, if moved.position = t then moved.stop else moved)

/-- What can be done with a cover. -/
inductive Operation where
  | raise
  | lower
  | moveTo (position : UInt8)
  | stop
  | tick
  deriving DecidableEq

/-- The cover after an operation. -/
def perform (c : Cover) : Operation → Cover
  | .raise => c.moveTo top
  | .lower => c.moveTo 0
  | .moveTo position => c.moveTo position
  | .stop => c.stop
  | .tick => c.tick.2

/-- The position in an attribute. -/
def readPosition (v : Json) : Except SeedProblem UInt8 :=
  match v.toWord? with
  | some w => if w ≤ 100 then .ok w.toUInt8 else .error .noPosition
  | none => .error .noPosition

/-- The cover that an entity starts as. -/
def ofEntity (e : Entity) : Except SeedError Cover := do
  e.requirePlatform .cover
  let position ← e.read "current_position" readPosition
  let deviceClass ← e.deviceClass
  let features ← e.features
  pure { resting (position.getD 0) with deviceClass := deviceClass, features := features }

/-- What the cover publishes of its state. -/
def attributes (c : Cover) : Attributes :=
  let known := Dict.ofList [("state", Json.string c.state.name),
    ("current_position", .ofWord c.position.toUInt64)]
  let known := match c.deviceClass with
    | some s => known.insert "device_class" (.string s)
    | none => known
  known.insert "supported_features" (.ofWord c.features)

end Cover

end SmartHome
