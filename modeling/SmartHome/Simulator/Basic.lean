import SmartHome.Compiled.Home
import SmartHome.Simulator.Cover
import SmartHome.Simulator.MediaPlayer

/-!
# Simulators of a home

Covers and media players are simulated. A home has one simulator for each identifier of such an
entity, in the order in which the identifiers first occur; where entities share one, the last of
them counts.
-/

namespace SmartHome

inductive Simulator where
  | cover (cover : Cover)
  | mediaPlayer (player : MediaPlayer)
  deriving DecidableEq

namespace Simulator

/-- The simulator of an entity; nothing for a platform without one. -/
def ofEntity? (e : Entity) : Option (Except SeedError Simulator) :=
  match e.platform with
  | .cover => some ((Cover.ofEntity e).map cover)
  | .mediaPlayer => some ((MediaPlayer.ofEntity e).map mediaPlayer)
  | _ => none

/-- Let time pass; also says whether anything was moving. Playing takes no notice of time. -/
def tick : Simulator → Bool × Simulator
  | cover c => (c.tick.1, cover c.tick.2)
  | mediaPlayer p => (false, mediaPlayer p)

def attributes : Simulator → Attributes
  | cover c => c.attributes
  | mediaPlayer p => p.attributes

/-- Add the simulator of an entity with an identifier, if it has one. -/
def addEntity (d : Dict String Simulator) (e : String × Entity) :
    Except SeedError (Dict String Simulator) :=
  match ofEntity? e.2 with
  | none => .ok d
  | some s => s.map (d.insert e.1 ·)

/-- The simulators of a home by the identifiers of their entities. -/
def ofHome (c : CompiledHome) : Except SeedError (Dict String Simulator) :=
  (c.devices.flatMap fun d => d.entities.map fun e => (d.entityId e, e)).foldlM addEntity .empty

end Simulator

end SmartHome
