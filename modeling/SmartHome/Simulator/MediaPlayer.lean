import SmartHome.Simulator.Seed

/-!
# Media players

A player cycles through a fixed playlist. Its volume lies between zero and one, and every change of
it ends on a tenth.
-/

namespace SmartHome

inductive PlayerState where
  | off
  | on
  | idle
  | playing
  | paused
  deriving DecidableEq

namespace PlayerState

def all : List PlayerState := [off, on, idle, playing, paused]

def name : PlayerState → String
  | off => "off"
  | on => "on"
  | idle => "idle"
  | playing => "playing"
  | paused => "paused"

/-- The state of a name. -/
def named (s : String) : Except SeedProblem PlayerState :=
  match all.find? (·.name = s) with
  | some state => .ok state
  | none => .error (.unknownState s (all.map name))

/-- The state in an attribute: its name, or an object with the name for its only field and nothing
in it. -/
def read : Json → Except SeedProblem PlayerState
  | .string s => named s
  | .object [(s, v)] => do
    let state ← named s
    if v = .null then pure state else throw (.loadedState v)
  | .object _ => .error .manyStates
  | v => .error (.noState v)

end PlayerState

/-- The number of tracks. -/
abbrev trackCount : Nat := 5

structure MediaPlayer where
  state : PlayerState
  volume : Binary64
  muted : Bool
  track : Fin trackCount
  deviceClass : Option String
  features : UInt64
  deriving DecidableEq

namespace MediaPlayer

/-- The titles of the tracks. -/
def playlist : Vector String trackCount :=
  #v["Morning Light", "Harbor Lights", "Quiet Streets", "Northbound", "Last Call"]

/-- A player that plays the first track at full volume. -/
def initial : MediaPlayer := ⟨.playing, .one, false, 0, none, 0⟩

/-- The title of the current track. -/
def title (p : MediaPlayer) : String := playlist[p.track]

def ten : Binary64 := .ofInt 10

/-- The change of the volume by one step. -/
def volumeStep : Binary64 := .ofDecimal false 1 (-1)

/-- The tenth nearest to a volume. -/
def roundVolume (v : Binary64) : Binary64 := (v.mul ten).round.div ten

/-- Set the volume to the tenth nearest to a value, no less than zero and no more than one. -/
def setVolume (p : MediaPlayer) (v : Binary64) : MediaPlayer :=
  { p with volume := roundVolume (v.clamp .zero .one) }

/-- The place of a track in the playlist, as a word. -/
def place (t : Fin trackCount) : UInt64 := .ofNat t.val

/-- The track at a place: the playlist is gone through again and again. -/
def trackAt (w : UInt64) : Fin trackCount := Fin.ofNat trackCount w.toNat

/-- The track after another. -/
def following (t : Fin trackCount) : Fin trackCount := trackAt (place t + 1)

/-- The track before another. The length comes first, so that nothing is taken from zero. -/
def preceding (t : Fin trackCount) : Fin trackCount :=
  trackAt (place t + .ofNat trackCount - 1)

/-- What can be done with a player. -/
inductive Operation where
  | turnOn
  | turnOff
  | play
  | pause
  | stop
  | mute (muted : Bool)
  | setVolume (volume : Binary64)
  | volumeUp
  | volumeDown
  | nextTrack
  | previousTrack
  deriving DecidableEq

/-- The player after an operation; stopping turns it off, and the playlist is a cycle. -/
def perform (p : MediaPlayer) : Operation → MediaPlayer
  | .turnOn | .play => { p with state := .playing }
  | .turnOff | .stop => { p with state := .off }
  | .pause => { p with state := .paused }
  | .mute muted => { p with muted := muted }
  | .setVolume v => p.setVolume v
  | .volumeUp => p.setVolume (p.volume.add volumeStep)
  | .volumeDown => p.setVolume (p.volume.sub volumeStep)
  | .nextTrack => { p with track := following p.track }
  | .previousTrack => { p with track := preceding p.track }

/-- The volume in an attribute. -/
def readVolume (v : Json) : Except SeedProblem Binary64 :=
  match v.toBinary64? with
  | some x => if Binary64.zero.le x && x.le .one then .ok x else .error .noVolume
  | none => .error .noVolume

/-- The track of an index in an attribute. -/
def readTrack (v : Json) : Except SeedProblem (Fin trackCount) :=
  match v.toWord? with
  | some w => .ok (trackAt w)
  | none => .error .noTrack

/-- The player that an entity starts as. -/
def ofEntity (e : Entity) : Except SeedError MediaPlayer := do
  e.requirePlatform .mediaPlayer
  let state ← e.read "state" PlayerState.read
  let volume ← e.read "volume_level" readVolume
  let track ← e.read "media_track" readTrack
  let deviceClass ← e.deviceClass
  let features ← e.features
  pure { initial with
    state := state.getD initial.state
    volume := volume.getD initial.volume
    track := track.getD initial.track
    deviceClass := deviceClass
    features := features }

/-- What the player publishes of its state. -/
def attributes (p : MediaPlayer) : Attributes :=
  let known := Dict.ofList [("state", Json.string p.state.name),
    ("volume_level", .ofBinary64 p.volume), ("is_volume_muted", .bool p.muted),
    ("media_track", .number (.int p.track.val)), ("media_title", .string p.title)]
  let known := match p.deviceClass with
    | some s => known.insert "device_class" (.string s)
    | none => known
  known.insert "supported_features" (.ofWord p.features)

end MediaPlayer

end SmartHome
