/-!
# Entity platforms

A platform is the category of an entity. Its name stands in device types, symbols and entity
records; `ofName?_name` and `name_of_ofName?` say that a name belongs to exactly one platform.
-/

namespace SmartHome

inductive Platform where
  | alarmControlPanel
  | binarySensor
  | button
  | calendar
  | camera
  | climate
  | cover
  | deviceTracker
  | event
  | fan
  | humidifier
  | light
  | lock
  | mediaPlayer
  | notify
  | number
  | select
  | sensor
  | switch
  | text
  | todo
  | update
  | vacuum
  | valve
  | waterHeater
  | weather
  deriving DecidableEq, Inhabited

namespace Platform

/-- Every platform, in the order in which messages list them. -/
def all : List Platform :=
  [alarmControlPanel, binarySensor, button, calendar, camera, climate, cover, deviceTracker, event,
    fan, humidifier, light, lock, mediaPlayer, notify, number, select, sensor, switch, text, todo,
    update, vacuum, valve, waterHeater, weather]

def name : Platform → String
  | alarmControlPanel => "alarm_control_panel"
  | binarySensor => "binary_sensor"
  | button => "button"
  | calendar => "calendar"
  | camera => "camera"
  | climate => "climate"
  | cover => "cover"
  | deviceTracker => "device_tracker"
  | event => "event"
  | fan => "fan"
  | humidifier => "humidifier"
  | light => "light"
  | lock => "lock"
  | mediaPlayer => "media_player"
  | notify => "notify"
  | number => "number"
  | select => "select"
  | sensor => "sensor"
  | switch => "switch"
  | text => "text"
  | todo => "todo"
  | update => "update"
  | vacuum => "vacuum"
  | valve => "valve"
  | waterHeater => "water_heater"
  | weather => "weather"

/-- The platform of a name. -/
def ofName? (s : String) : Option Platform := all.find? fun p => p.name = s

theorem mem_all (p : Platform) : p ∈ all := by cases p <;> decide

theorem name_of_ofName? {s : String} {p : Platform} (h : ofName? s = some p) : p.name = s := by
  simpa using List.find?_some h

theorem ofName?_name (p : Platform) : ofName? p.name = some p := by cases p <;> decide

end Platform

/-- A name that no platform has. -/
structure UnknownPlatform where
  name : String
  deriving DecidableEq

namespace UnknownPlatform

def message (e : UnknownPlatform) : String := "unknown platform '" ++ e.name ++ "'"

end UnknownPlatform

namespace Platform

/-- The platform of a name, or the reason why there is none. -/
def parse (s : String) : Except UnknownPlatform Platform :=
  match ofName? s with
  | some p => .ok p
  | none => .error ⟨s⟩

end Platform

end SmartHome
