import SmartHome.SymbolTable

/-!
# The bundled vocabulary

The constants that the bundled device types refer to: device classes, feature flags, modes and
states, and units. A flag is a power of two; everything else is text.
-/

namespace SmartHome

namespace Vocabulary

/-- An enum of a domain with the values of its members. -/
structure Enumeration where
  domain : String
  name : String
  members : List (String × Json)

/-- An enum whose values are texts. -/
def texts (domain name : String) (members : List (String × String)) : Enumeration :=
  ⟨domain, name, members.map fun m => (m.1, .string m.2)⟩

/-- An enum whose values are bits. -/
def flags (domain name : String) (members : List (String × UInt64)) : Enumeration :=
  ⟨domain, name, members.map fun m => (m.1, .ofWord m.2)⟩

/-- Device and state classes. -/
def deviceClasses : List Enumeration := [
  texts "binary_sensor" "BinarySensorDeviceClass" [
    ("BATTERY", "battery"), ("CONNECTIVITY", "connectivity"), ("DOOR", "door"),
    ("GARAGE_DOOR", "garage_door"), ("LOCK", "lock"), ("MOISTURE", "moisture"),
    ("MOTION", "motion"), ("OCCUPANCY", "occupancy"), ("OPENING", "opening"),
    ("PRESENCE", "presence"), ("PROBLEM", "problem"), ("SMOKE", "smoke"), ("SOUND", "sound"),
    ("TAMPER", "tamper"), ("WINDOW", "window")],
  texts "sensor" "SensorDeviceClass" [
    ("BATTERY", "battery"), ("CO2", "carbon_dioxide"), ("ENERGY", "energy"),
    ("HUMIDITY", "humidity"), ("ILLUMINANCE", "illuminance"), ("POWER", "power"),
    ("PRESSURE", "pressure"), ("TEMPERATURE", "temperature"), ("TIMESTAMP", "timestamp")],
  texts "sensor" "SensorStateClass" [
    ("MEASUREMENT", "measurement"), ("TOTAL", "total"), ("TOTAL_INCREASING", "total_increasing")],
  texts "cover" "CoverDeviceClass" [
    ("AWNING", "awning"), ("BLIND", "blind"), ("CURTAIN", "curtain"), ("DOOR", "door"),
    ("GARAGE", "garage"), ("GATE", "gate"), ("SHADE", "shade"), ("SHUTTER", "shutter"),
    ("WINDOW", "window")],
  texts "media_player" "MediaPlayerDeviceClass" [
    ("RECEIVER", "receiver"), ("SPEAKER", "speaker"), ("TV", "tv")],
  texts "switch" "SwitchDeviceClass" [
    ("OUTLET", "outlet"), ("SWITCH", "switch")],
  texts "valve" "ValveDeviceClass" [
    ("GAS", "gas"), ("WATER", "water")]]

/-- What an entity can do, one bit each. -/
def featureFlags : List Enumeration := [
  flags "alarm_control_panel" "AlarmControlPanelEntityFeature" [
    ("ARM_HOME", 1), ("ARM_AWAY", 2), ("ARM_NIGHT", 4), ("TRIGGER", 8), ("ARM_CUSTOM_BYPASS", 16),
    ("ARM_VACATION", 32)],
  flags "climate" "ClimateEntityFeature" [
    ("TARGET_TEMPERATURE", 1), ("TARGET_TEMPERATURE_RANGE", 2), ("TARGET_HUMIDITY", 4),
    ("FAN_MODE", 8), ("PRESET_MODE", 16), ("SWING_MODE", 32), ("TURN_OFF", 128), ("TURN_ON", 256)],
  flags "cover" "CoverEntityFeature" [
    ("OPEN", 1), ("CLOSE", 2), ("SET_POSITION", 4), ("STOP", 8), ("OPEN_TILT", 16),
    ("CLOSE_TILT", 32), ("STOP_TILT", 64), ("SET_TILT_POSITION", 128)],
  flags "fan" "FanEntityFeature" [
    ("SET_SPEED", 1), ("OSCILLATE", 2), ("DIRECTION", 4), ("PRESET_MODE", 8), ("TURN_OFF", 16),
    ("TURN_ON", 32)],
  flags "light" "LightEntityFeature" [
    ("EFFECT", 4), ("FLASH", 8), ("TRANSITION", 32)],
  flags "lock" "LockEntityFeature" [
    ("OPEN", 1)],
  flags "media_player" "MediaPlayerEntityFeature" [
    ("PAUSE", 1), ("SEEK", 2), ("VOLUME_SET", 4), ("VOLUME_MUTE", 8), ("PREVIOUS_TRACK", 16),
    ("NEXT_TRACK", 32), ("TURN_ON", 128), ("TURN_OFF", 256), ("PLAY_MEDIA", 512),
    ("VOLUME_STEP", 1024), ("SELECT_SOURCE", 2048), ("STOP", 4096), ("CLEAR_PLAYLIST", 8192),
    ("PLAY", 16384), ("SHUFFLE_SET", 32768), ("SELECT_SOUND_MODE", 65536),
    ("BROWSE_MEDIA", 131072), ("REPEAT_SET", 262144), ("GROUPING", 524288)],
  flags "todo" "TodoListEntityFeature" [
    ("CREATE_TODO_ITEM", 1), ("DELETE_TODO_ITEM", 2), ("UPDATE_TODO_ITEM", 4),
    ("MOVE_TODO_ITEM", 8), ("SET_DUE_DATE_ON_ITEM", 16), ("SET_DUE_DATETIME_ON_ITEM", 32),
    ("SET_DESCRIPTION_ON_ITEM", 64)],
  flags "vacuum" "VacuumEntityFeature" [
    ("PAUSE", 4), ("STOP", 8), ("RETURN_HOME", 16), ("FAN_SPEED", 32), ("BATTERY", 64),
    ("SEND_COMMAND", 256), ("LOCATE", 512), ("CLEAN_SPOT", 1024), ("MAP", 2048), ("STATE", 4096),
    ("START", 8192)],
  flags "valve" "ValveEntityFeature" [
    ("OPEN", 1), ("CLOSE", 2), ("SET_POSITION", 4), ("STOP", 8)],
  flags "weather" "WeatherEntityFeature" [
    ("FORECAST_DAILY", 1), ("FORECAST_HOURLY", 2), ("FORECAST_TWICE_DAILY", 4)]]

/-- Modes and states. -/
def modes : List Enumeration := [
  texts "alarm_control_panel" "AlarmControlPanelState" [
    ("DISARMED", "disarmed"), ("ARMED_HOME", "armed_home"), ("ARMED_AWAY", "armed_away"),
    ("ARMED_NIGHT", "armed_night"), ("ARMED_VACATION", "armed_vacation"),
    ("ARMED_CUSTOM_BYPASS", "armed_custom_bypass"), ("PENDING", "pending"), ("ARMING", "arming"),
    ("DISARMING", "disarming"), ("TRIGGERED", "triggered")],
  texts "alarm_control_panel" "CodeFormat" [
    ("NUMBER", "number"), ("TEXT", "text")],
  texts "climate" "HVACMode" [
    ("OFF", "off"), ("HEAT", "heat"), ("COOL", "cool"), ("HEAT_COOL", "heat_cool"),
    ("AUTO", "auto"), ("DRY", "dry"), ("FAN_ONLY", "fan_only")],
  texts "climate" "HVACAction" [
    ("OFF", "off"), ("HEATING", "heating"), ("COOLING", "cooling"), ("DRYING", "drying"),
    ("IDLE", "idle"), ("FAN", "fan")],
  texts "light" "ColorMode" [
    ("ONOFF", "onoff"), ("BRIGHTNESS", "brightness"), ("COLOR_TEMP", "color_temp"), ("HS", "hs"),
    ("XY", "xy"), ("RGB", "rgb"), ("RGBW", "rgbw"), ("RGBWW", "rgbww"), ("WHITE", "white")],
  texts "media_player" "MediaPlayerState" [
    ("OFF", "off"), ("ON", "on"), ("IDLE", "idle"), ("PLAYING", "playing"), ("PAUSED", "paused"),
    ("STANDBY", "standby"), ("BUFFERING", "buffering")],
  texts "vacuum" "VacuumActivity" [
    ("CLEANING", "cleaning"), ("DOCKED", "docked"), ("IDLE", "idle"), ("PAUSED", "paused"),
    ("RETURNING", "returning"), ("ERROR", "error")]]

/-- Units of measurement. -/
def units : List Enumeration := [
  texts "const" "UnitOfTemperature" [
    ("CELSIUS", "°C"), ("FAHRENHEIT", "°F")],
  texts "const" "UnitOfEnergy" [
    ("WATT_HOUR", "Wh"), ("KILO_WATT_HOUR", "kWh")],
  texts "const" "UnitOfPower" [
    ("WATT", "W"), ("KILO_WATT", "kW")],
  texts "const" "UnitOfSpeed" [
    ("METERS_PER_SECOND", "m/s"), ("KILOMETERS_PER_HOUR", "km/h"), ("MILES_PER_HOUR", "mph")]]

def all : List Enumeration := deviceClasses ++ featureFlags ++ modes ++ units

/-- The table of the whole vocabulary. -/
def table : SymbolTable :=
  all.foldl (fun t e => t.registerAll e.domain e.name e.members) .empty

end Vocabulary

end SmartHome
