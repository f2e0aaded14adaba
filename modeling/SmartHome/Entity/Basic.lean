import SmartHome.Json.Basic
import SmartHome.Platform

/-!
# Entities

An entity is what a device shows on one platform: its key among the entities of the device, and its
attributes.
-/

namespace SmartHome

structure Entity where
  platform : Platform
  key : String
  attributes : Attributes
  deriving DecidableEq

namespace Entity

def get? (e : Entity) (name : String) : Option Json := e.attributes.get? name

end Entity

end SmartHome
