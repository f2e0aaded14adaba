import SmartHome.Device.Type
import SmartHome.HomeError

/-!
# Registries of device types

A registry holds device types under their identifiers, in the order in which the identifiers first
came in, so no identifier occurs twice. `insert` refuses an identifier that is there; `overlay` and
`collect` let later types win in the place of earlier ones.
-/

namespace SmartHome

structure Registry where
  types : Dict String DeviceType
  keyed : ∀ e ∈ types.entries, e.2.id = e.1

namespace Registry

/-- The registry without device types. -/
def empty : Registry := ⟨.empty, by simp [Dict.empty]⟩

instance : Inhabited Registry := ⟨empty⟩

/-- The device types in order. -/
def list (r : Registry) : List DeviceType := r.types.values

def get? (r : Registry) (id : String) : Option DeviceType := r.types.get? id

def contains (r : Registry) (id : String) : Bool := r.types.contains id

def size (r : Registry) : Nat := r.types.size

def isEmpty (r : Registry) : Bool := r.types.isEmpty

/-- Write a device type under its identifier. -/
def put (r : Registry) (t : DeviceType) : Registry where
  types := r.types.insert t.id t
  keyed e he := by
    rcases Dict.mem_insert he with rfl | he
    · rfl
    · exact r.keyed e he

/-- Add a device type whose identifier is new. -/
def insert (r : Registry) (t : DeviceType) : Except HomeError Registry :=
  if r.contains t.id then .error (.duplicateType t.id) else .ok (r.put t)

/-- The registry after it was asked to add a device type; it refuses one whose identifier is there
and stays as it was. -/
def add (r : Registry) (t : DeviceType) : Registry × Except HomeError Unit :=
  if r.contains t.id then (r, .error (.duplicateType t.id)) else (r.put t, .ok ())

/-- All types of `s` written over those of `r`. -/
def overlay (r s : Registry) : Registry := s.list.foldl put r

/-- The registry of a list: a later type takes the place of an earlier one with its identifier. -/
def collect (ts : List DeviceType) : Registry := ts.foldl put empty

end Registry

end SmartHome
