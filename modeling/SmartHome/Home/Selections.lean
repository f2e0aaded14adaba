import SmartHome.Home.Basic

/-!
# Selections of presets

A selection names a device, by its area and its name, and the preset that it is to be in; a device
has at most one. Applied to a home, each selection replaces the presets of its device, in the order
in which the devices were first selected. A selection for a device that the home does not have ends
the application, and what was applied before stays.
-/

namespace SmartHome

/-- The selected preset of each device. -/
structure Selections where
  entries : Dict (Option String × String) String
  deriving DecidableEq

namespace Selections

def empty : Selections := ⟨.empty⟩

def size (s : Selections) : Nat := s.entries.size

def isEmpty (s : Selections) : Bool := s.entries.isEmpty

/-- Select a preset for a device in place of an earlier one. -/
def set (s : Selections) (area : Option String) (device key : String) : Selections :=
  ⟨s.entries.insert (area, device) key⟩

/-- Drop the selection for a device; also the preset that was selected. -/
def remove (s : Selections) (area : Option String) (device : String) : Option String × Selections :=
  let (key, entries) := s.entries.remove (area, device)
  (key, ⟨entries⟩)

def get? (s : Selections) (area : Option String) (device : String) : Option String :=
  s.entries.get? (area, device)

/-- What can be done with selections. -/
inductive Operation where
  | set (area : Option String) (device key : String)
  | remove (area : Option String) (device : String)
  | clear
  deriving DecidableEq

/-- The selections after an operation. -/
def perform (s : Selections) : Operation → Selections
  | .set area device key => s.set area device key
  | .remove area device => (s.remove area device).2
  | .clear => empty

/-- The selections after operations, one after the other, on none. -/
def after (operations : List Operation) : Selections := operations.foldl perform empty

/-- Make a preset the only one that the device of a selection applies. -/
def select? (h : Home) (e : (Option String × String) × String) : Option Home :=
  h.updateDevice? e.1.1 e.1.2 fun d => { d with presetKeys := [e.2] }

/-- Apply selections to a home, up to the first one without a device; the home is what it has become
by then. -/
def applyAll (h : Home) : List ((Option String × String) × String) → Home × Except HomeError Unit
  | [] => (h, .ok ())
  | e :: es => match select? h e with
    | some h => applyAll h es
    | none => (h, .error (.noDevice e.1.1 e.1.2))

/-- Apply every selection to a home. -/
def apply (s : Selections) (h : Home) : Home × Except HomeError Unit := applyAll h s.entries.entries

/-- The home with every selection applied, if every selected device is there. -/
def applied (s : Selections) (h : Home) : Except HomeError Home :=
  let (h, outcome) := s.apply h
  outcome.map fun _ => h

end Selections

end SmartHome
