import SmartHome.HomeError
import SmartHome.Json.Printer
import SmartHome.SymbolTable

/-!
# Substituting symbols in attribute values

Every text in a value that is meant as a symbol is replaced by the value of the symbol, which is not
looked at again; names of object fields stay. Feature flags are words of 64 bits, given as integers
or symbols, one of them or a list; a list means all their bits together.
-/

namespace SmartHome

namespace Substitution

variable (resolver : Resolver)

/-- The value of the symbol that a text has to be. -/
def token (s : String) : Except HomeError Json :=
  match Symbol.parse s with
  | .error e => .error (.unresolved s (.malformed e))
  | .ok symbol => match resolver symbol with
    | some v => .ok v
    | none => .error (.unresolved s .unknown)

mutual

/-- A value with its symbols replaced. -/
def value : Json → Except HomeError Json
  | .string s => if Symbol.isCandidate s then token resolver s else .ok (.string s)
  | .array vs => do pure (.array (← items vs))
  | .object fs => do pure (.object (← fields fs))
  | v => .ok v

def items : List Json → Except HomeError (List Json)
  | [] => .ok []
  | v :: vs => do
    let v ← value v
    pure (v :: (← items vs))

def fields : List (String × Json) → Except HomeError (List (String × Json))
  | [] => .ok []
  | (k, v) :: fs => do
    let v ← value v
    pure ((k, v) :: (← fields fs))

end

/-- One feature flag, or several in a word. A text has to be a symbol here. -/
def flag (v : Json) : Except HomeError UInt64 := do
  let (shown, v) ← match v with
    | .string s => do pure (s, ← token resolver s)
    | v => pure (v.compact, v)
  match v.toWord? with
  | some w => pure w
  | none => throw (.unresolved shown .notAFlag)

/-- The bits of all feature flags of a list or of a single one. -/
def flags : Json → Except HomeError UInt64
  | .array vs => vs.foldlM (fun word v => do pure (word ||| (← flag resolver v))) 0
  | v => flag resolver v

end Substitution

end SmartHome
