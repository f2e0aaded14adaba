import SmartHome.Dict
import SmartHome.Json.Basic
import SmartHome.Symbol

/-!
# Symbol tables

A table gives the values of constants by the three parts of their names. Whatever gives a symbol its
value is a `Resolver`; a table is one.
-/

namespace SmartHome

/-- Gives a symbol its value, if it knows the symbol. -/
abbrev Resolver := Symbol → Option Json

/-- Values by domain, enum name and member. -/
structure SymbolTable where
  entries : Dict (String × String × String) Json

namespace SymbolTable

def empty : SymbolTable := ⟨.empty⟩

def size (t : SymbolTable) : Nat := t.entries.size

def isEmpty (t : SymbolTable) : Bool := t.entries.isEmpty

/-- Give a member a value; an earlier value of the same member is lost. -/
def register (t : SymbolTable) (domain enumName member : String) (value : Json) : SymbolTable :=
  ⟨t.entries.insert (domain, enumName, member) value⟩

/-- Give the members of an enum their values, one after the other. -/
def registerAll (t : SymbolTable) (domain enumName : String) (members : List (String × Json)) :
    SymbolTable :=
  members.foldl (fun t m => t.register domain enumName m.1 m.2) t

def get? (t : SymbolTable) (domain enumName member : String) : Option Json :=
  t.entries.get? (domain, enumName, member)

/-- The table as a resolver. -/
def resolve (t : SymbolTable) : Resolver := fun s => t.get? s.domain s.enumName s.member

end SymbolTable

end SmartHome
