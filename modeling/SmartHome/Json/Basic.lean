import SmartHome.Dict
import SmartHome.Number.Basic

/-!
# Attribute values

The value of an attribute is a JSON value. An object is the list of its fields in document order;
whoever builds one takes care that no name occurs twice.
-/

namespace SmartHome

inductive Json where
  | null
  | bool (value : Bool)
  | number (value : Number)
  | string (value : String)
  | array (items : List Json)
  | object (fields : List (String × Json))
  deriving Inhabited

namespace Json

mutual

/-- Structural equality of two values. -/
def decEq : (a b : Json) → Decidable (a = b)
  | null, null => isTrue rfl
  | bool a, bool b => decidable_of_iff (a = b) (by simp)
  | number a, number b => decidable_of_iff (a = b) (by simp)
  | string a, string b => decidable_of_iff (a = b) (by simp)
  | array as, array bs => match decEqItems as bs with
    | isTrue h => isTrue (by rw [h])
    | isFalse h => isFalse (by simpa using h)
  | object as, object bs => match decEqFields as bs with
    | isTrue h => isTrue (by rw [h])
    | isFalse h => isFalse (by simpa using h)
  | null, bool _ | null, number _ | null, string _ | null, array _ | null, object _
  | bool _, null | bool _, number _ | bool _, string _ | bool _, array _ | bool _, object _
  | number _, null | number _, bool _ | number _, string _ | number _, array _ | number _, object _
  | string _, null | string _, bool _ | string _, number _ | string _, array _ | string _, object _
  | array _, null | array _, bool _ | array _, number _ | array _, string _ | array _, object _
  | object _, null | object _, bool _ | object _, number _ | object _, string _
  | object _, array _ => isFalse (by simp)

def decEqItems : (as bs : List Json) → Decidable (as = bs)
  | [], [] => isTrue rfl
  | [], _ :: _ | _ :: _, [] => isFalse (by simp)
  | a :: as, b :: bs => match decEq a b with
    | isFalse h => isFalse (by simp [h])
    | isTrue h => match decEqItems as bs with
      | isFalse hs => isFalse (by simp [hs])
      | isTrue hs => isTrue (by rw [h, hs])

def decEqFields : (as bs : List (String × Json)) → Decidable (as = bs)
  | [], [] => isTrue rfl
  | [], _ :: _ | _ :: _, [] => isFalse (by simp)
  | (j, a) :: as, (k, b) :: bs => if hk : j = k then match decEq a b with
      | isFalse h => isFalse (by simp [h])
      | isTrue h => match decEqFields as bs with
        | isFalse hs => isFalse (by simp [hs])
        | isTrue hs => isTrue (by rw [hk, h, hs])
    else isFalse (by simp [hk])

end

instance : DecidableEq Json := decEq

/-- The integer as a 64-bit word, if the value is one. -/
def toWord? : Json → Option UInt64
  | number n => n.toWord?
  | _ => none

/-- The number as the nearest double, if the value is one. -/
def toBinary64? : Json → Option Binary64
  | number n => some n.toBinary64
  | _ => none

/-- The text, if the value is one. -/
def toText? : Json → Option String
  | string s => some s
  | _ => none

theorem toText?_eq_some_iff {v : Json} {s : String} : v.toText? = some s ↔ v = string s := by
  cases v <;> simp [toText?]

/-- A word as an integer value. -/
def ofWord (w : UInt64) : Json := number (.int w.toNat)

theorem toWord?_ofWord (w : UInt64) : (ofWord w).toWord? = some w := by
  simp [ofWord, toWord?, Number.toWord?, w.toNat_lt]

/-- A finite double as a number; the others have no written form and become null. -/
def ofBinary64 (x : Binary64) : Json := if x.isFinite then number (.float x) else null

end Json

/-- Attribute values by name, in the order in which they were declared. -/
abbrev Attributes := Dict String Json

end SmartHome
