import SmartHome.Number.Notation

/-!
# Numbers

A number of a document or an attribute is an integer or a double, and the two kinds never mix:
`1` and `1.0` are different numbers.
-/

namespace SmartHome

inductive Number where
  | int (value : Int)
  | float (value : Binary64)
  deriving DecidableEq, Inhabited

namespace Number

/-- The nearest double. -/
def toBinary64 : Number → Binary64
  | int i => .ofInt i
  | float x => x

/-- The integer as a 64-bit word, if it is one; a double never is. -/
def toWord? : Number → Option UInt64
  | int (.ofNat n) => if n < 0x10000000000000000 then some (.ofNat n) else none
  | int (.negSucc _) => none
  | float _ => none

/-- Integers in decimal, doubles in a layout. -/
def render (layout : FloatLayout) : Number → String
  | int i => toString i
  | float x => layout.render x

end Number

end SmartHome
