import SmartHome.Number.Shortest

/-!
# Layouts of a double

Every output writes the shortest digits that read back and differs only in where the point goes.
A `FloatLayout` holds those decisions; the three layouts of this library stand here side by side.
-/

namespace SmartHome

/-- How a double is written once its digits are known. -/
structure FloatLayout where
  /-- Positional notation below `10 ^ maxExponent`, and from `10 ^ minExponent` on; no bounds
  means positional throughout. -/
  bounds : Option (Int × Int)
  /-- The sign in front of a positive exponent. -/
  exponentPlus : Bool
  infinity : String
  nan : String

namespace FloatLayout

/-- The digits with the point after the first `point` of them, at least one digit on both sides. -/
def positional (digits : String) (point : Int) : String :=
  let n := digits.length
  match point with
  | .negSucc k => "0." ++ "".pushn '0' (k + 1) ++ digits
  | .ofNat 0 => "0." ++ digits
  | .ofNat p =>
    if n ≤ p then digits.pushn '0' (p - n) ++ ".0"
    else String.ofList (digits.toList.take p) ++ "." ++ String.ofList (digits.toList.drop p)

/-- One digit, the others behind a point, and the exponent of the first. -/
def scientific (layout : FloatLayout) (digits : String) (point : Int) : String :=
  let mantissa := match digits.toList with
    | [] => ""
    | [d] => d.toString
    | d :: ds => d.toString ++ "." ++ String.ofList ds
  let e := point - 1
  mantissa ++ "e" ++ (if layout.exponentPlus && 0 ≤ e then "+" else "") ++ toString e

/-- Write a double. -/
def render (layout : FloatLayout) (x : Binary64) : String :=
  let sign := if x.negative then "-" else ""
  if x.isNaN then layout.nan
  else if !x.isFinite then sign ++ layout.infinity
  else
    let d := Decimal.shortest x
    let digits := toString d.digits
    if x.isZero then sign ++ "0.0"
    else
      let point := d.exponent + digits.length
      let positionally := match layout.bounds with
        | none => true
        | some (low, high) => low < point && point ≤ high
      sign ++ if positionally then positional digits point else layout.scientific digits point

/-- Attribute values are written positionally from `10 ^ -5` up to below `10 ^ 16`, otherwise with
a signed exponent. -/
def json : FloatLayout where
  bounds := some (-5, 16)
  exponentPlus := true
  infinity := "null"
  nan := "null"

/-- An unexpected number is quoted positionally, however many zeros that takes. -/
def quoted : FloatLayout where
  bounds := none
  exponentPlus := false
  infinity := "inf.0"
  nan := "NaN.0"

/-- A number shown as the argument of a tag has an unsigned positive exponent, and infinities are
spelled as in a document. -/
def tagArgument : FloatLayout where
  bounds := some (-5, 16)
  exponentPlus := false
  infinity := ".inf"
  nan := ".nan"

end FloatLayout

end SmartHome
