import SmartHome.Number.Numeral

/-!
# What a scalar means

The text of a plain scalar is null, a truth value, a number or just text. Truth values and null
have three spellings each; a sequence of digits with a leading zero is text; an integer beyond 64
bits is refused as long as 128 bits hold it, and is a double beyond.
-/

namespace SmartHome

namespace Yaml

inductive Scalar where
  | null
  | bool (value : Bool)
  | number (value : Number)
  | string (value : String)
  /-- An integer too large to be kept. -/
  | tooLarge
  deriving DecidableEq

namespace Scalar

def isNull (text : String) : Bool :=
  text = "null" || text = "Null" || text = "NULL" || text = "~"

def bool? (text : String) : Option Bool :=
  if text = "true" || text = "True" || text = "TRUE" then some true
  else if text = "false" || text = "False" || text = "FALSE" then some false
  else none

/-- Digits behind an optional sign, more than one and the first of them zero. -/
def isZeroPadded (cs : List Char) : Bool :=
  let digits := match cs with
    | '-' :: r | '+' :: r => r
    | cs => cs
  digits.head? = some '0' && 1 < digits.length && digits.all Char.isDigit

/-- The digits of an integer in base sixteen, eight, two or ten. -/
def magnitude? : List Char → Option Nat
  | '0' :: 'x' :: r => Numeral.nat? 16 r
  | '0' :: 'o' :: r => Numeral.nat? 8 r
  | '0' :: 'b' :: r => Numeral.nat? 2 r
  | r => Numeral.nat? 10 r

/-- An integer in any of the bases, the sign in front of the base. -/
def int? (cs : List Char) : Option Int :=
  if isZeroPadded cs then none
  else match cs with
    | '+' :: r => (magnitude? r).map Int.ofNat
    | '-' :: r => (magnitude? r).map fun n => -(n : Int)
    | r => (magnitude? r).map Int.ofNat

/-- An integer by its size, unless not even 128 bits hold it. -/
def sized? (i : Int) : Option Scalar :=
  if -0x8000000000000000 ≤ i ∧ i < 0x10000000000000000 then some (number (.int i))
  else if -0x80000000000000000000000000000000 ≤ i ∧ i < 0x100000000000000000000000000000000 then
    some tooLarge
  else none

/-- A finite decimal, an infinity or not a number; what overflows is none of them. -/
def float? (cs : List Char) : Option Binary64 :=
  let (negative, unsigned) := match cs with
    | '-' :: r => (true, r)
    | '+' :: r => (false, r)
    | r => (false, r)
  match String.ofList unsigned with
  | ".inf" | ".Inf" | ".INF" => some (if negative then .negInfinity else .infinity)
  | _ => match String.ofList cs with
    | ".nan" | ".NaN" | ".NAN" => some .nan
    | _ => do
      let d ← Numeral.decimal? unsigned
      let x := Binary64.ofDecimal negative d.digits d.exponent
      if x.isFinite then some x else none

/-- The meaning of a plain scalar. -/
def ofPlain (text : String) : Scalar :=
  let cs := text.toList
  if text.isEmpty || isNull text then null
  else match bool? text with
    | some b => bool b
    | none => match (int? cs).bind sized? with
      | some s => s
      | none =>
        if isZeroPadded cs then string text
        else match float? cs with
          | some x => number (.float x)
          | none => string text

/-- The tags of the standard types. -/
def standardTag (name : String) : String := "tag:yaml.org,2002:" ++ name

/-- The name of a local tag, which begins with an exclamation mark. -/
def localTag? (tag : String) : Option String :=
  match tag.toList with
  | ['!'] => some "!"
  | '!' :: r => some (String.ofList r)
  | _ => none

/-- The meaning of a scalar. The tags of the standard types demand their type; any other tag makes
a text of the scalar, except that a local one leaves a plain scalar what it is. -/
def ofTagged? (tag : Option String) (text : String) (plain : Bool) : Option Scalar :=
  let untagged := if plain then ofPlain text else string text
  match tag with
  | none => some untagged
  | some tag =>
    if tag = standardTag "bool" then (bool? text).map bool
    else if tag = standardTag "int" then (int? text.toList).bind sized?
    else if tag = standardTag "float" then (float? text.toList).map fun x => number (.float x)
    else if tag = standardTag "null" then if isNull text then some null else none
    else if (localTag? tag).isSome then some untagged
    else some (string text)

end Scalar

end Yaml

end SmartHome
