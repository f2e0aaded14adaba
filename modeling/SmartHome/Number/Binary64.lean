/-!
# Doubles, by their words

A double is one of the 2^64 words of the binary64 format. A finite double is an integer multiple
of the least positive one, 2^-1074, and `scaled` is that integer without its sign; so comparing
and rounding need natural numbers only. `nearest` rounds a quotient to the nearest double, a tie
to the even word, and the four operations are the exact result so rounded.
-/

namespace SmartHome

/-- A word of the binary64 format: sign, eleven exponent bits, fifty-two fraction bits. -/
structure Binary64 where
  bits : UInt64
  deriving DecidableEq, Inhabited

namespace Binary64

/-- The word with the sign bit alone. -/
def signBit : Nat := 0x8000000000000000

/-- The magnitude of the least double with the exponent field one, which is also the unit of that
field. -/
def leastNormal : Nat := 0x10000000000000

/-- The word without its sign bit; words without sign are ordered like their values. -/
def magnitude (x : Binary64) : Nat := x.bits.toNat % signBit

/-- The sign bit is set. -/
def negative (x : Binary64) : Bool := signBit ≤ x.bits.toNat

/-- The magnitude of the infinities. -/
def infinityMagnitude : Nat := 2047 * leastNormal

def isFinite (x : Binary64) : Bool := x.magnitude < infinityMagnitude

def isNaN (x : Binary64) : Bool := infinityMagnitude < x.magnitude

def isZero (x : Binary64) : Bool := x.magnitude = 0

/-- The double with this sign and magnitude. -/
def make (negative : Bool) (magnitude : Nat) : Binary64 :=
  ⟨.ofNat (if negative then signBit + magnitude else magnitude)⟩

def zero : Binary64 := make false 0
def one : Binary64 := make false (1023 * leastNormal)
def infinity : Binary64 := make false infinityMagnitude
def negInfinity : Binary64 := make true infinityMagnitude
def nan : Binary64 := make false (infinityMagnitude + leastNormal / 2)

/-- The exponent of the unit of the last place of a finite double, in steps from 2^-1074. -/
def unitExponent (x : Binary64) : Nat := x.magnitude / leastNormal - 1

/-- The significand of a finite double, in units of the last place. -/
def significand (x : Binary64) : Nat :=
  if x.magnitude < leastNormal then x.magnitude else leastNormal + x.magnitude % leastNormal

/-- The absolute value of a finite double in steps of 2^-1074. -/
def scaled (x : Binary64) : Nat := x.significand * Nat.pow 2 x.unitExponent

/-- The steps of `scaled` in one. -/
def unity : Nat := Nat.pow 2 1074

/-- The integer nearest to `n / d`, a half going to the even neighbour. -/
def roundHalfEven (n d : Nat) : Nat :=
  let q := n / d
  match compare (2 * (n % d)) d with
  | .lt => q
  | .gt => q + 1
  | .eq => if q % 2 = 0 then q else q + 1

/-- The magnitude of the double nearest to `n / d`; the exponent field counts the binary places
beyond the fifty-third, and a significand rounded up to 2^53 carries into it. -/
def nearestMagnitude (n d : Nat) : Nat :=
  let shift := Nat.log2 (n * unity / d) - 52
  min infinityMagnitude (shift * leastNormal + roundHalfEven (n * unity) (d * Nat.pow 2 shift))

/-- The double nearest to `± n / d`. -/
def nearest (negative : Bool) (n d : Nat) : Binary64 := make negative (nearestMagnitude n d)

/-- The double nearest to an integer. -/
def ofInt (i : Int) : Binary64 := nearest (decide (i < 0)) i.natAbs 1

/-- The double nearest to `± digits * 10 ^ exponent`. Beyond 400 places on either side the answer
is already settled, so no larger power is computed. -/
def ofDecimal (negative : Bool) (digits : Nat) (exponent : Int) : Binary64 :=
  if digits = 0 then make negative 0
  else
    let top := Nat.log2 digits / 3 + exponent
    if 400 < exponent then make negative infinityMagnitude
    else if top < -400 then make negative 0
    else match exponent with
      | .ofNat e => nearest negative (digits * Nat.pow 10 e) 1
      | .negSucc e => nearest negative digits (Nat.pow 10 (e + 1))

/-- The value of a finite double as an integer number of steps of 2^-1074. -/
def steps (x : Binary64) : Int := if x.negative then -(x.scaled : Int) else x.scaled

/-- The double nearest to `i / d` steps of 2^-1074; a zero gets the sign asked for. -/
def ofSteps (zeroNegative : Bool) (i : Int) (d : Nat) : Binary64 :=
  if i = 0 then make zeroNegative 0 else nearest (decide (i < 0)) i.natAbs (d * unity)

/-- Numerical order; not a number is comparable with nothing, and the two zeros are equal. -/
def le (x y : Binary64) : Bool :=
  !x.isNaN && !y.isNaN &&
    if x.negative then !y.negative || y.magnitude ≤ x.magnitude
    else if y.negative then x.isZero && y.isZero
    else x.magnitude ≤ y.magnitude

def lt (x y : Binary64) : Bool := !x.isNaN && !y.isNaN && !le y x

/-- The nearest bound of `[lo, hi]` for a double outside it; not a number stays what it is. -/
def clamp (x lo hi : Binary64) : Binary64 :=
  if x.lt lo then lo else if hi.lt x then hi else x

def neg (x : Binary64) : Binary64 := make (!x.negative) x.magnitude

def add (x y : Binary64) : Binary64 :=
  if x.isNaN || y.isNaN then nan
  else if x.isFinite then
    if y.isFinite then ofSteps (x.negative && y.negative) (x.steps + y.steps) 1 else y
  else if y.isFinite || x = y then x else nan

def sub (x y : Binary64) : Binary64 := add x (neg y)

def mul (x y : Binary64) : Binary64 :=
  let negative := x.negative != y.negative
  if x.isNaN || y.isNaN then nan
  else if x.isFinite && y.isFinite then ofSteps negative (x.steps * y.steps) unity
  else if x.isZero || y.isZero then nan
  else make negative infinityMagnitude

def div (x y : Binary64) : Binary64 :=
  let negative := x.negative != y.negative
  if x.isNaN || y.isNaN || (x.isZero && y.isZero) then nan
  else if y.isFinite then
    if x.isFinite && !y.isZero then
      if x.isZero then make negative 0 else nearest negative x.scaled y.scaled
    else make negative infinityMagnitude
  else if x.isFinite then make negative 0
  else nan

/-- The nearest integer, a half going away from zero; the sign is kept on a zero. -/
def round (x : Binary64) : Binary64 :=
  if x.isFinite then
    let n := (2 * x.scaled + unity) / (2 * unity)
    if n = 0 then make x.negative 0 else nearest x.negative n 1
  else x

end Binary64

end SmartHome
