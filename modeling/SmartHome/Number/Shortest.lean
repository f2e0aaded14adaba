import SmartHome.Number.Binary64

/-!
# The fewest digits that read back

A decimal reads back as a double when it lies among the reals that round to it: from halfway to
the neighbour below to halfway to the neighbour above, the ends included when the significand is
even. For one, two, … digits the double's two neighbours on that decimal grid are tried; the first
grid with a hit wins, and of two hits the nearer.
-/

namespace SmartHome

/-- The decimal `digits * 10 ^ exponent`. -/
structure Decimal where
  digits : Nat
  exponent : Int
  deriving DecidableEq

namespace Decimal

/-- Compare a decimal with `n` quarter steps of 2^-1074, exactly. -/
def compareQuarters (d : Decimal) (n : Nat) : Ordering :=
  match d.exponent with
  | .ofNat e => compare (d.digits * Nat.pow 10 e * (4 * Binary64.unity)) n
  | .negSucc e => compare (d.digits * (4 * Binary64.unity)) (n * Nat.pow 10 (e + 1))

/-- The decimal lies among the reals that round to the positive finite double. -/
def readsBack (d : Decimal) (x : Binary64) : Bool :=
  let unit := Nat.pow 2 x.unitExponent
  let narrowBelow := x.significand = Binary64.leastNormal && 0 < x.unitExponent
  let low := 4 * x.scaled - (if narrowBelow then unit else 2 * unit)
  let high := 4 * x.scaled + 2 * unit
  let closed := x.significand % 2 = 0
  let fromLow := d.compareQuarters low
  let fromHigh := d.compareQuarters high
  (fromLow = .gt || (closed && fromLow = .eq)) && (fromHigh = .lt || (closed && fromHigh = .eq))

/-- The number of decimal digits of a natural number; none for zero. -/
def width (n : Nat) : Nat := if n = 0 then 0 else (Nat.toDigits 10 n).length

/-- The least `k` with `x < 10 ^ k`, for a positive finite double. -/
def scale (x : Binary64) : Int :=
  let whole := x.scaled / Binary64.unity
  if whole = 0 then
    -- in steps of 10^-1100 every positive double is at least one
    width (x.scaled * Nat.pow 10 1100 / Binary64.unity) - 1100
  else width whole

/-- `10 ^ k` times the double, rounded down. -/
def floorAt (x : Binary64) : Int → Nat
  | .ofNat k => x.scaled * Nat.pow 10 k / Binary64.unity
  | .negSucc k => x.scaled / (Binary64.unity * Nat.pow 10 (k + 1))

/-- Of the double's two neighbours among the decimals of `n` digits, the nearer one that reads
back. -/
def withDigits? (x : Binary64) (k : Int) (n : Nat) : Option Decimal :=
  let exponent := k - n
  let below : Decimal := ⟨floorAt x (-exponent), exponent⟩
  let above : Decimal := ⟨below.digits + 1, exponent⟩
  match below.readsBack x, above.readsBack x with
  | true, true =>
    -- the middle of the two neighbours, against the double
    let middle : Decimal := ⟨2 * below.digits + 1, exponent⟩
    match middle.compareQuarters (8 * x.scaled) with
    | .gt => some below
    | .lt => some above
    | .eq => some (if below.digits % 2 = 0 then below else above)
  | true, false => some below
  | false, true => some above
  | false, false => none

/-- The exact value of a finite double. -/
def exact (x : Binary64) : Decimal := ⟨x.scaled * Nat.pow 5 1074, -1074⟩

/-- Move the final zeros of the digits into the exponent. -/
def strip : Nat → Decimal → Decimal
  | 0, d => d
  | fuel + 1, d =>
    if d.digits % 10 = 0 && d.digits ≠ 0 then strip fuel ⟨d.digits / 10, d.exponent + 1⟩ else d

/-- The shortest decimal that reads back as the absolute value of a finite double, without final
zeros. Seventeen digits always read back; the exact value stands in for a search that fails. -/
def shortest (x : Binary64) : Decimal :=
  if x.isZero then ⟨0, 0⟩
  else
    let x := Binary64.make false x.magnitude
    let k := scale x
    let found := ((List.range 17).findSome? fun n => withDigits? x k (n + 1)).getD (exact x)
    strip (width found.digits) found

end Decimal

end SmartHome
