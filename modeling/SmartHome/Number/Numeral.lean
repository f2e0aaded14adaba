import SmartHome.Number.Basic

/-!
# Numerals

The digits of a numeral in some base, and the decimal numerals with a point or an exponent.
-/

namespace SmartHome

namespace Numeral

/-- The value of a digit, up to base sixteen and in either case. -/
def digit? (c : Char) : Option Nat :=
  if '0' ≤ c ∧ c ≤ '9' then some (c.toNat - '0'.toNat)
  else if 'a' ≤ c ∧ c ≤ 'f' then some (c.toNat - 'a'.toNat + 10)
  else if 'A' ≤ c ∧ c ≤ 'F' then some (c.toNat - 'A'.toNat + 10)
  else none

/-- Digits of a base read on from the value of those before them; `none` at any other character. -/
def natural? (base value : Nat) : List Char → Option Nat
  | [] => some value
  | c :: cs => do
    let d ← digit? c
    if d < base then natural? base (base * value + d) cs else none

/-- One or more digits of a base. -/
def nat? (base : Nat) (cs : List Char) : Option Nat :=
  if cs.isEmpty then none else natural? base 0 cs

/-- Digits of a base with an optional sign. -/
def int? (base : Nat) : List Char → Option Int
  | '-' :: cs => (nat? base cs).map fun n => -(n : Int)
  | '+' :: cs => (nat? base cs).map Int.ofNat
  | cs => (nat? base cs).map Int.ofNat

/-- An unsigned decimal: digits with at most one point and at least one digit around it, and an
optional exponent. -/
def decimal? (cs : List Char) : Option Decimal := do
  let isE := fun c => c = 'e' ∨ c = 'E'
  let mantissa := cs.takeWhile (!isE ·)
  let exponent ← match cs.dropWhile (!isE ·) with
    | [] => some 0
    | _ :: cs => int? 10 cs
  let whole := mantissa.takeWhile (· ≠ '.')
  let fraction := (mantissa.dropWhile (· ≠ '.')).drop 1
  let digits ← nat? 10 (whole ++ fraction)
  some ⟨digits, exponent - fraction.length⟩

end Numeral

end SmartHome
