/-!
# Names of the system

The system knows files by bytes. They are those of a text as a rule, but need not be: bytes that are
no text are kept as they are, and shown with a replacement for every sequence in them that begins a
character and does not complete it.
-/

namespace SmartHome

/-- A name or a path of the system: bytes, which may be those of a text. -/
structure OsText where
  bytes : List UInt8
  deriving DecidableEq, Inhabited

namespace OsText

def ofText (s : String) : OsText := ⟨s.toUTF8.data.toList⟩

instance : Coe String OsText := ⟨ofText⟩

instance : Append OsText := ⟨fun a b => ⟨a.bytes ++ b.bytes⟩⟩

/-- The order of the bytes. -/
instance : LT OsText := ⟨fun m n => m.bytes < n.bytes⟩

instance : Std.Asymm fun m n : OsText => m < n := ⟨fun _ _ => List.lt_asymm⟩

/-- The text that the bytes are those of, if there is one. -/
def toText? (n : OsText) : Option String := String.fromUTF8? ⟨n.bytes.toArray⟩

section Text

variable {n : OsText} {s t : String}

theorem toText?_eq_some_iff : n.toText? = some s ↔ n = s := by
  have hbytes : ∀ a : ByteArray, String.fromUTF8? a = some s ↔ a = s.toUTF8 := by
    intro a
    rw [String.fromUTF8?]
    split
    · rw [Option.some.injEq, ← String.toByteArray_inj]
      rfl
    · refine iff_of_false (by simp) ?_
      rintro rfl
      exact absurd s.isValidUTF8 ‹_›
  rw [toText?, hbytes]
  constructor
  · intro h
    rw [ofText, ← h]
  · rintro rfl
    rfl

theorem ofText_inj : ofText s = ofText t ↔ s = t := by
  rw [eq_comm, ← toText?_eq_some_iff, toText?_eq_some_iff.2 rfl, Option.some.injEq, eq_comm]

end Text

section Shown

/-- A character of which the first bytes are known: their bits, the bounds of the next byte, and the
number of bytes behind that one. -/
structure Begun where
  bits : Nat
  least : UInt8
  greatest : UInt8
  further : Nat

def replacement : Char := '\uFFFD'

/-- What a byte shows where no character has begun, and the character that begins with it. -/
def lead (b : UInt8) : List Char × Option Begun :=
  if b < 0x80 then ([Char.ofNat b.toNat], none)
  else if b < 0xC2 then ([replacement], none)
  else if b < 0xE0 then ([], some ⟨b.toNat - 0xC0, 0x80, 0xBF, 0⟩)
  else if b < 0xF0 then
    ([], some ⟨b.toNat - 0xE0, if b = 0xE0 then 0xA0 else 0x80, if b = 0xED then 0x9F else 0xBF, 1⟩)
  else if b < 0xF5 then
    ([], some ⟨b.toNat - 0xF0, if b = 0xF0 then 0x90 else 0x80, if b = 0xF4 then 0x8F else 0xBF, 2⟩)
  else ([replacement], none)

/-- What bytes show behind a character that has begun. -/
def showFrom : Option Begun → List UInt8 → List Char
  | none, [] => []
  | some _, [] => [replacement]
  | none, b :: bs =>
    let (shown, begun) := lead b
    shown ++ showFrom begun bs
  | some c, b :: bs =>
    if c.least ≤ b && b ≤ c.greatest then
      let bits := c.bits * 0x40 + (b.toNat - 0x80)
      match c.further with
      | 0 => Char.ofNat bits :: showFrom none bs
      | n + 1 => showFrom (some ⟨bits, 0x80, 0xBF, n⟩) bs
    else
      let (shown, begun) := lead b
      replacement :: (shown ++ showFrom begun bs)

/-- The bytes as messages show them. -/
def shown (n : OsText) : String := String.ofList (showFrom none n.bytes)

end Shown

end OsText

end SmartHome
