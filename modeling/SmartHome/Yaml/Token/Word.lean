import SmartHome.Yaml.Cursor
import SmartHome.Yaml.Token.Basic
import SmartHome.Number.Numeral

/-!
# Names, tags and directives

The tokens that stand for themselves on one line: anchors and aliases, tags, and the directives in
front of a document.
-/

namespace SmartHome

namespace Yaml

/-- A name behind `&` or `*`; a blank or one of `?:,]}%@` and the grave accent may follow it. -/
def anchorName? (c : Cursor) : Option (String × Cursor) :=
  let (name, c) := (c.skip 1).span isWordChar
  let follows := atWordEnd c.rest || match c.rest with
    | d :: _ => "?:,]\x7d%@`".toList.contains d
    | [] => true
  if name.isEmpty || !follows then none else some (String.ofList name, c)

/-- The leading bits of an octet say how many octets its character has, and the low bits count. -/
def leadOctet? (b : Nat) : Option (Nat × Nat) :=
  if b < 0x80 then some (0, b)
  else if 0xC0 ≤ b && b < 0xE0 then some (1, b % 0x20)
  else if 0xE0 ≤ b && b < 0xF0 then some (2, b % 0x10)
  else if 0xF0 ≤ b && b < 0xF8 then some (3, b % 0x08)
  else none

/-- One octet as a percent sign and two hexadecimal digits. -/
def octet? : List Char → Option (Nat × List Char)
  | '%' :: a :: b :: r => do some (← Numeral.nat? 16 [a, b], r)
  | _ => none

/-- The further octets of a character. -/
def moreOctets? : Nat → Nat → List Char → Option Nat
  | 0, v, _ => some v
  | n + 1, v, cs => do
    let (b, r) ← octet? cs
    if b / 0x40 = 2 then moreOctets? n (v * 0x40 + b % 0x40) r else none

/-- A character written as escaped octets, with the number of octets. -/
def escapedChar? (cs : List Char) : Option (Char × Nat) := do
  let (b, r) ← octet? cs
  let (more, v) ← leadOctet? b
  let v ← moreOctets? more v r
  let least := [0, 0x80, 0x800, 0x10000].getD more 0
  if v.isValidChar && least ≤ v then some (Char.ofNat v, more + 1) else none

/-- The characters of a tag; those of a flow collection only where the tag is delimited. -/
def isTagChar (delimited : Bool) (c : Char) : Bool :=
  isWordChar c || ";/?:@&=+$.%!~*'()".toList.contains c || (delimited && ",[]".toList.contains c)

/-- The text of a tag with its escapes read; the fuel bounds the number of characters. -/
def tagText? (delimited : Bool) : Nat → List Char → Cursor → Option (List Char × Cursor)
  | 0, _, _ => none
  | fuel + 1, text, c =>
    match c.rest with
    | '%' :: _ => do
      let (d, octets) ← escapedChar? c.rest
      tagText? delimited fuel (d :: text) (c.skip (3 * octets))
    | d :: _ =>
      if isTagChar delimited d then tagText? delimited fuel (d :: text) (c.skip 1)
      else some (text.reverse, c)
    | [] => some (text.reverse, c)

def tagRest? (delimited : Bool) (c : Cursor) : Option (List Char × Cursor) :=
  tagText? delimited (c.rest.length + 1) [] c

/-- A word between exclamation marks, or one exclamation mark and the word behind it. -/
def tagHandle (c : Cursor) : List Char × Cursor :=
  let (word, c) := (c.skip 1).span isWordChar
  if c.rest.head? = some '!' then ('!' :: word ++ ['!'], c.skip 1) else ('!' :: word, c)

/-- A tag: delimited by angle brackets, or a handle with a suffix. -/
def tag? (inFlow : Bool) (c : Cursor) : Option (Token × Cursor) := do
  let (tag, c) ← match c.rest with
    | '!' :: '<' :: _ => do
      let (text, c) ← tagRest? true (c.skip 2)
      if text.isEmpty || c.rest.head? ≠ some '>' then none
      else some (Token.tag "" (String.ofList text), c.skip 1)
    | _ => do
      let (handle, c) := tagHandle c
      let (text, c) ← tagRest? false c
      if 1 < handle.length && handle.getLast? = some '!' then
        if text.isEmpty then none
        else some (Token.tag (String.ofList handle) (String.ofList text), c)
      else
        -- no handle after all: its word belongs to the suffix
        match handle.drop 1 ++ text with
        | [] => some (Token.tag "" "!", c)
        | suffix => some (Token.tag "!" (String.ofList suffix), c)
  if atWordEnd c.rest || (inFlow && c.rest.head? = some ',') then some (tag, c) else none

/-- A number of at most nine digits. -/
def versionNumber? (c : Cursor) : Option (Nat × Cursor) := do
  let (digits, c) := c.span Char.isDigit
  if 9 < digits.length then none else some (← Numeral.nat? 10 digits, c)

/-- A directive up to the end of its line: the version, or a tag handle and its replacement. -/
def directive? (c : Cursor) : Option (Token × Cursor) := do
  let (name, c) := (c.skip 1).span isWordChar
  if name.isEmpty || !atWordEnd c.rest then none
  let c := c.skipWhile isBlank
  let (token, c) ← match String.ofList name with
    | "YAML" => do
      let (major, c) ← versionNumber? c
      if c.rest.head? ≠ some '.' then none
      let (minor, c) ← versionNumber? (c.skip 1)
      some (Token.version major minor, c)
    | "TAG" => do
      if c.rest.head? ≠ some '!' then none
      let (handle, c) := tagHandle c
      if handle ≠ ['!'] && handle.getLast? ≠ some '!' then none
      match c.rest with
        | d :: _ => if !isBlank d then none
        | [] => none
      let (text, c) ← tagRest? true (c.skipWhile isBlank)
      if text.isEmpty || !atWordEnd c.rest then none
      some (Token.tagHandle (String.ofList handle) (String.ofList text), c)
    | _ => none
  some (token, ← c.restOfLine?)

end Yaml

end SmartHome
