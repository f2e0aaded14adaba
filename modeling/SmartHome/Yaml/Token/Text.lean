import SmartHome.Yaml.Cursor
import SmartHome.Number.Numeral

/-!
# Scalar text

Plain, quoted and block scalars. A line end inside a scalar folds: one alone becomes a space, of
several the first is dropped. Block scalars fold only in their folded style and there not next to
lines that begin with a blank.
-/

namespace SmartHome

namespace Yaml

/-- A scalar being read. Blanks and line ends are held back until more text follows; all lists are
in reverse. -/
structure Folding where
  text : List Char
  blanks : List Char
  /-- A line has ended since the last character of the text. -/
  broken : Bool
  firstBreak : Option Char
  moreBreaks : List Char

namespace Folding

def start : Folding := ⟨[], [], false, none, []⟩

/-- The text together with what was held back: blanks stay, and line ends fold. -/
def flush (f : Folding) : List Char :=
  if f.broken then
    if f.firstBreak = some '\n' then
      if f.moreBreaks.isEmpty then ' ' :: f.text else f.moreBreaks ++ f.text
    else f.moreBreaks ++ f.firstBreak.toList ++ f.text
  else f.blanks ++ f.text

/-- More text follows. -/
def push (f : Folding) (cs : List Char) : Folding :=
  { start with text := cs.reverse ++ f.flush }

/-- Blanks at the end or the beginning of a line do not count. -/
def blank (f : Folding) (c : Char) : Folding :=
  if f.broken then f else { f with blanks := c :: f.blanks }

def lineBreak (f : Folding) (c : Char) : Folding :=
  if f.broken then { f with moreBreaks := c :: f.moreBreaks }
  else { f with blanks := [], broken := true, firstBreak := some c }

/-- A line end that was escaped: it is dropped, and so are the blanks behind it. -/
def escapedBreak (f : Folding) : Folding := { start with text := f.flush, broken := true }

/-- Something is held back. -/
def pending (f : Folding) : Bool := f.broken || !f.blanks.isEmpty

end Folding

/-- The character written by an escape of one letter. -/
def shortEscape? : Char → Option Char
  | '0' => some '\x00'
  | 'a' => some '\x07'
  | 'b' => some '\x08'
  | 't' | '\t' => some '\t'
  | 'n' => some '\n'
  | 'v' => some '\x0b'
  | 'f' => some '\x0c'
  | 'r' => some '\r'
  | 'e' => some '\x1b'
  | ' ' => some ' '
  | '"' => some '"'
  | '/' => some '/'
  | '\\' => some '\\'
  | 'N' => some '\x85'
  | '_' => some '\xa0'
  | 'L' => some '\u2028'
  | 'P' => some '\u2029'
  | _ => none

/-- The number of hexadecimal digits behind an escape that gives a character by its number. -/
def escapeWidth? : Char → Option Nat
  | 'x' => some 2
  | 'u' => some 4
  | 'U' => some 8
  | _ => none

/-- The character of the escape at the front of a text, with the length of the escape. -/
def escape? : List Char → Option (Char × Nat)
  | '\\' :: d :: r =>
    match shortEscape? d with
    | some e => some (e, 2)
    | none => do
      let width ← escapeWidth? d
      let digits := r.take width
      if digits.length < width then none
      let v ← Numeral.nat? 16 digits
      if v.isValidChar then some (Char.ofNat v, width + 2) else none
  | _ => none

/-- The text of a quoted scalar, the cursor behind its first quote; the fuel bounds the number of
characters. -/
def quoted? (single : Bool) : Nat → Folding → Cursor → Option (List Char × Cursor)
  | 0, _, _ => none
  | fuel + 1, f, c =>
    if c.atDocumentMarker then none
    else match c.rest with
    | [] => none
    | d :: r =>
      match c.lineBreak? with
      | some (e, c) => quoted? single fuel (f.lineBreak e) c
      | none =>
        if isBlank d then quoted? single fuel (f.blank d) (c.skip 1)
        else if single && d = '\'' then
          if r.head? = some '\'' then quoted? single fuel (f.push ['\'']) (c.skip 2)
          else some (f.flush.reverse, c.skip 1)
        else if !single && d = '"' then some (f.flush.reverse, c.skip 1)
        else if !single && d = '\\' then
          match (c.skip 1).lineBreak? with
          | some (_, c) => quoted? single fuel f.escapedBreak c
          | none => do
            let (e, width) ← escape? c.rest
            quoted? single fuel (f.push [e]) (c.skip width)
        else quoted? single fuel (f.push [d]) (c.skip 1)

/-- A quoted scalar, the cursor at its first quote. -/
def quotedScalar? (single : Bool) (c : Cursor) : Option (String × Cursor) := do
  let (text, c) ← quoted? single (c.rest.length + 1) .start (c.skip 1)
  some (String.ofList text, c)

/-- In a flow collection these end a plain scalar. -/
def isFlowMark (c : Char) : Bool := c = ',' || c = '[' || c = ']' || c = '{' || c = '}'

/-- The text of a plain scalar, and whether a line has ended behind it. It ends at a colon before
a blank, at a flow mark inside a flow collection, at a comment, at a document's mark, and in a
block at a line that is not deep enough. -/
def plain? (inFlow : Bool) (indent : Int) : Nat → Folding → Cursor →
    Option (List Char × Bool × Cursor)
  | 0, _, _ => none
  | fuel + 1, f, c =>
    let ended := some (f.text.reverse, f.broken, c)
    match c.rest with
    | [] => ended
    | d :: r =>
      match c.lineBreak? with
      | some (e, c) => plain? inFlow indent fuel (f.lineBreak e) c
      | none =>
        if isBlank d then
          if f.broken && c.column < indent && d = '\t' then none
          else plain? inFlow indent fuel (f.blank d) (c.skip 1)
        else if f.pending && ((!inFlow && c.column < indent) || c.atDocumentMarker || d = '#') then
          ended
        else if inFlow && d = ':' && (r.head?.any fun e => isFlowMark e || e = '?') then none
        else if (d = ':' && atWordEnd r) || (inFlow && isFlowMark d) then ended
        else plain? inFlow indent fuel (f.push [d]) (c.skip 1)

/-- A plain scalar inside a block of the given indentation. -/
def plainScalar? (inFlow : Bool) (indent : Int) (c : Cursor) : Option (String × Bool × Cursor) := do
  let (text, broken, c) ← plain? inFlow (indent + 1) (c.rest.length + 1) .start c
  some (String.ofList text, broken, c)

/-- What becomes of the line ends behind a block scalar: all dropped, one kept, or all kept. -/
inductive Chomping where
  | strip
  | clip
  | keep
  deriving DecidableEq

/-- The header of a block scalar: a sign for the line ends and a digit for the indentation, in
either order, each at most once. -/
def blockHeader? (c : Cursor) : Option (Chomping × Nat × Cursor) :=
  let sign (c : Cursor) : Option (Chomping × Cursor) := match c.rest with
    | '+' :: _ => some (.keep, c.skip 1)
    | '-' :: _ => some (.strip, c.skip 1)
    | _ => none
  let digit (c : Cursor) : Option (Nat × Cursor) := match c.rest with
    | d :: _ => if d.isDigit then some (d.toNat - '0'.toNat, c.skip 1) else none
    | [] => none
  let (chomping, increment, c) := match sign c, digit c with
    | some (chomping, c), _ => match digit c with
      | some (n, c) => (chomping, some n, c)
      | none => (chomping, none, c)
    | none, some (n, c) => match sign c with
      | some (chomping, c) => (chomping, some n, c)
      | none => (.clip, some n, c)
    | none, none => (.clip, none, c)
  if increment = some 0 then none
  else c.restOfLine?.map fun c => (chomping, increment.getD 0, c)

/-- The empty lines before a line of a block scalar, in reverse, with the deepest column reached
in them. The indentation is zero as long as it is not known. -/
def blockBreaks? (indent : Nat) : Nat → List Char → Nat → Cursor →
    Option (List Char × Nat × Cursor)
  | 0, _, _, _ => none
  | fuel + 1, breaks, deepest, c =>
    let spaces := (c.rest.takeWhile (· = ' ')).length
    let c := c.skip (if indent = 0 then spaces else min spaces (indent - c.column))
    let deepest := max deepest c.column
    if (indent = 0 || c.column < indent) && c.rest.head? = some '\t' then none
    else match c.lineBreak? with
      | some (e, c) => blockBreaks? indent fuel (e :: breaks) deepest c
      | none => some (breaks, deepest, c)

/-- The lines of a block scalar, in reverse: the text, the last line end, the empty lines behind
it. `afterBlank` says that the line before began with a blank. -/
def blockLines? (folded : Bool) (indent : Nat) : Nat → List Char → Option Char → List Char → Bool →
    Cursor → Option (List Char × Option Char × List Char × Cursor)
  | 0, _, _, _, _, _ => none
  | fuel + 1, text, lineEnd, empty, afterBlank, c =>
    if c.column ≠ indent || c.rest.isEmpty then some (text, lineEnd, empty, c)
    else
      let beginsBlank := c.rest.head?.any isBlank
      let text :=
        if folded && lineEnd = some '\n' && !afterBlank && !beginsBlank then
          if empty.isEmpty then ' ' :: text else empty ++ text
        else empty ++ lineEnd.toList ++ text
      let (line, c) := c.span (!isBreak ·)
      let text := line.reverse ++ text
      let (lineEnd, c) := match c.lineBreak? with
        | some (e, c) => (some e, c)
        | none => (none, c)
      match blockBreaks? indent (c.rest.length + 1) [] 0 c with
      | none => none
      | some (empty, _, c) => blockLines? folded indent fuel text lineEnd empty beginsBlank c

/-- A block scalar, the cursor at its mark, inside a block of the given indentation. -/
def blockScalar? (folded : Bool) (indent : Int) (c : Cursor) : Option (String × Cursor) := do
  let (chomping, increment, c) ← blockHeader? (c.skip 1)
  let known := if increment = 0 then 0 else indent.toNat + increment
  let (empty, deepest, c) ← blockBreaks? known (c.rest.length + 1) [] 0 c
  let column := if known = 0 then max deepest (max (indent + 1).toNat 1) else known
  let (text, lineEnd, empty, c) ←
    blockLines? folded column (c.rest.length + 1) [] none empty false c
  let text := match chomping with
    | .strip => text
    | .clip => lineEnd.toList ++ text
    | .keep => empty ++ lineEnd.toList ++ text
  some (String.ofList text.reverse, c)

end Yaml

end SmartHome
