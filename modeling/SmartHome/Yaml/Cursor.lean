/-!
# A place in a document's text

A cursor is the text that is still to be read, with the number of characters, lines and columns
before it. Five characters end a line, and a carriage return together with the line feed behind it
ends one line.
-/

namespace SmartHome

namespace Yaml

/-- Line feed, carriage return, next line, line separator, paragraph separator. -/
def isBreak (c : Char) : Bool :=
  c = '\n' || c = '\r' || c = '\x85' || c = '\u2028' || c = '\u2029'

def isBlank (c : Char) : Bool := c = ' ' || c = '\t'

/-- The text is at an end of its line. -/
def atLineEnd : List Char → Bool
  | [] => true
  | c :: _ => isBreak c

/-- The text is at a blank or at an end of its line. -/
def atWordEnd : List Char → Bool
  | [] => true
  | c :: _ => isBlank c || isBreak c

/-- Letters and digits of the ASCII range, the underscore and the hyphen. -/
def isWordChar (c : Char) : Bool := c.isAlphanum || c = '_' || c = '-'

structure Cursor where
  rest : List Char
  index : Nat
  line : Nat
  column : Nat

namespace Cursor

/-- The beginning of a text. -/
def start (text : List Char) : Cursor := ⟨text, 0, 0, 0⟩

/-- Step over characters of one line. -/
def skip (c : Cursor) (n : Nat) : Cursor :=
  { c with rest := c.rest.drop n, index := c.index + n, column := c.column + n }

/-- The longest run of characters of a class, and what follows it. -/
def span (c : Cursor) (p : Char → Bool) : List Char × Cursor :=
  let run := c.rest.takeWhile p
  (run, c.skip run.length)

/-- Step over a run of characters of a class. -/
def skipWhile (c : Cursor) (p : Char → Bool) : Cursor := (c.span p).2

/-- Step over a line's end. A carriage return or next line character reads as a line feed; the
Unicode separators read as themselves. -/
def lineBreak? (c : Cursor) : Option (Char × Cursor) :=
  match c.rest with
  | '\r' :: '\n' :: r => some ('\n', ⟨r, c.index + 2, c.line + 1, 0⟩)
  | d :: r =>
    if isBreak d then
      some (if d = '\u2028' || d = '\u2029' then d else '\n', ⟨r, c.index + 1, c.line + 1, 0⟩)
    else none
  | [] => none

/-- At the first column stand three of the given character and then no more of the word. -/
def atMarker (c : Cursor) (d : Char) : Bool :=
  c.column = 0 && match c.rest with
    | x :: y :: z :: r => x = d && y = d && z = d && atWordEnd r
    | _ => false

/-- At the first column stands the start or the end of a document. -/
def atDocumentMarker (c : Cursor) : Bool := c.atMarker '-' || c.atMarker '.'

/-- Step over blanks and a comment up to the line's end; `none` if anything else stands there. -/
def restOfLine? (c : Cursor) : Option Cursor :=
  let c := c.skipWhile isBlank
  let c := if c.rest.head? = some '#' then c.skipWhile (!isBreak ·) else c
  if atLineEnd c.rest then
    some (match c.lineBreak? with
      | some (_, c) => c
      | none => c)
  else none

end Cursor

end Yaml

end SmartHome
