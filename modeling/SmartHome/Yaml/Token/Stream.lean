import SmartHome.Yaml.Token.Text
import SmartHome.Yaml.Token.Word

/-!
# The tokens of a text

Reading goes from left to right with three things in mind: the indentations of the open blocks, for
each open flow collection where a mapping key may have begun, and whether a key may begin here. A
key without its own mark is known only at its colon; its token, and that of the mapping it opens,
then go in front of the tokens read since.
-/

namespace SmartHome

namespace Yaml

/-- A place where a mapping key may have begun. -/
structure KeyStart where
  /-- The number of tokens before it. -/
  before : Nat
  index : Nat
  line : Nat
  column : Nat
  /-- The place is at the indentation of a block mapping, so that only a key can stand there. -/
  required : Bool

structure Stream where
  cursor : Cursor
  /-- The tokens so far, the last one first. -/
  tokens : List Token
  /-- The indentation of the innermost open block, and of those around it. -/
  indent : Int
  outer : List Int
  /-- The possible key of this flow collection, or of the block if there is none, and of those
  around it. -/
  keyStart : Option KeyStart
  outerKeys : List (Option KeyStart)
  keyAllowed : Bool

namespace Stream

def start (text : List Char) : Stream where
  cursor := .start text
  tokens := []
  indent := -1
  outer := []
  keyStart := none
  outerKeys := []
  keyAllowed := true

def inFlow (s : Stream) : Bool := !s.outerKeys.isEmpty

def emit (s : Stream) (t : Token) : Stream := { s with tokens := t :: s.tokens }

/-- Put tokens, the last one first, behind the first `before` tokens. -/
def emitAt (s : Stream) (before : Nat) (ts : List Token) : Stream :=
  let since := s.tokens.length - before
  { s with tokens := s.tokens.take since ++ ts ++ s.tokens.drop since }

/-- Blanks, comments and line ends before the next token. Tabs are no indentation: where a key may
begin, only spaces are skipped. A new line in a block allows a key. The fuel bounds the lines. -/
def skipBlanks : Nat → Stream → Stream
  | 0, s => s
  | fuel + 1, s =>
    let c := s.cursor
    let c := if c.column = 0 && c.rest.head? = some '\ufeff' then c.skip 1 else c
    let c := c.skipWhile fun d => d = ' ' || ((s.inFlow || !s.keyAllowed) && d = '\t')
    let c := if c.rest.head? = some '#' then c.skipWhile (!isBreak ·) else c
    match c.lineBreak? with
    | some (_, c) => skipBlanks fuel { s with cursor := c, keyAllowed := s.keyAllowed || !s.inFlow }
    | none => { s with cursor := c }

/-- A key ends on the line on which it begins, within 1024 characters. -/
def KeyStart.isStale (k : KeyStart) (c : Cursor) : Bool :=
  k.line < c.line || k.index + 1024 < c.index

/-- Drop what can no longer be a key; `none` if it had to be one. -/
def dropStale? (c : Cursor) : List (Option KeyStart) → Option (List (Option KeyStart))
  | [] => some []
  | none :: ks => (dropStale? c ks).map (none :: ·)
  | some k :: ks =>
    if KeyStart.isStale k c then
      if k.required then none else (dropStale? c ks).map (none :: ·)
    else (dropStale? c ks).map (some k :: ·)

def dropStaleKeys? (s : Stream) : Option Stream :=
  match dropStale? s.cursor (s.keyStart :: s.outerKeys) with
  | some (k :: ks) => some { s with keyStart := k, outerKeys := ks }
  | _ => none

/-- What stands here is no key after all; `none` if it had to be one. -/
def dropKey? (s : Stream) : Option Stream :=
  if s.keyStart.any (·.required) then none else some { s with keyStart := none }

/-- A key may begin here. -/
def markKey? (s : Stream) : Option Stream :=
  if s.keyAllowed then do
    let s ← s.dropKey?
    let c := s.cursor
    some { s with keyStart := some {
      before := s.tokens.length, index := c.index, line := c.line, column := c.column,
      required := !s.inFlow && s.indent = c.column } }
  else some s

/-- Open a block at a column deeper than the innermost one, its token behind the first `before`
tokens. -/
def openBlock (s : Stream) (column before : Nat) (t : Token) : Stream :=
  if !s.inFlow && s.indent < column then
    { s.emitAt before [t] with indent := column, outer := s.indent :: s.outer }
  else s

/-- Close the blocks deeper than a column. -/
def closeBlocksTo (s : Stream) (column : Int) : Stream :=
  if s.inFlow then s
  else
    let rec go (tokens : List Token) (indent : Int) : List Int → Stream
      | [] => { s with tokens, indent, outer := [] }
      | i :: is =>
        if column < indent then go (.blockEnd :: tokens) i is
        else { s with tokens, indent, outer := i :: is }
    go s.tokens s.indent s.outer

/-- Emit a token of so many characters. -/
def take (s : Stream) (width : Nat) (t : Token) : Stream :=
  { s with cursor := s.cursor.skip width, tokens := t :: s.tokens }

/-- A token that ends all blocks: a directive or a document's mark. -/
def outermost? (s : Stream) : Option Stream := do
  let s ← (s.closeBlocksTo (-1)).dropKey?
  some { s with keyAllowed := false }

/-- A bracket that opens a flow collection, and may begin a key. -/
def openFlow? (s : Stream) (t : Token) : Option Stream := do
  let s ← s.markKey?
  some ({ s with keyStart := none, outerKeys := s.keyStart :: s.outerKeys,
                 keyAllowed := true }.take 1 t)

/-- A bracket that closes a flow collection. -/
def closeFlow? (s : Stream) (t : Token) : Option Stream := do
  let s ← s.dropKey?
  let s := match s.outerKeys with
    | [] => s
    | k :: ks => { s with keyStart := k, outerKeys := ks }
  some ({ s with keyAllowed := false }.take 1 t)

/-- The comma between the entries of a flow collection. -/
def flowEntry? (s : Stream) : Option Stream := do
  let s ← s.dropKey?
  some ({ s with keyAllowed := true }.take 1 .flowEntry)

/-- The hyphen before an entry of a block sequence. -/
def blockEntry? (s : Stream) : Option Stream := do
  if !s.inFlow && !s.keyAllowed then none
  let s := s.openBlock s.cursor.column s.tokens.length .blockSequenceStart
  let s ← s.dropKey?
  some ({ s with keyAllowed := true }.take 1 .blockEntry)

/-- The question mark before a key. -/
def key? (s : Stream) : Option Stream := do
  if !s.inFlow && !s.keyAllowed then none
  let s := s.openBlock s.cursor.column s.tokens.length .blockMappingStart
  let s ← s.dropKey?
  some ({ s with keyAllowed := !s.inFlow }.take 1 .key)

/-- The colon before a value; if a key may have begun before it, it has. -/
def value? (s : Stream) : Option Stream :=
  match s.keyStart with
  | some k =>
    let s := (s.emitAt k.before [.key]).openBlock k.column k.before .blockMappingStart
    some ({ s with keyStart := none, keyAllowed := false }.take 1 .value)
  | none => do
    if !s.inFlow && !s.keyAllowed then none
    let s := s.openBlock s.cursor.column s.tokens.length .blockMappingStart
    some ({ s with keyAllowed := !s.inFlow }.take 1 .value)

/-- A token that may begin a key and after which none may begin, read by `read`. -/
def word? (s : Stream) (read : Cursor → Option (Token × Cursor)) : Option Stream := do
  let s ← s.markKey?
  let (t, c) ← read s.cursor
  some ({ s with cursor := c, keyAllowed := false }.emit t)

def block? (s : Stream) (folded : Bool) : Option Stream := do
  let s ← s.dropKey?
  let (text, c) ← blockScalar? folded s.indent s.cursor
  some ({ s with cursor := c, keyAllowed := true }.emit (.scalar text false))

/-- A plain scalar; if it ended with its line, a key may begin behind it. -/
def plain? (s : Stream) : Option Stream := do
  let s ← s.markKey?
  let (text, broken, c) ← plainScalar? s.inFlow s.indent s.cursor
  some ({ s with cursor := c, keyAllowed := broken }.emit (.scalar text true))

/-- Characters that begin no plain scalar. -/
def isIndicator (c : Char) : Bool :=
  "-?:,[]#&*!|>'\"%@`".toList.contains c || c = '\x7b' || c = '\x7d'

/-- The next token, the cursor in front of it and the text not at its end. -/
def token? (s : Stream) (d : Char) (r : List Char) : Option Stream :=
  let c := s.cursor
  if c.column = 0 && d = '%' then do
    let s ← s.outermost?
    let (t, c) ← directive? s.cursor
    some ({ s with cursor := c }.emit t)
  else if c.atMarker '-' then s.outermost?.map (·.take 3 .documentStart)
  else if c.atMarker '.' then s.outermost?.map (·.take 3 .documentEnd)
  else if d = '[' then s.openFlow? .flowSequenceStart
  else if d = '{' then s.openFlow? .flowMappingStart
  else if d = ']' then s.closeFlow? .flowSequenceEnd
  else if d = '}' then s.closeFlow? .flowMappingEnd
  else if d = ',' then s.flowEntry?
  else if d = '-' && atWordEnd r then s.blockEntry?
  else if d = '?' && (s.inFlow || atWordEnd r) then s.key?
  else if d = ':' && (s.inFlow || atWordEnd r) then s.value?
  else if d = '*' then s.word? fun c => (anchorName? c).map fun p => (.aliasOf p.1, p.2)
  else if d = '&' then s.word? fun c => (anchorName? c).map fun p => (.anchor p.1, p.2)
  else if d = '!' then s.word? (tag? s.inFlow)
  else if d = '|' && !s.inFlow then s.block? false
  else if d = '>' && !s.inFlow then s.block? true
  else if d = '\'' then s.word? fun c => (quotedScalar? true c).map fun p => (.scalar p.1 false, p.2)
  else if d = '"' then s.word? fun c => (quotedScalar? false c).map fun p => (.scalar p.1 false, p.2)
  else if !isIndicator d && !isBlank d || d = '-' && !(r.head?.any isBlank)
      || !s.inFlow && (d = '?' || d = ':') then s.plain?
  else none

/-- The tokens from here on, all blocks closed at the end; the fuel bounds their number. -/
def tokens? : Nat → Stream → Option (List Token)
  | 0, _ => none
  | fuel + 1, s => do
    let s := s.skipBlanks (s.cursor.rest.length + 1)
    let s ← s.dropStaleKeys?
    let s := s.closeBlocksTo s.cursor.column
    match s.cursor.rest with
    | [] => do
      let s ← s.outermost?
      some s.tokens.reverse
    | d :: r => tokens? fuel (← s.token? d r)

end Stream

/-- The characters that a document may hold: no controls but tab, line feed, carriage return and
next line, and no noncharacters at the end of the first plane. -/
def isAllowed (c : Char) : Bool :=
  c = '\t' || c = '\n' || c = '\r' || c = '\x85' || (' ' ≤ c && c ≤ '~')
    || ('\xa0' ≤ c && c ≠ '\ufffe' && c ≠ '\uffff')

/-- The tokens of a text; a byte order mark in front of it does not count. -/
def Token.ofText? (text : List Char) : Option (List Token) :=
  let text := match text with
    | '\ufeff' :: r => r
    | text => text
  if text.all isAllowed then Stream.tokens? (text.length + 1) (.start text) else none

end Yaml

end SmartHome
