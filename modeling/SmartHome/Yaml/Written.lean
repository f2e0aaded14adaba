import SmartHome.Yaml.Cursor
import SmartHome.Yaml.Scalar

/-!
# Texts written into a document

A text is written as it is where it reads back as the same text. Otherwise it stands between single
quotes, where a quote is written twice, and with escapes between double quotes if a character in it
cannot stand for itself or a blank meets a line's end. A text with line feeds is written line by
line under a header, which says whether the text begins with blanks and how its last line ends.
-/

namespace SmartHome

namespace Yaml

namespace Written

/-- The character stands for itself outside double quotes. -/
def isShown (c : Char) : Bool :=
  let n := c.toNat
  n = 0x0A || (0x20 ≤ n && n ≤ 0x7E) || (0xA0 ≤ n && n ≠ 0xFEFF && n ≠ 0xFFFE && n ≠ 0xFFFF)

/-- A character of the first class stands directly before one of the second. -/
def meets (p q : Char → Bool) : List Char → Bool
  | a :: b :: r => (p a && q b) || meets p q (b :: r)
  | _ => false

def isSpace (c : Char) : Bool := c = ' '

/-- Characters that begin something else than a plain text. -/
def openers : String := "#,[]\x7b\x7d&*!|>'\"%@`"

/-- The text would begin something else if it were written as it is. -/
def opens : List Char → Bool
  | '-' :: '-' :: '-' :: _ => true
  | '.' :: '.' :: '.' :: _ => true
  | c :: r => openers.contains c || ((c = '?' || c = ':' || c = '-') && atWordEnd r)
  | [] => true

/-- A colon at the end of a word, or a comment's sign at the beginning of one. -/
def interrupts : List Char → Bool
  | a :: b :: r => (a = ':' && atWordEnd (b :: r)) || ((isBlank a || isBreak a) && b = '#')
    || interrupts (b :: r)
  | [a] => a = ':'
  | [] => false

/-- The text can be written as it is, its meaning aside. -/
def fitsPlain (cs : List Char) : Bool :=
  cs.all isShown && !cs.any isBreak && !opens cs && !interrupts cs
    && cs.head? ≠ some ' ' && cs.getLast? ≠ some ' '

/-- The text can stand between single quotes. -/
def fitsSingle (cs : List Char) : Bool :=
  cs.all isShown && !meets isSpace isBreak cs && !meets isBreak isSpace cs

/-- The text can be written line by line. -/
def fitsLines (cs : List Char) : Bool :=
  cs.all isShown && !meets isSpace isBreak cs && cs.getLast? ≠ some ' '

/-- A plain scalar of this text would be the text. -/
def readsBack (s : String) : Bool :=
  Scalar.ofPlain s = .string s && !Scalar.isZeroPadded s.toList

inductive Style where
  | plain
  | single
  | double
  | lines
  deriving DecidableEq

/-- How a text is written. -/
def style (s : String) : Style :=
  let cs := s.toList
  if cs.contains '\n' then if fitsLines cs then .lines else .double
  else if readsBack s && fitsPlain cs then .plain
  else if fitsSingle cs then .single
  else .double

/-- Each line that is not empty behind `depth` blanks; `fresh` says whether a line begins. -/
def indent (depth : Nat) : (fresh : Bool) → List Char → List Char
  | _, [] => []
  | fresh, c :: cs =>
    if isBreak c then c :: indent depth true cs
    else (if fresh then List.replicate depth ' ' else []) ++ c :: indent depth false cs

def endsLine (cs : List Char) : Bool := cs.getLast?.any isBreak

/-- Between single quotes. -/
def single (depth : Nat) (cs : List Char) : List Char :=
  let doubled := cs.flatMap fun c => if c = '\'' then ['\'', '\''] else [c]
  '\'' :: indent depth false doubled
    ++ (if endsLine cs then List.replicate depth ' ' else []) ++ ['\'']

/-- The upper case hexadecimal digits of a number. -/
def hex (width n : Nat) : List Char :=
  let digits := (Nat.toDigits 16 n).map Char.toUpper
  List.replicate (width - digits.length) '0' ++ digits

/-- One character between double quotes. -/
def escape (c : Char) : List Char :=
  match c with
  | '\x00' => ['\\', '0']
  | '\x07' => ['\\', 'a']
  | '\x08' => ['\\', 'b']
  | '\t' => ['\\', 't']
  | '\n' => ['\\', 'n']
  | '\x0b' => ['\\', 'v']
  | '\x0c' => ['\\', 'f']
  | '\r' => ['\\', 'r']
  | '\x1b' => ['\\', 'e']
  | '"' => ['\\', '"']
  | '\\' => ['\\', '\\']
  | '\x85' => ['\\', 'N']
  | '\u2028' => ['\\', 'L']
  | '\u2029' => ['\\', 'P']
  | c =>
    let n := c.toNat
    if isShown c then [c]
    else if n ≤ 0xFF then '\\' :: 'x' :: hex 2 n
    else '\\' :: 'u' :: hex 4 n

/-- Between double quotes. -/
def double (cs : List Char) : List Char := '"' :: cs.flatMap escape ++ ['"']

/-- How the last line ends: not at all, once, or with more line ends behind it. -/
def chomping (cs : List Char) : List Char :=
  match cs.reverse with
  | a :: b :: _ => if !isBreak a then ['-'] else if isBreak b then ['+'] else []
  | [a] => if isBreak a then ['+'] else ['-']
  | [] => ['-']

/-- The header of a text that is written line by line. -/
def header (cs : List Char) : List Char :=
  let indented := match cs with
    | c :: _ => isSpace c || isBreak c
    | [] => false
  '|' :: (if indented then ['2'] else []) ++ chomping cs

/-- A text up to the end of its last line; lines after the first stand behind `depth` blanks. -/
def text (depth : Nat) (s : String) : String :=
  let cs := s.toList
  String.ofList (match style s with
    | .plain => cs ++ ['\n']
    | .single => single depth cs ++ ['\n']
    | .double => double cs ++ ['\n']
    | .lines =>
      header cs ++ '\n' :: indent depth true cs ++ if endsLine cs then [] else ['\n'])

end Written

end Yaml

end SmartHome
