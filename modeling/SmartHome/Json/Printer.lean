import SmartHome.Json.Basic
import SmartHome.Text.Quoted

/-!
# Written attribute values

A value is written on one line without blanks, or over several lines, two blanks deeper at every
level. Names and texts are quoted with the short escapes where there are any.
-/

namespace SmartHome

namespace Json

/-- One character of a quoted text. -/
def escape (c : Char) : String :=
  match c with
  | '"' => "\\\""
  | '\\' => "\\\\"
  | '\n' => "\\n"
  | '\r' => "\\r"
  | '\t' => "\\t"
  | '\x08' => "\\b"
  | '\x0c' => "\\f"
  | c =>
    if c.toNat < 0x20 then "\\u" ++ "".pushn '0' (4 - (Quoted.hex c.toNat).length)
      ++ Quoted.hex c.toNat
    else c.toString

/-- A quoted text. -/
def quote (s : String) : String := "\"" ++ String.join (s.toList.map escape) ++ "\""

mutual

/-- The value on one line, without blanks. -/
def compact : Json → String
  | null => "null"
  | bool b => if b then "true" else "false"
  | number n => n.render .json
  | string s => quote s
  | array items => "[" ++ compactItems items ++ "]"
  | object fields => "\x7b" ++ compactFields fields ++ "\x7d"

def compactItems : List Json → String
  | [] => ""
  | [v] => v.compact
  | v :: vs => v.compact ++ "," ++ compactItems vs

def compactFields : List (String × Json) → String
  | [] => ""
  | [(k, v)] => quote k ++ ":" ++ v.compact
  | (k, v) :: fs => quote k ++ ":" ++ v.compact ++ "," ++ compactFields fs

end

/-- A line end and the blanks of a level. -/
def newline (level : Nat) : String := "\n".pushn ' ' (2 * level)

mutual

/-- The value over several lines, its own level given; an empty list or object stays on one. -/
def prettyAt (level : Nat) : Json → String
  | array [] => "[]"
  | array items => "[" ++ prettyItems (level + 1) items ++ newline level ++ "]"
  | object [] => "\x7b\x7d"
  | object fields => "\x7b" ++ prettyFields (level + 1) fields ++ newline level ++ "\x7d"
  | null => "null"
  | bool b => if b then "true" else "false"
  | number n => n.render .json
  | string s => quote s

def prettyItems (level : Nat) : List Json → String
  | [] => ""
  | [v] => newline level ++ v.prettyAt level
  | v :: vs => newline level ++ v.prettyAt level ++ "," ++ prettyItems level vs

def prettyFields (level : Nat) : List (String × Json) → String
  | [] => ""
  | [(k, v)] => newline level ++ quote k ++ ": " ++ v.prettyAt level
  | (k, v) :: fs =>
    newline level ++ quote k ++ ": " ++ v.prettyAt level ++ "," ++ prettyFields level fs

end

/-- The value over several lines. -/
def pretty (v : Json) : String := v.prettyAt 0

end Json

end SmartHome
