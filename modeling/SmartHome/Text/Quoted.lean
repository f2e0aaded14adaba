import SmartHome.Text.Printable

/-!
# Quoted text in messages

Messages quote text between double quotes. Backslashes, double quotes and line ends have short
escapes; every other character without a glyph is written by its number in braces.
-/

namespace SmartHome

namespace Quoted

/-- The lower case hexadecimal digits of a number. -/
def hex (n : Nat) : String := String.ofList (Nat.toDigits 16 n)

/-- One character of a quotation. -/
def escape (c : Char) : String :=
  match c with
  | '\x00' => "\\0"
  | '\t' => "\\t"
  | '\r' => "\\r"
  | '\n' => "\\n"
  | '\\' => "\\\\"
  | '"' => "\\\""
  | c => if Printable.isPrintable c then c.toString else "\\u\x7b" ++ hex c.toNat ++ "\x7d"

/-- Text between double quotes. -/
def text (s : String) : String := "\"" ++ String.join (s.toList.map escape) ++ "\""

end Quoted

end SmartHome
