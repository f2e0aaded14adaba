import SmartHome.Json.Printer
import SmartHome.Symbol

/-!
# Symbols as values

A symbol stands in a JSON document as its text, and only a text that is a symbol's is read as one.
-/

namespace SmartHome

namespace Json

def ofSymbol (s : Symbol) : Json := string s.text

end Json

/-- Why a value is not read as a symbol. -/
inductive SymbolFault where
  | noText
  | malformed (error : SymbolError)
  deriving DecidableEq

namespace Symbol

def ofJson (v : Json) : Except SymbolFault Symbol :=
  match v.toText? with
  | some s => (parse s).mapError .malformed
  | none => .error .noText

end Symbol

end SmartHome
