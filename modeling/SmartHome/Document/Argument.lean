import SmartHome.Text.Quoted
import SmartHome.Yaml.Value

/-!
# Tag arguments in messages

When the argument of a tag is no text, the message shows it with the kind of every value in it.
-/

namespace SmartHome

namespace Yaml

namespace Value

/-- Pieces with a comma and a blank between any two. -/
def commas (pieces : List String) : String := String.intercalate ", " pieces

mutual

/-- A value with its kind. -/
def describe : Value → String
  | null => "Null"
  | bool b => "Bool(" ++ toString b ++ ")"
  | number n => "Number(" ++ n.render .tagArgument ++ ")"
  | string s => "String(" ++ Quoted.text s ++ ")"
  | sequence items => "Sequence [" ++ commas (describeItems items) ++ "]"
  | mapping pairs => "Mapping \x7b" ++ commas (describePairs pairs) ++ "\x7d"
  | tagged tag v => "TaggedValue \x7b tag: !" ++ tag ++ ", value: " ++ describe v ++ " \x7d"

def describeItems : List Value → List String
  | [] => []
  | v :: vs => describe v :: describeItems vs

/-- Keys that are truth values, numbers or texts stand without their kind. -/
def describePairs : List (Value × Value) → List String
  | [] => []
  | (k, v) :: ps =>
    let key := match k with
      | bool b => toString b
      | number n => n.render .tagArgument
      | string s => Quoted.text s
      | k => describe k
    (key ++ ": " ++ describe v) :: describePairs ps

end

end Value

end Yaml

end SmartHome
