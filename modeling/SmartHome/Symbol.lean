import SmartHome.Text.Split

/-!
# Symbols

A symbol names a constant as `domain.EnumName.MEMBER`: a domain of lower case letters, digits and
underscores, an enum name that begins with an upper case letter and goes on with letters and
digits, and a member of upper case letters, digits and underscores, all ASCII. A text is *meant* as
a symbol when its first two parts fit and there are three; a wrong member is then an error and not
plain text.
-/

namespace SmartHome

/-- The ways in which a text or three parts fail to be a symbol. -/
inductive SymbolError where
  | invalidFormat
  | emptyPart
  | invalidDomain
  | invalidEnumName
  | invalidMember
  deriving DecidableEq

namespace SymbolError

def message : SymbolError → String
  | invalidFormat => "symbol must contain exactly two '.' separators"
  | emptyPart => "symbol parts cannot be empty"
  | invalidDomain => "domain must be lowercase alphanumeric with underscores"
  | invalidEnumName => "enum name must start with an uppercase letter and be alphanumeric"
  | invalidMember => "member must be uppercase alphanumeric with underscores"

end SymbolError

namespace Symbol

/-- The form of a symbol, as messages show it. -/
def shape : String := "domain.EnumName.MEMBER"

def isDomainChar (c : Char) : Bool := c.isLower || c.isDigit || c = '_'

def isMemberChar (c : Char) : Bool := c.isUpper || c.isDigit || c = '_'

def isDomain (s : List Char) : Bool := !s.isEmpty && s.all isDomainChar

def isEnumName : List Char → Bool
  | [] => false
  | c :: cs => c.isUpper && cs.all Char.isAlphanum

def isMember (s : List Char) : Bool := !s.isEmpty && s.all isMemberChar

end Symbol

/-- A constant by its three parts. -/
structure Symbol where
  domain : String
  enumName : String
  member : String
  validDomain : Symbol.isDomain domain.toList = true
  validEnumName : Symbol.isEnumName enumName.toList = true
  validMember : Symbol.isMember member.toList = true
  deriving DecidableEq

namespace Symbol

/-- The symbol of three parts. An empty part is reported before a wrong character, and the parts
are looked at from left to right. -/
def ofParts (domain enumName member : String) : Except SymbolError Symbol :=
  if domain.isEmpty || enumName.isEmpty || member.isEmpty then .error .emptyPart
  else if hd : isDomain domain.toList = true then
    if he : isEnumName enumName.toList = true then
      if hm : isMember member.toList = true then .ok ⟨domain, enumName, member, hd, he, hm⟩
      else .error .invalidMember
    else .error .invalidEnumName
  else .error .invalidDomain

/-- The symbol of a text with two dots. -/
def parse (s : String) : Except SymbolError Symbol :=
  match Split.splitAll '.' s.toList with
  | [d, e, m] => ofParts (String.ofList d) (String.ofList e) (String.ofList m)
  | _ => .error .invalidFormat

/-- The three parts joined by dots. -/
def text (s : Symbol) : String := s.domain ++ "." ++ s.enumName ++ "." ++ s.member

/-- The text is meant as a symbol. -/
def isCandidate (s : String) : Bool :=
  match Split.splitAll '.' s.toList with
  | [d, e, _] => isDomain d && isEnumName e
  | _ => false

end Symbol

end SmartHome
