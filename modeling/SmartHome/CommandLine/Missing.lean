import SmartHome.CommandLine.Commands

/-!
# What a command misses

A command is a function of the files and the variables that it is given. The error of a command that
was given too few of them names the first one that it looked for in vain, so whoever gives them can
look for it and run the command again.
-/

namespace SmartHome

/-- A file or a directory, or a variable. -/
inductive Missing where
  | path (p : Path)
  | environment (name : String)
  deriving DecidableEq

namespace Missing

def ofDocument? : DocumentError → Option Missing
  | .notFound p | .directoryNotFound p => some (path p)
  | .variableNotSet name => some (environment name)
  | _ => none

def ofHome? : HomeError → Option Missing
  | .notFound p => some (path p)
  | .document e => ofDocument? e
  | _ => none

/-- What is missing according to an error. -/
def ofCommand? : CommandLine.CommandError → Option Missing
  | .settings (.document e) => ofDocument? e
  | .settings (.undecodable _) => none
  | .loadingTypes _ e | .loadingHome _ e | .selecting e | .compiling _ e => ofHome? e

end Missing

namespace Path

/-- The place that a piece of a path leads to from a place, links aside. -/
def follow (place : Place) (piece : List UInt8) : Place :=
  if isIdle piece then place
  else if piece = [dot, dot] then place.dropLast
  else place ++ [⟨piece⟩]

/-- The places that a path leads through from a place; the last one is where it leads. -/
def places (start : Place) (p : Path) : List Place :=
  (p.segments.foldl (fun (place, passed) piece =>
    let next := follow place piece
    (next, passed ++ [next])) (if p.isAbsolute then [] else start, [])).2

end Path

end SmartHome
