import EventHub.OrderedMap

/-! # The surroundings of a program

What a program finds around it: environment variables, a working directory, and files and directories.
The working directory lies somewhere in a larger tree of which nothing is known but its root.
-/

namespace EventHub

/-- A place in the tree of directories: names from one of two tops, the directory where the program
was started and the root of everything else. -/
abbrev Location := List String

namespace Location

/-- The directory where the program was started. -/
def start : Location := ["."]

/-- The root of everything else. -/
def top : Location := ["/"]

/-- The directory around a place. -/
def outer (l : Location) : Location :=
  match l with
  | [] => top
  | [_] => top
  | l => l.dropLast

/-- The places from one on outward, itself first. -/
def outward : Nat → Location → List Location
  | 0, l => [l]
  | n + 1, l => if l = top then [l] else l :: outward n (outer l)

end Location

/-- What stands at a place. -/
inductive Node where
  | directory
  | file (content : List UInt8)

/-- Environment variables, working directory, files and directories. -/
structure Surroundings where
  environment : OrderedMap String String := []
  here : Location := Location.start
  nodes : OrderedMap Location Node := [(Location.start, .directory), (Location.top, .directory)]

namespace Surroundings

/-- What stands at a place, if anything. -/
def node? (s : Surroundings) (l : Location) : Option Node := s.nodes.find? l

/-- The nearest file of a name in the working directory or around it. -/
def nearestFile? (s : Surroundings) (name : String) : Option (List UInt8) :=
  (Location.outward s.here.length s.here).findSome? fun l =>
    match s.node? (l ++ [name]) with
    | some (.file content) => some content
    | _ => none

/-- The value of an environment variable. -/
def variableNamed? (s : Surroundings) (name : String) : Option String := s.environment.find? name

/-- Sets an environment variable, or removes it. -/
def setVariable (s : Surroundings) (name : String) (value : Option String) : Surroundings :=
  match value with
  | some v => { s with environment := s.environment.insert name v }
  | none => { s with environment := s.environment.erase name }

/-- Sets environment variables that are not set yet. -/
def setMissing (s : Surroundings) (bindings : List (String × Option String)) : Surroundings :=
  bindings.foldl (fun s (name, value) =>
    match value with
    | some v => if (s.variableNamed? name).isSome then s else s.setVariable name (some v)
    | none => s) s

end Surroundings

end EventHub
