import EventHub.Fault.Class
import EventHub.Machine.Path
import EventHub.Machine.Services

/-! # Files and environment variables

The machine on which a program runs, and what the program does there: it reads, writes and removes files, moves
from one working directory to another, and sets environment variables.
-/

namespace EventHub

/-- Why a file cannot be used. -/
inductive FileError where
  | missing
  | exists_
  | belowFile
  | directory
  | nameTooLong
deriving DecidableEq, Repr

namespace FileError

/-- The number of an error. -/
def number : FileError → Nat
  | .missing => 2
  | .exists_ => 17
  | .belowFile => 20
  | .directory => 21
  | .nameTooLong => 36

/-- The reason in words. -/
def reason : FileError → String
  | .missing => "No such file or directory"
  | .exists_ => "File exists"
  | .belowFile => "Not a directory"
  | .directory => "Is a directory"
  | .nameTooLong => "File name too long"

end FileError

/-- The surroundings of a program, with the services it uses. -/
structure Machine extends Surroundings where
  services : Services := Services.standard

namespace Machine

/-! ## Finding -/

/-- Goes from a place along the names of a path. -/
def walk (m : Machine) : Location → List String → Except FileError Location
  | l, [] => .ok l
  | l, name :: rest =>
    match m.node? l with
    | none => .error .missing
    | some (.file _) => .error .belowFile
    | some .directory =>
      if name = ".." then walk m (Location.outer l) rest
      else if 255 < name.utf8ByteSize then .error .nameTooLong
      else walk m (l ++ [name]) rest

/-- The place of a path, which need not hold anything. -/
def locate (m : Machine) (p : Path) : Except FileError Location :=
  m.walk (if p.isAbsolute then Location.top else m.here) p.names

/-- The content of the file with a path. -/
def readFile (m : Machine) (p : Path) : Except FileError (List UInt8) :=
  match m.locate p with
  | .error e => .error e
  | .ok l =>
    match m.node? l with
    | some (.file content) => .ok content
    | some .directory => .error .directory
    | none => .error .missing

/-! ## Changing -/

/-- Puts a node at a place. -/
def place (m : Machine) (l : Location) (n : Node) : Machine := { m with nodes := m.nodes.insert l n }

/-- Makes the directories along some names, from a place on; names that lead to a file stay. -/
def makeDirectories (m : Machine) : Location → List String → Machine × Location
  | l, [] => (m, l)
  | l, name :: rest =>
    if name = ".." then makeDirectories m (Location.outer l) rest
    else
      let l := l ++ [name]
      match m.node? l with
      | some _ => makeDirectories m l rest
      | none => makeDirectories (m.place l .directory) l rest

/-- Writes a file, with the directories around it; the path starts where the program was started. -/
def writeFile (m : Machine) (p : Path) (content : List UInt8) : Machine :=
  let (m, l) := m.makeDirectories Location.start p.parent.names
  match p.names.getLast? with
  | some name => m.place (l ++ [name]) (.file content)
  | none => m

/-- Removes a file; the path starts where the program was started. -/
def removeFile (m : Machine) (p : Path) : Machine :=
  { m with nodes := m.nodes.erase (Location.start ++ p.names) }

/-- Changes the working directory and makes it if it is absent; the path starts where the program was
started. -/
def enter (m : Machine) (p : Path) : Machine :=
  let (m, l) := m.makeDirectories Location.start p.names
  { m with here := l }

/-- Makes the directory with a path and those around it. A path that leads to a file, or through one,
cannot be made. -/
def makeDirectory (m : Machine) (p : Path) : Except FileError (Machine × Location) :=
  let origin := if p.isAbsolute then Location.top else m.here
  match m.locate p with
  | .ok l =>
    match m.node? l with
    | some .directory => .ok (m, l)
    | some (.file _) => .error .exists_
    | none => .ok (m.makeDirectories origin p.names)
  | .error .missing => .ok (m.makeDirectories origin p.names)
  | .error e => .error e

/-- Adds to the end of a file at a place, which is made if it is absent. -/
def append (m : Machine) (l : Location) (content : List UInt8) : Machine :=
  match m.node? l with
  | some (.file before) => m.place l (.file (before ++ content))
  | _ => m.place l (.file content)

/-! ## Environment variables -/

/-- Sets an environment variable, or removes it. -/
def setVariable (m : Machine) (name : String) (value : Option String) : Machine :=
  { m with toSurroundings := m.toSurroundings.setVariable name value }

/-- Sets environment variables that are not set yet. -/
def setMissing (m : Machine) (bindings : List (String × Option String)) : Machine :=
  { m with toSurroundings := m.toSurroundings.setMissing bindings }

/-- What the file of variables gives. -/
def given (m : Machine) : VariablesRead := m.services.readVariables m.toSurroundings

/-- The machine once the missing variables are set from the file of variables. -/
def equipped (m : Machine) : Machine := m.setMissing m.given.bindings

end Machine

end EventHub
