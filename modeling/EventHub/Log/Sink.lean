import EventHub.Log.Record
import EventHub.Machine.Files

/-! # Where records go

Once logging is set up, records are written on the console, and also as JSON into a file where there
is one. A record that cannot be written is left out.
-/

namespace EventHub.Log

/-- How records are written: as JSON, or for the console with or without colours. -/
inductive LineFormat where
  | json
  | console (colours : Bool)
deriving DecidableEq, Repr

/-- A record as a line in a format. -/
def LineFormat.line (f : LineFormat) (r : Record) : Except Fault String :=
  match f with
  | .json => r.jsonLine
  | .console colours => r.consoleLine colours

/-- Where records go. The lines on the console are the latest first. -/
structure Sink where
  format : LineFormat
  console : List String := []
  file? : Option Location := none

/-- A record as it is handed on for writing: its message is filled in, and followed by the text of its
exception. -/
def Record.prepared (r : Record) : Except Fault Record := do
  let message ← messageText r.message r.args
  let text := match r.exceptionText? with
    | some s => message ++ "\n" ++ s
    | none => message
  return { r with message := .text text, args := [], fault? := none, faultText := "" }

namespace Sink

/-- Writes a record on the console. -/
def writeConsole (s : Sink) (r : Record) : Sink :=
  match s.format.line r with
  | .ok text => { s with console := text :: s.console }
  | .error _ => s

/-- Writes a record into the file, if there is one. -/
def writeFile (s : Sink) (m : Machine) (r : Record) : Machine :=
  match s.file?, r.jsonLine with
  | some l, .ok text => m.append l (encodeText (text ++ "\n"))
  | _, _ => m

/-- Writes a record on the console and into the file. -/
def write (s : Sink) (m : Machine) (r : Record) : Sink × Machine :=
  match r.prepared with
  | .error _ => (s, m)
  | .ok r => (s.writeConsole r, s.writeFile m r)

/-- What was written on the console. -/
def consoleText (s : Sink) : String :=
  String.join (s.console.reverse.map fun line => line ++ "\n")

end Sink

end EventHub.Log
