import EventHub.Callable.Profile
import EventHub.Log.Scope
import EventHub.Machine.Files
import EventHub.Tally

/-! # Commands and behaviours

A command is something that a program asks of the library: to make an event hub, to listen to a
pattern, to publish an event, to load the settings, and so on. What commands make is kept under names
and is meant by these names later.

Host code runs inside the library as actors, error handlers and emitters. What it does is a behaviour:
it ends with a value or a fault, or it has a command carried out and goes on with the outcome. As the
rest of a behaviour may depend on the outcome, and as commands carry further host code, every finite
course of action is a behaviour.
-/

namespace EventHub

/-- Host code that is told of the failures of actors. Its body is told how often it ran before, and
the failure. -/
structure Handler (β : Type) where
  showsContext : Bool
  body : Nat → Fault → β

/-- How a new hub is set up. A flag that is nothing is taken from the settings; any other value counts
as its truth. -/
structure HubOptions (β : Type) where
  registryName? : Option String := none
  tallyName? : Option String := none
  handler? : Option (Handler β) := none
  metrics : Value := .none
  validates : Value := .none
  warns : Value := .none

/-- Commands on hubs, and on the handles that listening gives. -/
inductive HubCommand (β : Type) where
  | create (hub : String) (options : HubOptions β)
  | listen (hubOrHandle : String) (pattern : Pattern) (handle? : Option String)
    (actors : List (Callable β))
  | attach (handle : String) (actor : Callable β) (identifier? : Option String)
  | describe (handle : String)
  | unlistenHandle (handle : String)
  | unlisten (hub : String) (pattern : Pattern)
  | clear (hub : String)
  | setHandler (hub : String) (handler? : Option (Handler β))
  | setMetrics (hub : String) (on : Bool)
  | publish (hub : String) (name payload : Value) (times : Nat)
  | snapshot (hub : String)
  | summary (hub : String)
  | survey (hub : String) (names? : Option (List (Option String)))
    (patterns? : Option (List Pattern))

/-- Commands on emitters that publish first. -/
inductive BridgeCommand (β : Type) where
  | install (bridge hub : String) (emitter : Callable β)
  | emit (bridge : String) (name : Value) (args : List Value) (named : Fields)

/-- Commands on registries. -/
inductive RegistryCommand (β : Type) where
  | create (registry : String)
  | activate (registry entry : String) (pattern : Pattern)
  | deactivate (registry : String) (pattern : Pattern)
  | attach (registry entry : String) (actor : Callable β) (pattern : String)
    (identifier? : Option String)
  | matching (registry name : String)
  | survey (registry : String) (patterns : List Pattern)
  | clear (registry : String)

/-- Commands on counters. -/
inductive TallyCommand where
  | create (tally : String) (limit? : Option Int)
  | record (tally : String) (events : List (Counted × String × Nat))
  | noteSizes (tally : String) (entries active actors : Int)
  | reset (tally : String)
  | summary (tally : String)

/-- How a variable is read. -/
inductive VariableKind where
  | flag
  | text
  | integer (least? : Option Int)
  | path
deriving DecidableEq, Repr

/-- Commands on the settings. -/
inductive SettingsCommand where
  | load
  | ensure
  | list
  | summary
  | lookup (keys : List String) (default : Value)
  | readVariable (kind : VariableKind) (key : String) (default : Value)

/-- Commands on the variables and files around the program. -/
inductive MachineCommand where
  | setVariables (changes : List (String × Option String))
  | write (path : String) (content : List UInt8)
  | remove (path : String)
  | enter (path : String)

/-- Commands on the log context. -/
inductive ContextCommand where
  | enter (scope : String) (fields : Fields)
  | leave (scope : String)
  | set (fields : Fields)
  | clear
  | get

/-- Commands on logging. -/
inductive LogCommand where
  | setUp (terminal : Bool)
  | write (logger : String) (level : Int) (message : Value) (args : List Value) (extra : Fields)
  | shutDown
  | format

/-- A command. Host code in it has type `β`. -/
inductive Command (β : Type) where
  | hub (c : HubCommand β)
  | bridge (c : BridgeCommand β)
  | registry (c : RegistryCommand β)
  | tally (c : TallyCommand)
  | settings (c : SettingsCommand)
  | machine (c : MachineCommand)
  | context (c : ContextCommand)
  | log (c : LogCommand)

end EventHub
