import EventHub.Log.Sink
import EventHub.Registry
import EventHub.Settings.Configuration
import EventHub.Tally.Report

/-! # Replies

What commands reply.
-/

namespace EventHub

/-- What there is to know about a hub: its patterns, how many actors it has, how many of them given
events would call, and which of given patterns it listens to. -/
structure HubSurvey where
  size : Nat
  patterns : List String
  active : List String
  actors : Nat
  counts? : Option (List Nat)
  listening? : Option (List Bool)

/-- What there is to know about a registry. -/
structure RegistrySurvey where
  size : Nat
  patterns : List String
  active : List String
  activeCount : Nat
  actors : Nat
  listening : List Bool

/-- The reply to a command. -/
inductive Reply where
  | nothing
  /-- The flags of a new hub, and the limit of its counters. -/
  | hub (metrics validates warns : Bool) (limit : Nat)
  /-- The written form of a handle. -/
  | handle (shown : String)
  /-- The written form of a handle, with the source and the key of its pattern. -/
  | handleDetails (shown pattern key : String)
  | snapshot (s? : Option Snapshot)
  | summary (s? : Option Summary)
  | hubSurvey (s : HubSurvey)
  /-- The names and the description of a bridge, and whether it is asynchronous. -/
  | bridge (name qualifiedName doc : Value) (asynchronous : Bool)
  | value (v : Value)
  | values (vs : List Value)
  | fields (fs : Fields)
  /-- What activating found, the names under which the entry was known, and the entry. -/
  | activated (a : Activation) (known : List String) (active : Bool) (actors : List String)
  | deactivated (found? : Option (Bool × List String))
  | count (n : Nat)
  /-- The keys of matching patterns with the identifiers of their actors, and how many these are. -/
  | matching (found : List (String × List String)) (actors : Nat)
  | registrySurvey (s : RegistrySurvey)
  | configuration (c : Settings.Configuration)
  /-- Whether logging is set up, the lowest level that is logged, and how lines are written on the
  console and whether there is a file. -/
  | logging (configured : Bool) (level : Int) (format? : Option Log.LineFormat) (file : Bool)
  /-- What was written on the console, and the content of the log file. -/
  | logged (configured : Bool) (console? file? : Option String)
  | format (f : Log.LineFormat)

end EventHub
