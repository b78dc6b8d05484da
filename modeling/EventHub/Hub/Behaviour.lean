import EventHub.Hub.Command
import EventHub.Hub.Reply

/-! # What host code does

A behaviour ends with a value or with a fault, or has a command carried out. A guarded command hands
its fault to the rest of the behaviour, unless it asks the program to stop; any other fault ends the
behaviour.
-/

namespace EventHub

/-- What host code does when it runs. -/
inductive Behaviour where
  | finish (v : Value)
  | fail (f : Fault)
  | perform (c : Command Behaviour) (guarded : Bool) (next : Except Fault Reply → Behaviour)

instance : Inhabited Behaviour := ⟨.finish .none⟩

end EventHub
