import EventHub.Log.Record

/-! # Scopes of the log context

The log context is a map of fields that are stamped on records. A scope binds fields for as long as it
is entered and gives back the context that it found. All that happens inside the outermost scope
shares one correlation identifier.
-/

namespace EventHub.Log

/-- The field that is shared by everything inside an outermost scope. -/
def correlationField : String := "correlation_id"

/-- The correlation identifier with a number. -/
def generatedId (n : Nat) : String := "gen" ++ String.ofList (Num.paddedDecimal 5 n)

/-- The fields of a scope, and the context it found when it was last entered, until it is left. -/
structure Scope where
  fields : Fields
  outer? : Option Fields := none

/-- The fields that a scope binds: its own, and then component, operation and correlation identifier
where they are something. -/
def scopeFields (own : Fields) (component operation correlation : Value) : Fields :=
  let add (fields : Fields) (named : String × Value) : Fields :=
    match named.2 with
    | .none => fields
    | v => fields.insert named.1 v
  [("component", component), ("operation", operation), (correlationField, correlation)].foldl add own

/-- The context inside a scope: the fields of the scope win over those around it, and there is always
a correlation identifier. -/
def within (context fields : Fields) (fresh : String) : Fields :=
  let merged := OrderedMap.insertAll context fields
  if merged.contains correlationField then merged
  else OrderedMap.insert merged correlationField (.text fresh)

/-- A context with further fields set; those that are nothing are passed over. -/
def setFields (context fields : Fields) : Fields :=
  OrderedMap.insertAll context (fields.filter fun b =>
    match b.2 with
    | .none => false
    | _ => true)

namespace Scope

/-- Enters a scope, where `fresh` is a new correlation identifier; tells the context inside. -/
def enter (s : Scope) (context : Fields) (fresh : String) : Scope × Fields :=
  ({ s with outer? := some context }, within context s.fields fresh)

/-- Leaves a scope and tells the context outside; leaving one that is not entered changes nothing. -/
def leave (s : Scope) (context : Fields) : Scope × Fields :=
  ({ s with outer? := none }, s.outer?.getD context)

end Scope

end EventHub.Log
