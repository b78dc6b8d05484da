import EventHub.OrderedMap

/-! # Bounded counters

A tally counts publishes, actor calls and failures by event name. It tracks a bounded number of names,
first come first served over all three counts; names that come later share one bucket, so that the
sums stay exact while the tally stays small.
-/

namespace EventHub

/-- What is counted. -/
inductive Counted where
  | publish
  | call
  | failure
deriving DecidableEq, Repr

/-- Counts by name, in the order in which the names were first counted. -/
abbrev Counts := OrderedMap String Nat

/-- The number of entries of a registry, of those that are active, and of actors. -/
structure Sizes where
  entries : Nat := 0
  active : Nat := 0
  actors : Nat := 0
deriving DecidableEq, Repr

/-- Counters with a limit on the names they track. -/
structure Tally where
  limit : Nat
  tracked : List String := []
  published : Counts := []
  called : Counts := []
  failed : Counts := []
  sizes : Sizes := {}
deriving Repr

namespace Tally

/-- The bucket shared by all names beyond the limit. -/
def overflowName : String := "<other>"

/-- The limit that holds when none is set. -/
def defaultLimit : Nat := 1000

/-- Fresh counters; the limit has to be at least one. -/
def new? (limit : Int) : Option Tally := if limit < 1 then none else some { limit := limit.toNat }

/-- The bucket of a name, and the names that are tracked from then on. -/
def bucket (t : Tally) (name : String) : String × List String :=
  if name ∈ t.tracked then (name, t.tracked)
  else if t.tracked.length < t.limit then (name, t.tracked ++ [name])
  else (overflowName, t.tracked)

/-- Counts with one more for a name. -/
def Counts.bump (c : Counts) (name : String) : Counts := OrderedMap.adjust c name 0 (· + 1)

/-- The counts of one kind. -/
def counts (t : Tally) : Counted → Counts
  | .publish => t.published
  | .call => t.called
  | .failure => t.failed

/-- Counts one occurrence for a name. -/
def record (t : Tally) (what : Counted) (name : String) : Tally :=
  let (key, tracked) := t.bucket name
  let t := { t with tracked := tracked }
  match what with
  | .publish => { t with published := Counts.bump t.published key }
  | .call => { t with called := Counts.bump t.called key }
  | .failure => { t with failed := Counts.bump t.failed key }

/-- Notes the sizes of a registry; none is below zero. -/
def noteSizes (t : Tally) (entries active actors : Int) : Tally :=
  { t with sizes := ⟨entries.toNat, active.toNat, actors.toNat⟩ }

/-- Forgets everything but the limit. -/
def reset (t : Tally) : Tally := { limit := t.limit }

end Tally

end EventHub
