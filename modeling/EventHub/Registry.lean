import EventHub.Pattern

/-! # The registry of listened patterns

A registry holds one entry for each distinct pattern key, in the order in which the patterns were first
listened to. An entry has an active flag and its actors in the order they were attached. Clearing the
registry retires all entries: they can still be looked at, but nothing can be attached to them.

Entries are told apart by references that are never used twice, so that a reference taken before a
clearing, or from another registry, is recognised.
-/

namespace EventHub

/-- Identifies an entry: its registry and its number there. -/
structure EntryRef where
  registry : Nat
  number : Nat
deriving DecidableEq, Repr

/-- A listened pattern with its actors. -/
structure Entry (α : Type) where
  ref : EntryRef
  matcher : Matcher
  active : Bool
  actors : List α

/-- What activating a pattern found. -/
inductive Activation where
  | created
  | reactivated
  | alreadyActive
deriving DecidableEq, Repr

/-- The name of an activation. -/
def Activation.label : Activation → String
  | .created => "created"
  | .reactivated => "reactivated"
  | .alreadyActive => "already_active"

/-- A registry. `issued` counts the entries made so far. -/
structure Registry (α : Type) where
  id : Nat
  issued : Nat := 0
  live : List (Entry α) := []
  retired : List (Entry α) := []

namespace Registry

variable {α : Type}

/-! ## Lookup -/

/-- The live entry of a pattern key. -/
def byKey? (r : Registry α) (key : String) : Option (Entry α) := r.live.find? (·.matcher.key = key)

/-- The live entry with a reference. -/
def live? (r : Registry α) (ref : EntryRef) : Option (Entry α) := r.live.find? (·.ref = ref)

/-- The entry with a reference, live or retired. -/
def entryAt? (r : Registry α) (ref : EntryRef) : Option (Entry α) :=
  (r.live ++ r.retired).find? (·.ref = ref)

/-- The matchers of the active entries that accept an event name, with their actors; entries without
actors are left out. -/
def matching (r : Registry α) (name : String) : List (Matcher × List α) :=
  (r.live.filter fun e => e.active && !e.actors.isEmpty && e.matcher.test name).map fun e =>
    (e.matcher, e.actors)

/-- Whether a pattern is listened to. -/
def isActive (r : Registry α) (m : Matcher) : Bool := (r.byKey? m.key).any (·.active)

/-- The listed patterns, all or the active ones only. -/
def patterns (r : Registry α) (activeOnly : Bool) : List String :=
  (r.live.filter fun e => e.active || !activeOnly).map (·.matcher.shown)

/-- How many actors a publish of an event name calls. -/
def actorCountFor (r : Registry α) (name : String) : Nat :=
  ((r.matching name).flatMap (·.2)).length

/-- How many actors are attached. -/
def actorCount (r : Registry α) : Nat := (r.live.flatMap (·.actors)).length

/-- How many entries are active. -/
def activeCount (r : Registry α) : Nat := (r.live.filter (·.active)).length

/-- How many entries there are. -/
def size (r : Registry α) : Nat := r.live.length

/-! ## Changes -/

/-- Changes the live entry of a key. -/
def modifyKey (r : Registry α) (key : String) (f : Entry α → Entry α) : Registry α :=
  { r with live := r.live.map fun e => if e.matcher.key = key then f e else e }

/-- Makes a pattern active, with a new entry unless there is one. -/
def activate (r : Registry α) (m : Matcher) : Registry α × EntryRef × Activation :=
  match r.byKey? m.key with
  | none =>
    let ref : EntryRef := ⟨r.id, r.issued⟩
    ({ r with issued := r.issued + 1, live := r.live ++ [⟨ref, m, true, []⟩] }, ref, .created)
  | some e =>
    if e.active then (r, e.ref, .alreadyActive)
    else (r.modifyKey m.key fun e => { e with active := true }, e.ref, .reactivated)

/-- Makes a pattern inactive and keeps its actors; none when it has no entry. -/
def deactivate (r : Registry α) (m : Matcher) : Registry α × Option EntryRef :=
  match r.byKey? m.key with
  | none => (r, none)
  | some e => (r.modifyKey m.key fun e => { e with active := false }, some e.ref)

/-- Attaches an actor to a live entry and tells how many it has then; none when the reference is to no
live entry of this registry. -/
def attach? (r : Registry α) (ref : EntryRef) (actor : α) : Option (Registry α × Nat) :=
  (r.live? ref).map fun e =>
    ({ r with live := r.live.map fun e =>
        if e.ref = ref then { e with actors := e.actors ++ [actor] } else e },
      e.actors.length + 1)

/-- Retires all entries and tells how many actors they had. -/
def clear (r : Registry α) : Registry α × Nat :=
  ({ r with live := [], retired := r.retired ++ r.live }, r.actorCount)

end Registry

end EventHub
