import EventHub.Hub.World

/-! # Registration

How hubs are set up, how patterns are listened to and actors attached, and what a hub tells about
itself. A hub keeps the sizes of its registry in its counters; they are noted anew after each change,
as long as counting is on.
-/

namespace EventHub.Hub

open Run

/-! ## Setting up -/

/-- A flag of a new hub: as it is given, or else from the settings, or on when these cannot be loaded.
-/
def flag (key : String) (given : Value) : Run Bool := do
  match given with
  | .none =>
    match ← attempt (settings (Settings.lookup key (.bool true))) with
    | .ok v => return v.isTruthy
    | .error f =>
      if f.isSettingsFault then
        hubLog 30 "Failed to load mediator setting from config, using default"
          [("config_key", .text key), ("default_value", .bool true), ("error", .text f.describe)]
        return true
      else raise f
  | v => return v.isTruthy

/-- The limit of a new hub's counters: from the settings, but at least one, or the built-in one when
these cannot be loaded. -/
def nameLimit : Run Nat := do
  let builtIn : Value := .int Tally.defaultLimit
  match ← attempt (settings (Settings.lookup "mediator.metrics_max_event_names" builtIn)) with
  | .ok (.int i) => return (max 1 i).toNat
  | .ok _ => return Tally.defaultLimit
  | .error f =>
    if f.isSettingsFault then
      hubLog 30 "Failed to load metrics cap from config, using default"
        [("default_value", builtIn), ("error", .text f.describe)]
      return Tally.defaultLimit
    else raise f

/-- The registry of a new hub: the one with the given number, or a new one. -/
def chooseRegistry (given? : Option Nat) : Run Nat := do
  match given? with
  | some n => return n
  | none => fresh

/-- The counters of a new hub: those with the given number, or new ones. -/
def chooseTally (given? : Option Nat) : Run Nat := do
  match given? with
  | some n => return n
  | none => do
    let limit ← nameLimit
    let n ← fresh
    modify (·.setTally n { limit := limit })
    return n

/-- Gives an error handler a serial number. -/
def install (handler? : Option (Handler Behaviour)) : Run (Option InstalledHandler) := do
  match handler? with
  | none => return none
  | some h => return some ⟨h, ← fresh⟩

/-- Makes a hub. -/
def create (givenRegistry givenTally : Option Nat) (handler? : Option (Handler Behaviour))
    (metrics validates warns : Value) : Run Nat := do
  let registry ← chooseRegistry givenRegistry
  let tally ← chooseTally givenTally
  let handler? ← install handler?
  let metrics ← flag "mediator.metrics_enabled" metrics
  let validates ← flag "mediator.validate_actors" validates
  let warns ← flag "mediator.warn_unknown_unlisten" warns
  let n ← fresh
  modify (·.setHub n ⟨registry, tally, handler?, metrics, validates, warns⟩)
  hubLog 10 "Mediator initialized"
    [("metrics_enabled", .bool metrics), ("validate_actors", .bool validates),
      ("warn_unknown_unlisten", .bool warns)]
  return n

/-! ## Registry -/

/-- Notes the sizes of a hub's registry in its counters, if counting is on. -/
def noteSizes (n : Nat) : Run Unit := do
  let w ← get
  let h := w.hub n
  if h.metrics then
    let r := w.registry h.registry
    set (w.setTally h.tally ((w.tally h.tally).noteSizes r.size r.activeCount r.actorCount))

/-- The matcher of a pattern. -/
def compile (p : Pattern) : Run Matcher :=
  match p.compile? with
  | .ok m => return m
  | .error e => raise (.ofPatternError e)

/-- The entry with a reference. -/
def entry (ref : EntryRef) : Run (Entry Actor) := do
  match (← get).entryAt? ref with
  | some e => return e
  | none => raise (unknownName "")

/-- Listens to a pattern. -/
def listen (n : Nat) (p : Pattern) : Run EntryRef := do
  let m ← compile p
  let w ← get
  let h := w.hub n
  let (r, ref, activation) := (w.registry h.registry).activate m
  set (w.setRegistry h.registry r)
  noteSizes n
  hubLog 10 "Mediator: listening"
    [("pattern", .text m.shown), ("pattern_kind", .text m.kind.label),
      ("state", .text activation.label), ("actor_count", .int ((r.entryAt? ref).elim 0 (·.actors.length)))]
  return ref

/-- Makes an actor of a callable. -/
def actorOf (pattern : String) (c : Callable Behaviour) (identifier? : Option String) : Run Actor := do
  return ⟨c, ← fresh, identifier?.getD (c.identifier pattern)⟩

/-- Attaches an actor to an entry of a registry and tells how many it has then. -/
def attachTo (registry : Nat) (ref : EntryRef) (source : String) (a : Actor) : Run Nat := do
  let w ← get
  match (w.registry registry).attach? ref a with
  | none => raise (.staleEntry source)
  | some (r, count) =>
    set (w.setRegistry registry r)
    return count

/-- Attaches a callable to the entry of a handle, after checking it if the hub does so. -/
def attach (n : Nat) (ref : EntryRef) (c : Callable Behaviour) (identifier? : Option String) :
    Run Unit := do
  let h := (← get).hub n
  let m := (← entry ref).matcher
  if h.validates then
    match c.check with
    | .ok _ => pure ()
    | .error f => raise f
  let a ← actorOf m.shown c identifier?
  let count ← attachTo h.registry ref m.source a
  noteSizes n
  hubLog 10 "Mediator: actor attached"
    [("pattern", .text m.shown), ("actor_id", .text a.identifier), ("actor_count", .int count)]

/-- Stops listening to a pattern. Its actors are kept. -/
def unlisten (n : Nat) (p : Pattern) : Run Unit := do
  let m ← compile p
  let w ← get
  let h := w.hub n
  let (r, ref?) := (w.registry h.registry).deactivate m
  match ref? with
  | none =>
    hubLog 20 "Mediator: unlisten of unknown pattern ignored" [("pattern", .text m.shown)]
    if h.warns then warn (.neverListened m.shown)
  | some ref =>
    set (w.setRegistry h.registry r)
    noteSizes n
    hubLog 10 "Mediator: unlistened"
      [("pattern", .text m.shown),
        ("actor_count", .int ((r.entryAt? ref).elim 0 (·.actors.length)))]

/-- Removes all entries, and begins counting anew if counting is on. -/
def clear (n : Nat) : Run Unit := do
  let w ← get
  let h := w.hub n
  let (r, total) := (w.registry h.registry).clear
  let w := w.setRegistry h.registry r
  set (if h.metrics then w.setTally h.tally (w.tally h.tally).reset else w)
  hubLog 20 "Mediator: cleared all entries" [("previous_actor_count", .int total)]

/-! ## Flags -/

/-- Replaces the error handler. -/
def setHandler (n : Nat) (handler? : Option (Handler Behaviour)) : Run Unit := do
  let handler? ← install handler?
  modify fun w => w.setHub n { w.hub n with handler? := handler? }

/-- Turns counting on or off. -/
def setMetrics (n : Nat) (on : Bool) : Run Unit := do
  modify fun w => w.setHub n { w.hub n with metrics := on }
  noteSizes n
  hubLog 20 (if on then "Mediator: metrics enabled" else "Mediator: metrics disabled") []

/-! ## Looking -/

/-- The counts of a hub, if counting is on. -/
def snapshot? (w : World) (n : Nat) : Option Snapshot :=
  if (w.hub n).metrics then some (w.tally (w.hub n).tally).snapshot else none

/-- The written form of a hub. -/
def shown (w : World) (n : Nat) : String :=
  let r := w.registry (w.hub n).registry
  "Mediator(entries=" ++ toString r.size ++ ", active=" ++ toString r.activeCount ++ ", actors="
    ++ toString r.actorCount ++ ")"

/-- The written form of a handle. -/
def shownHandle (e : Entry Actor) : String :=
  "ListenHandle(pattern=" ++ (Value.text e.matcher.shown).literal ++ ", actors="
    ++ toString e.actors.length ++ ")"

end EventHub.Hub
