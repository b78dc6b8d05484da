import EventHub.Hub.Registration

/-! # Dispatch

Publishing calls the actors of every active entry whose pattern accepts the event name, as the
registry is when the publish begins: entry by entry in the order of registration, and the actors of an
entry in the order in which they were attached. A failing actor is reported, to the log, the counters
and the error handler, and the others are still called. Only a fault that asks the program to stop
ends a publish.

A publish runs inside a scope of the log context that tells its event, and each call of an actor
inside a further one that tells the pattern and the actor.
-/

namespace EventHub

/-- How nested commands are carried out. -/
abbrev Perform := Command Behaviour → Run Reply

namespace Behaviour

/-- Runs a behaviour. -/
def run (nested : Perform) : Behaviour → Run Value
  | .finish v => return v
  | .fail f => Run.raise f
  | .perform c guarded next => do
    match ← Run.attempt (nested c) with
    | .ok r =>
      Run.note (.answered (.ok r))
      (next (.ok r)).run nested
    | .error f =>
      if guarded && !f.isInterrupt then
        Run.note (.answered (.error f))
        (next (.error f)).run nested
      else Run.raise f

end Behaviour

namespace Hub

open Run

/-- Runs the body of a callable. -/
def runBody (nested : Perform) (c : Callable Behaviour) (serial : Nat) (bound : Fields) :
    Run Value := do
  let before ← countRun serial
  note (.ran c.label bound (← get).context c.showsContext)
  (c.body before bound).run nested

/-- Calls a callable. The body of an asynchronous one runs only if it is awaited. -/
def call (nested : Perform) (c : Callable Behaviour) (serial : Nat) (awaited : Bool)
    (args : List Value) (named : Fields) : Run Value := do
  match c.start args named with
  | .error e => raise (.badCall e)
  | .ok (.gives v) => return v
  | .ok (.runs bound) => runBody nested c serial bound
  | .ok (.suspended bound) => if awaited then runBody nested c serial bound else return .none

/-- Runs an error handler. -/
def runHandler (nested : Perform) (depth n : Nat) (h : InstalledHandler) (f : Fault) : Run Unit := do
  let before ← countRun h.serial
  note (.handled depth n f (← get).context h.handler.showsContext)
  let _ ← (h.handler.body before f).run nested

/-! ## Scopes -/

/-- The fields of the log context during a publish. It is not inside the actor that made it, so that
pattern and actor are cleared. -/
def publishFields (name : String) (payload : Value) : Fields :=
  [("event_name", .text name), ("payload_type", .text payload.typeName), ("pattern", .none),
    ("actor_id", .none), ("component", .text "mediator"), ("operation", .text "publish")]

/-- The fields of the log context during the call of an actor. -/
def actorFields (event : Event) (a : Actor) : Fields :=
  [("pattern", .text event.pattern), ("actor_id", .text a.identifier)]

/-! ## Counting -/

/-- Counts something for an event name, if the hub counts. -/
def count (n : Nat) (what : Counted) (name : String) : Run Unit := do
  let w ← get
  let h := w.hub n
  if h.metrics then set (w.setTally h.tally ((w.tally h.tally).record what name))

/-! ## Failures -/

/-- Logs the failure of an error handler. -/
def reportHandlerFailure (event : Event) (a : Actor) (f : Fault) : Run Unit :=
  log "mediator.event.bus" 40 (.text "Mediator error handler failed") []
    [("event_name", .text event.name), ("actor_id", .text a.identifier),
      ("error", .text f.describe), ("error_type", .text f.className)]
    (some f)

/-- Hands a failure to the error handler that the hub has now. A failing handler is only logged. -/
def tellHandler (nested : Perform) (depth n : Nat) (event : Event) (a : Actor) (failure : Fault) :
    Run Unit := do
  match ((← get).hub n).handler? with
  | none => return
  | some h =>
    match ← attempt (runHandler nested depth n h failure) with
    | .ok _ => return
    | .error f => if f.isInterrupt then raise f else reportHandlerFailure event a f

/-- Reports the failure of an actor. -/
def report (nested : Perform) (depth n : Nat) (event : Event) (a : Actor) (f : Fault) :
    Run Unit := do
  count n .failure event.name
  log "mediator.event.bus" 40 (.text "Mediator actor error") []
    [("event_name", .text event.name), ("pattern", .text event.pattern),
      ("actor_id", .text a.identifier), ("error", .text f.describe),
      ("error_type", .text f.className)]
    (some f)
  tellHandler nested depth n event a (.actorFailed event.name event.pattern a.identifier f)

/-! ## Publishing -/

/-- Calls one actor. -/
def invoke (nested : Perform) (depth n : Nat) (payload : Value) (target : Event × Actor) :
    Run Unit := do
  let (event, a) := target
  count n .call event.name
  inScope (actorFields event a) do
    note (.called depth n event payload a (← get).context)
    match ← attempt (call nested a.callable a.serial false [.event event, payload] []) with
    | .ok _ => return
    | .error f =>
      if f.isInterrupt then raise f
      else
        note (.failed depth n event a f)
        report nested depth n event a f

/-- Whom a publish of an event calls, in order. -/
def targets (found : List (Matcher × List Actor)) (name : String) : List (Event × Actor) :=
  found.flatMap fun (m, actors) => actors.map (⟨name, m.source⟩, ·)

/-- Publishes an event with a name that is text. -/
def publishNamed (nested : Perform) (depth n : Nat) (name : String) (payload : Value) :
    Run Unit := do
  note (.published depth n name)
  count n .publish name
  inScope (publishFields name payload) do
    let w ← get
    let found := (w.registry (w.hub n).registry).matching name
    if found.isEmpty then
      hubLog 10 "Mediator: no actors for event" [("event_name", .text name)]
    else
      hubLog 10 "Mediator: dispatching event"
        [("event_name", .text name), ("pattern_count", .int found.length),
          ("actor_count", .int (found.flatMap (·.2)).length)]
      (targets found name).forM (invoke nested depth n payload)

/-- Publishes an event. -/
def publish (nested : Perform) (depth n : Nat) (name payload : Value) : Run Unit :=
  match name with
  | .text name => publishNamed nested depth n name payload
  | v => raise (.nameNotText v.typeName)

/-- Publishes an event several times. -/
def publishTimes (nested : Perform) (depth n : Nat) (name payload : Value) : Nat → Run Unit
  | 0 => return
  | times + 1 => do
    publish nested depth n name payload
    publishTimes nested depth n name payload times

/-! ## Bridges -/

/-- A name that a bridge takes over from its emitter. -/
def takenName (emitter : Callable Behaviour) (a : Attribute) (label : String) (default : Value) :
    Run Value := do
  match emitter.attribute? a with
  | none => return default
  | some (.text s) => return .text s
  | some _ => raise (.badCall (.nameNotText label))

/-- Makes an emitter publish to a hub first. -/
def bridge (n : Nat) (emitter : Callable Behaviour) : Run Bridge := do
  if !emitter.shape.isCallable then raise (.emitterNotCallable emitter.shape.typeName)
  let asynchronous := emitter.isAsynchronous
  let shown := (emitter.attribute? .qualifiedName).getD (.text emitter.literal)
  let label := if asynchronous then "async_bridged" else "bridged"
  let name ← takenName emitter .name "__name__" (.text label)
  let qualifiedName ←
    takenName emitter .qualifiedName "__qualname__" (.text ("bridge.<locals>." ++ label))
  log "mediator.event.adapter" 10 (.text "Mediator bridge installed") []
    [("emitter", shown), ("is_async", .bool asynchronous)] none
  return ⟨n, emitter, ← fresh, name, qualifiedName, emitter.documentation?.elim .none .text, asynchronous⟩

/-- Emits an event through a bridge: publishes it with the first further argument as payload, and then
calls the emitter with all arguments. -/
def emit (nested : Perform) (depth : Nat) (b : Bridge) (name : Value) (args : List Value)
    (named : Fields) : Run Value := do
  if named.contains "name" then
    raise (.badCall (.givenTwice b.qualifiedName.plain "name"))
  publish nested depth b.hub name (args.head?.getD .none)
  call nested b.emitter b.serial b.asynchronous (name :: args) named

end Hub

end EventHub
