import EventHub.Hub.Behaviour
import EventHub.Settings.Load

/-! # The world of a session

Everything that commands change: registries, counters and hubs under their numbers, the names under
which they are kept, the log context, the settings, the files and variables around the program, and a
journal of what happened.

A run of commands may stop: by a fault, or because host code nested commands too deeply. What it
changed before that stays changed.
-/

namespace EventHub

/-- A callable that is attached to a pattern. The serial number tells creations of callables apart. -/
structure Actor where
  callable : Callable Behaviour
  serial : Nat
  identifier : String

/-- An error handler of a hub. -/
structure InstalledHandler where
  handler : Handler Behaviour
  serial : Nat

/-- An event hub: the numbers of its registry and its counters, its error handler and its flags. -/
structure Hub where
  registry : Nat
  tally : Nat
  handler? : Option InstalledHandler
  metrics : Bool
  validates : Bool
  warns : Bool

instance : Inhabited Hub := ⟨⟨0, 0, none, true, true, true⟩⟩

/-- An emitter that publishes to a hub first. -/
structure Bridge where
  hub : Nat
  emitter : Callable Behaviour
  serial : Nat
  name : Value
  qualifiedName : Value
  doc : Value
  asynchronous : Bool

/-- What is kept under a name. -/
inductive Kept where
  | hub (n : Nat)
  | handle (hub : Nat) (entry : EntryRef)
  | registry (n : Nat)
  | entry (ref : EntryRef)
  | tally (n : Nat)
  | scope (s : Log.Scope)
  | bridge (b : Bridge)

/-- Something that happened. A depth tells how deeply the command is nested in which it happened. The
bodies of callables and the error handlers are noted with the log context they start in, and whether
they show it. -/
inductive Occurrence where
  /-- A publish began on a hub. -/
  | published (depth hub : Nat) (name : String)
  /-- A call of an actor began, in a log context. -/
  | called (depth hub : Nat) (event : Event) (payload : Value) (actor : Actor) (context : Fields)
  /-- A call of an actor failed. -/
  | failed (depth hub : Nat) (event : Event) (actor : Actor) (fault : Fault)
  /-- An error handler runs. -/
  | handled (depth hub : Nat) (fault : Fault) (context : Fields) (shows : Bool)
  /-- The body of a callable runs. -/
  | ran (label : String) (bound : Fields) (context : Fields) (shows : Bool)
  /-- A nested command ended. -/
  | answered (outcome : Except Fault Reply)
  /-- A warning was given. -/
  | warned (fault : Fault)
  /-- A record was logged. -/
  | logged (r : Log.Record)

/-- The world of a session. The journal has the latest occurrence first. -/
structure World where
  issued : Nat := 0
  registries : OrderedMap Nat (Registry Actor) := []
  tallies : OrderedMap Nat Tally := []
  hubs : OrderedMap Nat Hub := []
  kept : OrderedMap String Kept := []
  runs : OrderedMap Nat Nat := []
  context : Fields := []
  correlations : Nat := 0
  configuration : Settings.Configuration := {}
  machine : Machine := {}
  logLevel : Int := 10
  sink? : Option Log.Sink := none
  strict : Bool := false
  journal : List Occurrence := []

namespace World

/-- The registry with a number. -/
def registry (w : World) (n : Nat) : Registry Actor := (w.registries.find? n).getD { id := n }

/-- The counters with a number. -/
def tally (w : World) (n : Nat) : Tally := (w.tallies.find? n).getD { limit := Tally.defaultLimit }

/-- The hub with a number. -/
def hub (w : World) (n : Nat) : Hub := (w.hubs.find? n).getD default

/-- Changes a registry. -/
def setRegistry (w : World) (n : Nat) (r : Registry Actor) : World :=
  { w with registries := w.registries.insert n r }

/-- Changes counters. -/
def setTally (w : World) (n : Nat) (t : Tally) : World := { w with tallies := w.tallies.insert n t }

/-- Changes a hub. -/
def setHub (w : World) (n : Nat) (h : Hub) : World := { w with hubs := w.hubs.insert n h }

/-- Enters something into the journal. -/
def note (w : World) (o : Occurrence) : World := { w with journal := o :: w.journal }

/-- The entry with a reference, also when it is retired. -/
def entryAt? (w : World) (ref : EntryRef) : Option (Entry Actor) := (w.registry ref.registry).entryAt? ref

/-- A registry that is set has its number, and the others are as they were. -/
theorem registry_setRegistry (w : World) (n m : Nat) (r : Registry Actor) :
    (w.setRegistry n r).registry m = if m = n then r else w.registry m := by
  unfold registry setRegistry
  rw [OrderedMap.find?_insert]
  split <;> simp

/-- Counters that are set have their number, and the others are as they were. -/
theorem tally_setTally (w : World) (n m : Nat) (t : Tally) :
    (w.setTally n t).tally m = if m = n then t else w.tally m := by
  unfold tally setTally
  rw [OrderedMap.find?_insert]
  split <;> simp

/-- A hub that is set has its number, and the others are as they were. -/
theorem hub_setHub (w : World) (n m : Nat) (h : Hub) :
    (w.setHub n h).hub m = if m = n then h else w.hub m := by
  unfold hub setHub
  rw [OrderedMap.find?_insert]
  split <;> simp

end World

/-- Why a run of commands stops. -/
inductive Stop where
  | fault (f : Fault)
  | tooDeep

/-- Runs of commands. -/
abbrev Run := ExceptT Stop (StateM World)

namespace Run

/-- Stops with a fault. -/
def raise {α : Type} (f : Fault) : Run α := throw (.fault f)

/-- The result, or the fault that it stopped with. -/
def attempt {α : Type} (act : Run α) : Run (Except Fault α) := ExceptT.mk fun w =>
  match act.run w with
  | (.ok a, w) => (.ok (.ok a), w)
  | (.error (.fault f), w) => (.ok (.error f), w)
  | (.error .tooDeep, w) => (.error .tooDeep, w)

/-- Enters something into the journal. -/
def note (o : Occurrence) : Run Unit := modify (·.note o)

/-- A number that was not issued before. -/
def fresh : Run Nat := do
  let n := (← get).issued
  modify fun w => { w with issued := n + 1 }
  return n

/-- The number of earlier runs of the host code with a serial number, which runs once more. -/
def countRun (serial : Nat) : Run Nat := do
  let n := ((← get).runs.find? serial).getD 0
  modify fun w => { w with runs := w.runs.insert serial (n + 1) }
  return n

/-! ## Names -/

/-- Keeps something under a name. -/
def keep (name : String) (k : Kept) : Run Unit :=
  modify fun w => { w with kept := w.kept.insert name k }

/-- The fault of a name under which nothing suitable is kept. -/
def unknownName (name : String) : Fault := .thrown .keyError [.text name]

/-- What is kept under a name, as far as `f` accepts it. -/
def find {α : Type} (name : String) (f : Kept → Option α) : Run α := do
  match ((← get).kept.find? name).bind f with
  | some a => return a
  | none => raise (unknownName name)

/-- The hub that is kept under a name. -/
def hubNamed (name : String) : Run Nat :=
  find name fun
    | .hub n => some n
    | _ => none

/-- The handle that is kept under a name, with its hub. -/
def handleNamed (name : String) : Run (Nat × EntryRef) :=
  find name fun
    | .handle hub ref => some (hub, ref)
    | _ => none

/-- The registry that is kept under a name. -/
def registryNamed (name : String) : Run Nat :=
  find name fun
    | .registry n => some n
    | _ => none

/-- The entry that is kept under a name. -/
def entryNamed (name : String) : Run EntryRef :=
  find name fun
    | .entry ref => some ref
    | _ => none

/-- The counters that are kept under a name. -/
def tallyNamed (name : String) : Run Nat :=
  find name fun
    | .tally n => some n
    | _ => none

/-- The scope that is kept under a name. -/
def scopeNamed (name : String) : Run Log.Scope :=
  find name fun
    | .scope s => some s
    | _ => none

/-- The bridge that is kept under a name. -/
def bridgeNamed (name : String) : Run Bridge :=
  find name fun
    | .bridge b => some b
    | _ => none

/-! ## Log context -/

/-- A correlation identifier that was not used before. -/
def correlation : Run String := do
  let n := (← get).correlations + 1
  modify fun w => { w with correlations := n }
  return Log.generatedId n

/-- Runs an action inside a scope. Whatever happens, the context is as before afterwards. -/
def inScope {α : Type} (fields : Fields) (act : Run α) : Run α := ExceptT.mk fun w =>
  let inside : World :=
    { w with
      correlations := w.correlations + 1
      context := Log.within w.context fields (Log.generatedId (w.correlations + 1)) }
  match act.run inside with
  | (r, after) => (r, { after with context := w.context })

/-! ## Logging -/

/-- Logs a record, unless its level is too low. -/
def log (logger : String) (level : Int) (message : Value) (args : List Value) (extra : Fields)
    (fault? : Option Fault) : Run Unit := do
  let w ← get
  if level < w.logLevel then return
  match Log.clash? extra with
  | some name => raise (.reservedField name)
  | none =>
    let r : Log.Record :=
      { logger := logger, level := level, message := message, args := args, attributes := extra
        fault? := fault?, created := Log.sessionMoment }
    let r := r.stamped w.context
    match w.sink? with
    | none => set (w.note (.logged r))
    | some s =>
      let (s, m) := s.write w.machine r
      set { w.note (.logged r) with sink? := some s, machine := m }

/-- Logs a message of the hubs. -/
def hubLog (level : Int) (message : String) (extra : Fields) : Run Unit :=
  log "mediator.event.bus" level (.text message) [] extra none

/-- Gives a warning, which is a fault when warnings are taken strictly. -/
def warn (f : Fault) : Run Unit := do
  if (← get).strict then raise f
  note (.warned f)

/-! ## Settings -/

/-- A step of the settings. Its warnings are logged before it ends. -/
def settings {α : Type} (act : Settings.Load α) : Run α := do
  let w ← get
  let (r, l) := act.run ⟨w.machine, w.configuration, []⟩
  set { w with machine := l.machine, configuration := l.configuration }
  l.warnings.forM fun message => log "root" 30 (.text message) [] [] none
  match r with
  | .ok a => return a
  | .error f => raise f

end Run

end EventHub
