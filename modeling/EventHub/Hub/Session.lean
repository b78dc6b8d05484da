import EventHub.Hub.Dispatch

/-! # Sessions

How commands are carried out. Host code that runs during a command has further commands carried out in
the same way, one level deeper; a depth that no reasonable program reaches is the limit.
-/

namespace EventHub.Session

open Run

/-! ## Hubs -/

/-- Something that is optional by name. -/
def optionally {α : Type} (f : String → Run α) : Option String → Run (Option α)
  | none => return none
  | some name => return some (← f name)

/-- The hub of a command that may name a hub or a handle. -/
def hubOrHandle (name : String) : Run Nat :=
  find name fun
    | .hub n => some n
    | .handle n _ => some n
    | _ => none

/-- The reply that shows a handle. -/
def replyHandle (ref : EntryRef) : Run Reply := do
  return .handle (Hub.shownHandle (← Hub.entry ref))

/-- Carries out a command on a hub. -/
def hub (nested : Perform) (depth : Nat) : HubCommand Behaviour → Run Reply
  | .create name options => do
    let registry ← optionally registryNamed options.registryName?
    let tally ← optionally tallyNamed options.tallyName?
    let n ← Hub.create registry tally options.handler? options.metrics options.validates
      options.warns
    keep name (.hub n)
    let w ← get
    let h := w.hub n
    return .hub h.metrics h.validates h.warns (w.tally h.tally).limit
  | .listen name pattern handle? actors => do
    let n ← hubOrHandle name
    let ref ← Hub.listen n pattern
    match handle? with
    | some h => keep h (.handle n ref)
    | none => pure ()
    actors.forM fun a => Hub.attach n ref a none
    replyHandle ref
  | .attach handle a identifier? => do
    let (n, ref) ← handleNamed handle
    Hub.attach n ref a identifier?
    replyHandle ref
  | .describe handle => do
    let (_, ref) ← handleNamed handle
    let e ← Hub.entry ref
    return .handleDetails (Hub.shownHandle e) e.matcher.source e.matcher.key
  | .unlistenHandle handle => do
    let (n, ref) ← handleNamed handle
    Hub.unlisten n (.matcher (← Hub.entry ref).matcher)
    return .nothing
  | .unlisten name pattern => do
    Hub.unlisten (← hubNamed name) pattern
    return .nothing
  | .clear name => do
    Hub.clear (← hubNamed name)
    return .nothing
  | .setHandler name handler? => do
    Hub.setHandler (← hubNamed name) handler?
    return .nothing
  | .setMetrics name on => do
    Hub.setMetrics (← hubNamed name) on
    return .nothing
  | .publish name event payload times => do
    Hub.publishTimes nested depth (← hubNamed name) event payload times
    return .nothing
  | .snapshot name => do
    let n ← hubNamed name
    return .snapshot (Hub.snapshot? (← get) n)
  | .summary name => do
    let n ← hubNamed name
    match Hub.snapshot? (← get) n with
    | none => return .summary none
    | some s =>
      match s.summary? with
      | some s => return .summary (some s)
      | none => raise .ratioTooLarge
  | .survey name names? patterns? => do
    let n ← hubNamed name
    let w ← get
    let r := w.registry (w.hub n).registry
    let listening? ← patterns?.mapM fun ps => ps.mapM fun p => do
      return r.isActive (← Hub.compile p)
    let countOf (name? : Option String) : Nat := name?.elim r.actorCount r.actorCountFor
    return .hubSurvey
      { size := r.size, patterns := r.patterns false, active := r.patterns true
        actors := r.actorCount, counts? := names?.map (·.map countOf), listening? := listening? }

/-! ## Bridges -/

/-- Carries out a command on a bridge. -/
def bridge (nested : Perform) (depth : Nat) : BridgeCommand Behaviour → Run Reply
  | .install name hub emitter => do
    let b ← Hub.bridge (← hubNamed hub) emitter
    keep name (.bridge b)
    return .bridge b.name b.qualifiedName b.doc b.asynchronous
  | .emit name event args named => do
    let b ← bridgeNamed name
    return .value (← Hub.emit nested depth b event args named)

/-! ## Registries -/

/-- The names under which an entry is kept, in alphabetical order. -/
def namesOf (w : World) (ref : EntryRef) : List String :=
  (w.kept.filterMap fun (name, k) =>
    match k with
    | .entry other => if other = ref then some name else none
    | _ => none).mergeSort fun a b => decide (a ≤ b)

/-- Carries out a command on a registry. -/
def registry : RegistryCommand Behaviour → Run Reply
  | .create name => do
    keep name (.registry (← fresh))
    return .nothing
  | .activate name entry pattern => do
    let n ← registryNamed name
    let m ← Hub.compile pattern
    let w ← get
    let (r, ref, activation) := (w.registry n).activate m
    set (w.setRegistry n r)
    keep entry (.entry ref)
    let e ← Hub.entry ref
    return .activated activation (namesOf w ref) e.active (e.actors.map (·.identifier))
  | .deactivate name pattern => do
    let n ← registryNamed name
    let m ← Hub.compile pattern
    let w ← get
    let (r, ref?) := (w.registry n).deactivate m
    set (w.setRegistry n r)
    match ref? with
    | none => return .deactivated none
    | some ref => do
      let e ← Hub.entry ref
      return .deactivated (some (e.active, e.actors.map (·.identifier)))
  | .attach name entry a pattern identifier? => do
    let n ← registryNamed name
    let ref ← entryNamed entry
    let e ← Hub.entry ref
    return .count (← Hub.attachTo n ref e.matcher.source (← Hub.actorOf pattern a identifier?))
  | .matching name event => do
    let n ← registryNamed name
    let r := (← get).registry n
    let found := (r.matching event).map fun (m, actors) => (m.key, actors.map (·.identifier))
    return .matching found (r.actorCountFor event)
  | .survey name patterns => do
    let n ← registryNamed name
    let r := (← get).registry n
    let listening ← patterns.mapM fun p => do return r.isActive (← Hub.compile p)
    return .registrySurvey
      { size := r.size, patterns := r.patterns false, active := r.patterns true
        activeCount := r.activeCount, actors := r.actorCount, listening := listening }
  | .clear name => do
    let n ← registryNamed name
    let w ← get
    let (r, total) := (w.registry n).clear
    set (w.setRegistry n r)
    return .count total

/-! ## Counters -/

/-- Changes counters and replies with what they count then. -/
def changeTally (name : String) (f : Tally → Tally) : Run Reply := do
  let n ← tallyNamed name
  modify fun w => w.setTally n (f (w.tally n))
  return .snapshot (some ((← get).tally n).snapshot)

/-- Counts the same event several times. -/
def recordTimes (t : Tally) (what : Counted) (name : String) : Nat → Tally
  | 0 => t
  | times + 1 => recordTimes (t.record what name) what name times

/-- Carries out a command on counters. -/
def tally : TallyCommand → Run Reply
  | .create name limit? => do
    let limit := limit?.getD Tally.defaultLimit
    match Tally.new? limit with
    | none => raise (.limitTooSmall limit)
    | some t =>
      let n ← fresh
      modify (·.setTally n t)
      keep name (.tally n)
      return .count t.limit
  | .record name events =>
    changeTally name fun t =>
      events.foldl (fun t (what, event, times) => recordTimes t what event times) t
  | .noteSizes name entries active actors => changeTally name (·.noteSizes entries active actors)
  | .reset name => changeTally name (·.reset)
  | .summary name => do
    let n ← tallyNamed name
    match ((← get).tally n).snapshot.summary? with
    | some s => return .summary (some s)
    | none => raise .ratioTooLarge

/-! ## Settings -/

/-- Reads a variable. -/
def readVariable (kind : VariableKind) (key : String) (default : Value) : Settings.Load Value :=
  match kind with
  | .flag => Settings.flagVariable key default id .bool
  | .text => Settings.textVariable key default id .text
  | .integer least? => Settings.integerVariable key default id .int least?
  | .path => do return Settings.ofOptionalPath (← Settings.pathVariable key)

/-- The reply that shows the configuration. -/
def replyConfiguration : Run Reply := do return .configuration (← get).configuration

/-- Carries out a command on the settings. -/
def settingsCommand : SettingsCommand → Run Reply
  | .load => do
    settings Settings.load
    replyConfiguration
  | .ensure => do
    settings Settings.ensureLoaded
    replyConfiguration
  | .list => replyConfiguration
  | .summary => do
    settings Settings.ensureLoaded
    return .fields (← get).configuration.settings.summary
  | .lookup keys default => do
    return .values (← keys.mapM fun key => settings (Settings.lookup key default))
  | .readVariable kind key default => do
    return .value (← settings (readVariable kind key default))

/-- Changes the variables and files around the program. -/
def changeMachine (f : Machine → Machine) : Run Reply := do
  modify fun w => { w with machine := f w.machine }
  return .nothing

/-- Carries out a command on the variables and files around the program. -/
def machine : MachineCommand → Run Reply
  | .setVariables changes =>
    changeMachine fun m => changes.foldl (fun m (name, value?) => m.setVariable name value?) m
  | .write path content => changeMachine (·.writeFile (Path.ofText path) content)
  | .remove path => changeMachine (·.removeFile (Path.ofText path))
  | .enter path => changeMachine (·.enter (Path.ofText path))

/-! ## Log context and logging -/

/-- Changes the log context and replies with it. -/
def changeContext (f : Fields → Fields) : Run Reply := do
  modify fun w => { w with context := f w.context }
  return .fields (← get).context

/-- Carries out a command on the log context. -/
def context : ContextCommand → Run Reply
  | .enter name fields => do
    let s := match (← get).kept.find? name with
      | some (.scope s) => s
      | _ => { fields := fields }
    let (s, inside) := s.enter (← get).context (← correlation)
    keep name (.scope s)
    changeContext fun _ => inside
  | .leave name => do
    let (s, outside) := (← scopeNamed name).leave (← get).context
    keep name (.scope s)
    changeContext fun _ => outside
  | .set fields => changeContext (Log.setFields · fields)
  | .clear => changeContext fun _ => []
  | .get => changeContext id

/-- How records are written on the console by the settings; only a terminal shows colours. -/
def lineFormat (terminal : Bool) : Run Log.LineFormat := do
  settings Settings.ensureLoaded
  let s := (← get).configuration.settings
  return if s.logJson.getD s.isProduction then .json else .console (s.logColors && terminal)

/-- The name of the log file in its directory. -/
def logFileName : String := "mediator.json.log"

/-- The place of the log file, whose directory is made if need be. -/
def logFile : Run (Option Location) := do
  let w ← get
  match w.configuration.settings.logDir with
  | none => return none
  | some dir =>
    match w.machine.makeDirectory dir with
    | .error e => raise (.file e dir.text)
    | .ok (m, l) =>
      let l := l ++ [logFileName]
      set { w with machine := m.append l [] }
      return some l

/-- Sets up logging, unless that was done. -/
def setUpLogging (terminal : Bool) : Run Unit := do
  if (← get).sink?.isSome then return
  settings Settings.ensureLoaded
  let level := (← get).configuration.settings.logLevel
  let format ← lineFormat terminal
  let file? ← logFile
  modify fun w => { w with logLevel := level.number, sink? := some { format := format, file? := file? } }
  let s := (← get).configuration.settings
  log "mediator.logging.logger" 10 (.text "Logging initialized") []
    [("log_level", .text s.logLevel.label), ("log_dir", Settings.ofOptionalPath s.logDir)] none

/-- The reply that tells how logging is set up. -/
def replyLogging : Run Reply := do
  let w ← get
  return .logging w.sink?.isSome w.logLevel (w.sink?.map (·.format))
    (w.sink?.bind (·.file?)).isSome

/-- The content of the log file, where the settings name its directory. -/
def logFileContent (w : World) : Option String :=
  match w.configuration.settings.logDir with
  | none => none
  | some dir =>
    match w.machine.readFile (dir.child logFileName) with
    | .ok content => (decodeText? content).map String.ofList
    | .error _ => none

/-- Carries out a command on logging. -/
def logging : LogCommand → Run Reply
  | .setUp terminal => do
    setUpLogging terminal
    replyLogging
  | .write logger level message args extra => do
    log logger level message args extra none
    return .nothing
  | .shutDown => do
    let w ← get
    set { w with sink? := none }
    return .logged false (w.sink?.map (·.consoleText)) (logFileContent w)
  | .format => do return .format (← lineFormat false)

/-! ## Commands -/

/-- Carries out a command, where `nested` carries out the commands of host code. -/
def step (nested : Perform) (depth : Nat) : Command Behaviour → Run Reply
  | .hub c => hub nested depth c
  | .bridge c => bridge nested depth c
  | .registry c => registry c
  | .tally c => tally c
  | .settings c => settingsCommand c
  | .machine c => machine c
  | .context c => context c
  | .log c => logging c

/-- Carries out a command at a depth, with at most `fuel` further levels. -/
def perform (depth : Nat) : Nat → Perform
  | 0 => fun _ => throw .tooDeep
  | fuel + 1 => step (perform (depth + 1) fuel) depth

/-- How deeply commands can be nested. -/
def deepest : Nat := 1000

/-- Carries out a command. -/
def carryOut (c : Command Behaviour) : Run Reply := perform 0 deepest c

end EventHub.Session
