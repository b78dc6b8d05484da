import EventHub.Hub.Session
import EventHub.Proofs.Hub.Effects

/-! # What commands without host code can do

One lemma for each group of commands lists the kinds of their effects: commands on registries, counters,
settings, the machine, the log context and logging. None of them runs host code. Commands on hubs and
bridges do, and have a module of their own.
-/

namespace EventHub.Session

open Run

variable {w : World}

/-! ## Names and replies -/

/-- A part that is only there under a name has the effects that it has under each. -/
theorem optionally_does {α : Type} {f : String → Run α} (hf : ∀ name v, Does [] (f name) v)
    (name? : Option String) : Does [] (optionally f name?) w := by
  unfold optionally
  split
  · exact .pure _
  · exact .bind (hf ..) fun _ _ _ => .pure _

theorem replyHandle_does (ref : EntryRef) : Does [] (replyHandle ref) w :=
  .bind (Hub.entry_does ref) fun _ _ _ => .pure _

/-! ## Registries -/

/-- The kinds of the effects of commands on registries. -/
abbrev registryKinds : List Effect.Kind := [.issue, .keep, .registry]

theorem isActive_does (r : Registry Actor) (ps : List Pattern) :
    Does [] (ps.mapM fun p => do return r.isActive (← Hub.compile p)) w :=
  .mapM fun p _ _ => .bind (Hub.compile_does p) fun _ _ _ => .pure _

/-- A command on a registry by its name can change registries and names, and use up numbers. -/
theorem registry_does (c : RegistryCommand Behaviour) : Does registryKinds (registry c) w := by
  cases c with
  | create name =>
      refine .bind (fresh_does.widen rfl) fun n _ _ => ?_
      exact .bind ((keep_does ..).widen rfl) fun _ _ _ => .pure _
  | activate name entry pattern =>
      refine .bind ((find_does ..).widen rfl) fun n _ _ => ?_
      -- the matcher is compiled before the registry is read, so that a refusal leaves it alone
      refine .bind ((Hub.compile_does pattern).widen rfl) fun m _ _ => .get_bind ?_
      refine .bind (.effects [.registry n (.activate m)] rfl rfl) fun _ _ _ => ?_
      refine .bind ((keep_does ..).widen rfl) fun _ _ _ => ?_
      exact .bind ((Hub.entry_does _).widen rfl) fun _ _ _ => .pure _
  | deactivate name pattern =>
      refine .bind ((find_does ..).widen rfl) fun n _ _ => ?_
      refine .bind ((Hub.compile_does pattern).widen rfl) fun m _ _ => .get_bind ?_
      refine .bind (.effects [.registry n (.deactivate m)] rfl rfl) fun _ _ _ => ?_
      -- the handle of an entry that was not there is none
      split
      · exact .pure _
      · exact .bind ((Hub.entry_does _).widen rfl) fun _ _ _ => .pure _
  | attach name entry a pattern identifier? =>
      refine .bind ((find_does ..).widen rfl) fun n _ _ => ?_
      refine .bind ((find_does ..).widen rfl) fun ref _ _ => ?_
      refine .bind ((Hub.entry_does ref).widen rfl) fun e _ _ => ?_
      refine .bind ((Hub.actorOf_does ..).widen rfl) fun a _ _ => ?_
      exact .bind ((Hub.attachTo_does ..).widen rfl) fun _ _ _ => .pure _
  | matching name event => exact .bind ((find_does ..).widen rfl) fun n _ _ => .get_bind (.pure _)
  | survey name patterns =>
      refine .bind ((find_does ..).widen rfl) fun n _ _ => .get_bind ?_
      exact .bind ((isActive_does ..).widen rfl) fun _ _ _ => .pure _
  | clear name =>
      refine .bind ((find_does ..).widen rfl) fun n _ _ => .get_bind ?_
      exact .bind (.effects [.registry n .clear] rfl rfl) fun _ _ _ => .pure _

/-! ## Counters -/

/-- The kinds of the effects of commands on counters. -/
abbrev tallyKinds : List Effect.Kind := [.issue, .keep, .tally]

/-- A change of counters by their name changes counters only. -/
theorem changeTally_does (name : String) (f : Tally → Tally) :
    Does [.tally] (changeTally name f) w := by
  unfold changeTally
  refine .bind ((find_does ..).widen rfl) fun n v _ => ?_
  exact .bind (.effect (.tally n (f (v.tally n))) rfl rfl) fun _ _ _ => .get_bind (.pure _)

/-- A command on counters by their name can change counters and names, and use up numbers. -/
theorem tally_does (c : TallyCommand) : Does tallyKinds (tally c) w := by
  cases c with
  | create name limit? =>
      unfold tally
      dsimp only
      -- a limit below one is refused before a number is used up
      split
      · exact .raise _
      · rename_i t _
        refine .bind (fresh_does.widen rfl) fun n _ _ => ?_
        refine .bind (.effect (.tally n t) rfl rfl) fun _ _ _ => ?_
        exact .bind ((keep_does ..).widen rfl) fun _ _ _ => .pure _
  | record name events =>
      unfold tally
      exact (changeTally_does ..).widen rfl
  | noteSizes name entries active actors =>
      unfold tally
      exact (changeTally_does ..).widen rfl
  | reset name =>
      unfold tally
      exact (changeTally_does ..).widen rfl
  | summary name =>
      refine .bind ((find_does ..).widen rfl) fun n _ _ => .get_bind ?_
      -- the quotients of the summary may be too large, which is a fault
      split
      · exact .pure _
      · exact .raise _

/-! ## Settings and the machine -/

/-- A command on settings has the effects of the steps of a load, however often it takes them. -/
theorem settingsCommand_does (c : SettingsCommand) : Does settingsKinds (settingsCommand c) w := by
  cases c with
  | load => exact .bind (settings_does _) fun _ _ _ => .get_bind (.pure _)
  | ensure => exact .bind (settings_does _) fun _ _ _ => .get_bind (.pure _)
  | list => exact .get_bind (.pure _)
  | summary => exact .bind (settings_does _) fun _ _ _ => .get_bind (.pure _)
  | lookup keys default =>
      exact .bind (.mapM fun key _ _ => settings_does _) fun _ _ _ => .pure _
  | readVariable kind key default => exact .bind (settings_does _) fun _ _ _ => .pure _

theorem changeMachine_does (f : Machine → Machine) : Does [.machine] (changeMachine f) w :=
  .bind (.effect (.machine (f w.machine)) rfl rfl) fun _ _ _ => .pure _

theorem machine_does (c : MachineCommand) : Does [.machine] (machine c) w := by
  -- each of these commands is one change of the machine
  unfold machine
  split <;> exact changeMachine_does _

/-! ## Log context and logging -/

/-- The kinds of the effects of commands on the log context. -/
abbrev contextKinds : List Effect.Kind := [.correlation, .keep, .context]

theorem changeContext_does (f : Fields → Fields) : Does [.context] (changeContext f) w :=
  .bind (.effect (.context (f w.context)) rfl rfl) fun _ _ _ => .get_bind (.pure _)

/-- A command on the log context can change the context and the scopes that are kept, and use up an identifier.
-/
theorem context_does (c : ContextCommand) : Does contextKinds (context c) w := by
  cases c with
  | enter name fields =>
      -- an identifier is used up also where the scope finds one
      refine .get_bind (.get_bind (.bind (correlation_does.widen rfl) fun _ _ _ => ?_))
      refine .bind ((keep_does ..).widen rfl) fun _ _ _ => ?_
      exact (changeContext_does _).widen rfl
  | leave name =>
      refine .bind ((find_does ..).widen rfl) fun s _ _ => .get_bind ?_
      refine .bind ((keep_does ..).widen rfl) fun _ _ _ => ?_
      exact (changeContext_does _).widen rfl
  | set fields => exact (changeContext_does _).widen rfl
  | clear => exact (changeContext_does _).widen rfl
  | get => exact (changeContext_does _).widen rfl

/-- How records are written is asked of the settings, which may have to be loaded for this. -/
theorem lineFormat_does (terminal : Bool) : Does settingsKinds (lineFormat terminal) w :=
  .bind (settings_does _) fun _ _ _ => .get_bind (.pure _)

/-- The log file has its directory made, and is there from then on. -/
theorem logFile_does : Does [.machine] logFile w := by
  unfold logFile
  refine .get_bind ?_
  dsimp only
  split
  · exact .pure _
  · split
    · exact .raise _
    · rename_i m l _
      exact .bind (.effects [.machine (m.append (l ++ [logFileName]) [])] rfl rfl) fun _ _ _ => .pure _

/-- The kinds of the effects of setting up logging. -/
abbrev setUpKinds : List Effect.Kind := .level :: settingsKinds

/-- Setting up logging loads the settings if need be, and then sets the level and the sink. -/
theorem setUpLogging_does (terminal : Bool) : Does setUpKinds (setUpLogging terminal) w := by
  unfold setUpLogging
  refine .get_bind ?_
  -- logging that is set up already is left as it is
  split
  · exact .pure _
  · -- level and format are taken from the settings as they are now
    refine .bind ((settings_does _).widen rfl) fun _ u _ => .get_bind ?_
    refine .bind ((lineFormat_does terminal).widen rfl) fun format _ _ => ?_
    refine .bind (logFile_does.widen rfl) fun file? v _ => ?_
    have hset : Does setUpKinds (modify fun v : World =>
        { v with
          logLevel := u.configuration.settings.logLevel.number
          sink? := some { format := format, file? := file? } }) v :=
      .update [.level u.configuration.settings.logLevel.number,
        .sink (some { format := format, file? := file? })] (by simp) rfl
    refine .bind hset fun _ _ _ => .get_bind ?_
    exact (log_does ..).widen rfl

/-- A command on logging can do what setting it up can do. -/
theorem logging_does (c : LogCommand) : Does setUpKinds (logging c) w := by
  cases c with
  | setUp terminal => exact .bind (setUpLogging_does terminal) fun _ _ _ => .get_bind (.pure _)
  | write logger level message args extra => exact .bind ((log_does ..).widen rfl) fun _ _ _ => .pure _
  | shutDown => exact .get_bind (.bind (.effects [.sink none] rfl rfl) fun _ _ _ => .pure _)
  | format => exact .bind ((lineFormat_does false).widen rfl) fun _ _ _ => .pure _

end EventHub.Session
