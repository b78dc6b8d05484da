import EventHub.Proofs.Lockstep.Registration
import EventHub.Proofs.Session.Plain

/-! # Commands in lockstep

Commands that run no host code go in lockstep, and reply the same: nothing that they do or tell depends on
a payload, or on the bodies of host code. Main statement: `Swap.runs_step`.
-/

namespace EventHub

namespace Swap

variable {s : Swap}

open Run Session

/-! ## Hubs -/

theorem Runs.reply {r r' : Reply} (h : r = r') : s.Runs s.Replies (Pure.pure r) (Pure.pure r') := by
  subst h
  exact .pure (.same r)

/-- A name that may be left out. -/
theorem runs_optionally {α : Type} {f : String → Run α} (hf : ∀ name, s.Runs Eq (f name) (f name))
    (name? : Option String) : s.Runs Eq (optionally f name?) (optionally f name?) := by
  cases name? with
  | none => exact .pure rfl
  | some name => exact .bind_same (hf name) fun _ => .pure rfl

theorem Entries.shownHandle_eq {e e' : Entry Actor} (h : s.Entries e e') :
    Hub.shownHandle e = Hub.shownHandle e' := by
  unfold Hub.shownHandle
  rw [h.matcher, h.actors.length_eq]

theorem Entries.identifiers_eq {e e' : Entry Actor} (h : s.Entries e e') :
    e.actors.map (·.identifier) = e'.actors.map (·.identifier) :=
  map_eq_of_related h.actors fun _ _ ha => ha.identifier

theorem runs_replyHandle (ref : EntryRef) : s.Runs s.Replies (replyHandle ref) (replyHandle ref) :=
  .bind (runs_entry ref) fun _ _ he => .reply (by rw [he.shownHandle_eq])

/-- Which patterns are listened to. -/
theorem runs_isActive {r r' : Registry Actor} (h : s.Registries r r') (ps : List Pattern) :
    s.Runs Eq (ps.mapM fun p => do return r.isActive (← Hub.compile p))
      (ps.mapM fun p => do return r'.isActive (← Hub.compile p)) :=
  .mapM ps fun p => .bind_same (runs_compile p) fun m => .pure (h.isActive_eq m)

theorem Runs.hubNamed (name : String) : s.Runs Eq (hubNamed name) (hubNamed name) :=
  .find_same name _ fun _ => rfl

theorem Runs.handleNamed (name : String) : s.Runs Eq (handleNamed name) (handleNamed name) :=
  .find_same name _ fun _ => rfl

theorem Runs.registryNamed (name : String) : s.Runs Eq (registryNamed name) (registryNamed name) :=
  .find_same name _ fun _ => rfl

theorem Runs.tallyNamed (name : String) : s.Runs Eq (tallyNamed name) (tallyNamed name) :=
  .find_same name _ fun _ => rfl

/-- Actors are attached one after another, all of them alike. -/
theorem runs_listenAll (n : Nat) (ref : EntryRef) {actors actors' : List (Callable Behaviour)}
    (h : List.Forall₂ s.Callables actors actors') :
    s.Runs s.Replies
      (do actors.forM fun a => Hub.attach n ref a none; replyHandle ref)
      (do actors'.forM fun a => Hub.attach n ref a none; replyHandle ref) :=
  .bind_same (.forM h fun _ _ ha => runs_attach n ref ha none) fun _ => runs_replyHandle ref

variable {nested : Perform} {depth : Nat} {c c' : Command Behaviour}

/-- What commands on hubs find and tell is the same in related worlds. -/
theorem runs_hub {c : HubCommand Behaviour} (h : (Command.hub c).isBare = true) :
    s.Runs s.Replies (hub nested depth c) (hub nested depth c) := by
  cases c with
  | create _ _ => cases h
  | listen _ _ _ _ => cases h
  | attach _ _ _ => cases h
  | setHandler _ _ => cases h
  | publish _ _ _ _ => cases h
  | describe handle =>
      exact .bind_same (.handleNamed handle) fun x => .bind (runs_entry x.2) fun _ _ he =>
        .reply (by rw [he.shownHandle_eq, he.matcher])
  | unlistenHandle handle =>
      refine .bind_same (.handleNamed handle) fun x => .bind (runs_entry x.2) fun e e' he => ?_
      rw [he.matcher]
      exact .bind_same (runs_unlisten x.1 _) fun _ => .reply rfl
  | unlisten name pattern =>
      exact .bind_same (.hubNamed name) fun n => .bind_same (runs_unlisten n _) fun _ => .reply rfl
  | clear name => exact .bind_same (.hubNamed name) fun n => .bind_same (runs_clear n) fun _ => .reply rfl
  | setMetrics name on =>
      exact .bind_same (.hubNamed name) fun n => .bind_same (runs_setMetrics n on) fun _ => .reply rfl
  | snapshot name =>
      exact .bind_same (.hubNamed name) fun n => .get_bind fun _ _ hw => .reply (by rw [snapshot?_eq hw])
  | summary name =>
      refine .bind_same (.hubNamed name) fun n => .get_bind fun w w' hw => ?_
      rw [snapshot?_eq hw]
      split
      · exact .reply rfl
      · split
        · exact .reply rfl
        · exact .raise _
  | survey name names? patterns? =>
      refine .bind_same (.hubNamed name) fun n => .get_bind fun w w' hw => ?_
      -- the registry of the hub is related in both worlds, and everything asked is a fact about it
      have hregistry := hw.registry (w'.hub n).registry
      dsimp only
      rw [(hw.hub n).registry]
      refine .bind_same ?_ fun listening? => .reply ?_
      · cases patterns? with
        | none => exact .pure rfl
        | some ps => exact .bind_same (runs_isActive hregistry ps) fun _ => .pure rfl
      · rw [hregistry.size_eq, hregistry.patterns_eq, hregistry.patterns_eq, hregistry.actorCount_eq,
          funext hregistry.actorCountFor_eq]

/-! ## Registries and counters -/

/-- The names of an entry are kept alike. -/
theorem Worlds.namesOf_eq {w w' : World} (h : s.Worlds w w') (ref : EntryRef) :
    namesOf w ref = namesOf w' ref := by
  unfold namesOf
  refine congrArg (List.mergeSort · _) (filterMap_eq_of_related h.kept ?_)
  rintro ⟨name, k⟩ ⟨name', k'⟩ ⟨hname, hk⟩
  obtain rfl : name = name' := hname
  cases hk <;> rfl

/-- What commands on registries find and tell is the same in related worlds. -/
theorem runs_registry {c : RegistryCommand Behaviour} (h : (Command.registry c).isBare = true) :
    s.Runs s.Replies (Session.registry c) (Session.registry c) := by
  cases c with
  | create name => exact .bind_same .fresh fun n => .bind_same (.keep name (.same _)) fun _ => .reply rfl
  | activate name entry pattern =>
      refine .bind_same (.registryNamed name) fun n => .bind_same (runs_compile pattern) fun m => ?_
      refine .get_bind fun w w' hw => ?_
      -- activation gives related registries and the same entry
      obtain ⟨hactivated, hsame⟩ := (hw.registry n).activate m
      rcases hr : (w.registry n).activate m with ⟨r, ref, activation⟩
      rcases hr' : (w'.registry n).activate m with ⟨r', ref', activation'⟩
      rw [hr, hr'] at hactivated hsame
      cases hsame
      refine .bind_same (.set (hw.setRegistry n hactivated)) fun _ => ?_
      refine .bind_same (.keep entry (.same _)) fun _ => .bind (runs_entry ref) fun e e' he => .reply ?_
      rw [hw.namesOf_eq, he.active, he.identifiers_eq]
  | deactivate name pattern =>
      refine .bind_same (.registryNamed name) fun n => .bind_same (runs_compile pattern) fun m => ?_
      refine .get_bind fun w w' hw => ?_
      obtain ⟨hdeactivated, hsame⟩ := (hw.registry n).deactivate m
      dsimp only
      rw [hsame]
      refine .bind_same (.set (hw.setRegistry n hdeactivated)) fun _ => ?_
      split
      · exact .reply rfl
      · exact .bind (runs_entry _) fun e e' he => .reply (by rw [he.active, he.identifiers_eq])
  | attach _ _ _ _ _ => cases h
  | matching name event =>
      refine .bind_same (.registryNamed name) fun n => .get_bind fun w w' hw => .reply ?_
      have hregistry := hw.registry n
      rw [hregistry.actorCountFor_eq]
      -- of an entry that matches, the key and the identifiers are told
      refine congrArg (Reply.matching · _) (map_eq_of_related (hregistry.matching event) ?_)
      rintro ⟨m, actors⟩ ⟨m', actors'⟩ ⟨hm, hactors⟩
      obtain rfl : m = m' := hm
      exact congrArg (m.key, ·) (map_eq_of_related hactors fun _ _ ha => ha.identifier)
  | survey name patterns =>
      refine .bind_same (.registryNamed name) fun n => .get_bind fun w w' hw => ?_
      have hregistry := hw.registry n
      refine .bind_same (runs_isActive hregistry patterns) fun _ => .reply ?_
      rw [hregistry.size_eq, hregistry.patterns_eq, hregistry.patterns_eq, hregistry.activeCount_eq,
        hregistry.actorCount_eq]
  | clear name =>
      refine .bind_same (.registryNamed name) fun n => .get_bind fun w w' hw => ?_
      obtain ⟨hcleared, hsame⟩ := (hw.registry n).clear
      dsimp only
      rw [hsame]
      exact .bind_same (.set (hw.setRegistry n hcleared)) fun _ => .reply rfl

/-- Counters have no host code in them and change alike. -/
theorem runs_changeTally (name : String) (f : Tally → Tally) :
    s.Runs s.Replies (changeTally name f) (changeTally name f) := by
  unfold changeTally
  refine .bind_same (.tallyNamed name) fun n => .bind_same (.modify fun w w' hw => ?_) fun _ => ?_
  · rw [hw.tally]
    exact hw.setTally n _
  · exact .get_bind fun w w' hw => .reply (by rw [hw.tally])

/-- What commands on counters tell is the same in related worlds. -/
theorem runs_tally (c : TallyCommand) : s.Runs s.Replies (Session.tally c) (Session.tally c) := by
  unfold Session.tally
  cases c with
  | create name limit? =>
      dsimp only
      split
      · exact .raise _
      · refine .bind_same .fresh fun n => .bind_same (.modify fun w w' hw => hw.setTally n _) fun _ => ?_
        exact .bind_same (.keep name (.same _)) fun _ => .reply rfl
  | record name events => exact runs_changeTally ..
  | noteSizes name entries active actors => exact runs_changeTally ..
  | reset name => exact runs_changeTally ..
  | summary name =>
      refine .bind_same (.tallyNamed name) fun n => .get_bind fun w w' hw => ?_
      rw [hw.tally]
      split
      · exact .reply rfl
      · exact .raise _

/-! ## Settings, log context and logging -/

theorem runs_replyConfiguration : s.Runs s.Replies replyConfiguration replyConfiguration :=
  .get_bind fun _ _ hw => .reply (by rw [hw.configuration])

/-- What commands on the settings tell is the same in related worlds. -/
theorem runs_settingsCommand (c : SettingsCommand) :
    s.Runs s.Replies (settingsCommand c) (settingsCommand c) := by
  cases c with
  | load => exact .bind_same (.settings _) fun _ => runs_replyConfiguration
  | ensure => exact .bind_same (.settings _) fun _ => runs_replyConfiguration
  | list => exact runs_replyConfiguration
  | summary =>
      exact .bind_same (.settings _) fun _ => .get_bind fun _ _ hw => .reply (by rw [hw.configuration])
  | lookup keys default =>
      exact .bind_same (.mapM keys fun _ => .settings _) fun _ => .reply rfl
  | readVariable kind key default => exact .bind_same (.settings _) fun _ => .reply rfl

/-- What commands on the machine tell is the same in related worlds. -/
theorem runs_machine (c : MachineCommand) : s.Runs s.Replies (machine c) (machine c) := by
  have hchange : ∀ f : Machine → Machine, s.Runs s.Replies (changeMachine f) (changeMachine f) := fun f =>
    .bind_same (.modify fun _ _ hw => { hw with machine := congrArg f hw.machine }) fun _ => .reply rfl
  unfold machine
  split <;> exact hchange _

theorem runs_changeContext (f : Fields → Fields) :
    s.Runs s.Replies (changeContext f) (changeContext f) :=
  .bind_same (.modify fun _ _ hw => { hw with context := congrArg f hw.context }) fun _ =>
    .get_bind fun _ _ hw => .reply (by rw [hw.context])

/-- What commands on the log context tell is the same in related worlds. -/
theorem runs_context (c : ContextCommand) : s.Runs s.Replies (context c) (context c) := by
  cases c with
  | enter name fields =>
      -- a new scope or a kept one, it is entered in the same way
      have henter : ∀ scope : Log.Scope, s.Runs s.Replies
          (do
            let entered := scope.enter (← get).context (← correlation)
            keep name (.scope entered.1)
            changeContext fun _ => entered.2)
          (do
            let entered := scope.enter (← get).context (← correlation)
            keep name (.scope entered.1)
            changeContext fun _ => entered.2) := by
        refine fun scope => .get_bind fun v v' hv => .bind_same .correlation fun id => ?_
        dsimp only
        rw [hv.context]
        exact .bind_same (.keep name (.same _)) fun _ => runs_changeContext _
      unfold context
      refine .get_bind fun w w' hw => ?_
      -- a scope that is kept under the name is entered again
      rcases related_options (hw.kept.find? name) with ⟨hk, hk'⟩ | ⟨k, k', hk, hk', hrel⟩
      · rw [hk, hk']
        exact henter _
      · rw [hk, hk']
        cases hrel with
        | same k => exact henter _
        | bridge => exact henter _
  | leave name =>
      refine .bind_same (.find_same name _ fun _ => rfl) fun scope => .get_bind fun v v' hv => ?_
      dsimp only
      rw [hv.context]
      exact .bind_same (.keep name (.same _)) fun _ => runs_changeContext _
  | set fields => exact runs_changeContext (Log.setFields · fields)
  | clear => exact runs_changeContext fun _ => []
  | get => exact runs_changeContext id

theorem runs_lineFormat (terminal : Bool) : s.Runs Eq (lineFormat terminal) (lineFormat terminal) :=
  .bind_same (.settings _) fun _ => .get_bind fun _ _ hw => .pure (by rw [hw.configuration])

/-- So is the file. -/
theorem runs_logFile : s.Runs Eq logFile logFile := by
  unfold logFile
  refine .get_bind fun w w' hw => ?_
  rw [hw.configuration, hw.machine]
  split
  · exact .pure rfl
  · split
    · exact .raise _
    · exact .bind_same (.set { hw with machine := rfl, configuration := rfl }) fun _ => .pure rfl

/-- Logging is set up alike. -/
theorem runs_setUpLogging (terminal : Bool) :
    s.Runs Eq (setUpLogging terminal) (setUpLogging terminal) := by
  unfold setUpLogging
  refine .get_bind fun w w' hw => ?_
  rw [hw.sink]
  split
  · exact .pure rfl
  · refine .bind_same (.settings _) fun _ => .get_bind fun v v' hv => ?_
    refine .bind_same (runs_lineFormat terminal) fun format => .bind_same runs_logFile fun file? => ?_
    rw [hv.configuration]
    -- level and sink come from settings and machine, which are the same
    refine .bind_same (.modify fun u u' hu => { hu with logLevel := rfl, sink := rfl }) fun _ => ?_
    refine .get_bind fun u u' hu => ?_
    rw [hu.configuration]
    exact .log ..

/-- What commands on logging tell is the same in related worlds. -/
theorem runs_logging (c : LogCommand) : s.Runs s.Replies (logging c) (logging c) := by
  cases c with
  | setUp terminal =>
      refine .bind_same (runs_setUpLogging terminal) fun _ => .get_bind fun w w' hw => .reply ?_
      rw [hw.sink, hw.logLevel]
  | write logger level message args extra => exact .bind_same (.log ..) fun _ => .reply rfl
  | shutDown =>
      refine .get_bind fun w w' hw => .bind_same (.set { hw with sink := rfl }) fun _ => .reply ?_
      unfold logFileContent
      rw [hw.sink, hw.configuration, hw.machine]
  | format => exact .bind_same (runs_lineFormat false) fun _ => .reply rfl

/-! ## All commands that run no host code -/

/-- Commands that carry neither host code nor a payload. -/
theorem runs_bare (h : c.isBare = true) :
    s.Runs s.Replies (step nested depth c) (step nested depth c) := by
  cases c with
  | hub c => exact runs_hub h
  | bridge c => cases h
  | registry c => exact runs_registry h
  | tally c => exact runs_tally c
  | settings c => exact runs_settingsCommand c
  | machine c => exact runs_machine c
  | context c => exact runs_context c
  | log c => exact runs_logging c

/-- **Commands that run no host code go in lockstep.** -/
theorem runs_step (h : s.Commands c c') (hplain : c.isPlain = true) :
    s.Runs s.Replies (step nested depth c) (step nested depth c') := by
  cases h with
  | bare c hbare => exact runs_bare hbare
  | create name registryName? tallyName? hhandler metrics validates warns =>
      refine .bind_same (runs_optionally .registryNamed _) fun registry => ?_
      refine .bind_same (runs_optionally .tallyNamed _) fun tally => ?_
      refine .bind_same (runs_create registry tally hhandler metrics validates warns) fun n => ?_
      refine .bind_same (.keep name (.same _)) fun _ => .get_bind fun w w' hw => .reply ?_
      have hhub := hw.hub n
      rw [hhub.metrics, hhub.validates, hhub.warns, hhub.tally, hw.tally]
  | listen name p handle? hactors =>
      refine .bind_same (.find_same name _ fun _ => rfl) fun n => .bind_same (runs_listen n p) fun ref => ?_
      split
      · exact .bind_same (.keep _ (.same _)) fun _ => runs_listenAll n ref hactors
      · exact runs_listenAll n ref hactors
  | attach handle ha identifier? =>
      -- a handle stands for the same hub and the same entry
      refine .bind_same (.handleNamed handle) fun x => ?_
      exact .bind_same (runs_attach x.1 x.2 ha identifier?) fun _ => runs_replyHandle x.2
  | setHandler name hhandler =>
      exact .bind_same (.hubNamed name) fun n => .bind_same (runs_setHandler n hhandler) fun _ => .reply rfl
  | publish name event hpayload times => cases hplain
  | install name hub hemitter =>
      refine .bind_same (.hubNamed hub) fun n => .bind (runs_bridge n hemitter) fun b b' hb => ?_
      refine .bind_same (.keep name (.bridge hb)) fun _ => .reply ?_
      rw [hb.name, hb.qualifiedName, hb.doc, hb.asynchronous]
  | emit name event hargs hnamed => cases hplain
  | attachTo name entry ha pattern identifier? =>
      refine .bind_same (.registryNamed name) fun n => ?_
      refine .bind_same (.find_same entry _ fun _ => rfl) fun ref => .bind (runs_entry ref) fun e e' he => ?_
      refine .bind (runs_actorOf pattern ha identifier?) fun a a' hactor => ?_
      rw [he.matcher]
      exact .bind_same (runs_attachTo n ref _ hactor) fun _ => .reply rfl

end Swap

end EventHub
