import EventHub.Hub.Dispatch
import EventHub.Proofs.Run.Effect

/-! # What the operations of hubs can do

One lemma for each operation lists the kinds of its effects. None of the operations of this module runs
host code, and none of them enters an occurrence with a depth into the journal.
-/

namespace EventHub

namespace Run

variable {w : World}

theorem fresh_does : Does [.issue] fresh w := by
  unfold fresh
  refine .get_bind (.bind (.effect .issue rfl rfl) fun _ _ _ => ?_)
  exact .pure _

theorem countRun_does (serial : Nat) : Does [.countRun] (countRun serial) w := by
  unfold countRun
  refine .get_bind (.bind (.effect (.countRun serial) rfl rfl) fun _ _ _ => ?_)
  exact .pure _

theorem keep_does (name : String) (k : Kept) : Does [.keep] (keep name k) w :=
  .effect (.keep name k) rfl rfl

/-- Finding something by its name changes nothing. -/
theorem find_does {α : Type} (name : String) (f : Kept → Option α) : Does [] (find name f) w := by
  unfold find
  refine .get_bind ?_
  split
  · exact .pure _
  · exact .raise _

theorem correlation_does : Does [.correlation] correlation w := by
  unfold correlation
  refine .get_bind (.bind (.effect .correlation rfl rfl) fun _ _ _ => ?_)
  exact .pure _

/-! ## Logging -/

/-- The kinds of the effects of logging. -/
abbrev loggingKinds : List Effect.Kind := [.logged, .machine, .sink]

/-- Writing a record: it is entered into the journal, and the console and the file may grow. -/
theorem logged_after (r : Log.Record) :
    ∃ es : List Effect, (∀ e ∈ es, e.kind ∈ loggingKinds) ∧ w.logged r = w.after es := by
  unfold World.logged
  cases w.sink? with
  | none => exact ⟨[.note (.logged r)], by simp, rfl⟩
  | some s =>
      refine ⟨[.note (.logged r), .sink (s.write w.machine r).1, .machine (s.write w.machine r).2],
        ?_, rfl⟩
      simp

/-- Logging enters a record into the journal and has it written, unless it is below the level or its fields
clash. -/
theorem log_does (logger : String) (level : Int) (message : Value) (args : List Value) (extra : Fields)
    (fault? : Option Fault) : Does loggingKinds (log logger level message args extra fault?) w := by
  cases hclash : Log.clash? extra with
  | none =>
      unfold Does Performs
      rw [outcome_log hclash]
      unfold World.afterLog
      -- a record below the level leaves no trace
      split
      · exact ⟨[], by simp, rfl⟩
      · exact logged_after _
  | some name =>
      -- a clash of names is refused before anything is written
      refine ⟨[], by simp, ?_⟩
      rw [outcome_log_clash hclash]
      rfl

theorem hubLog_does (level : Int) (message : String) (extra : Fields) :
    Does loggingKinds (hubLog level message extra) w := log_does ..

/-- A warning is entered into the journal, where it is not turned into a fault. -/
theorem warn_does (f : Fault) : Does [.warned] (warn f) w := by
  unfold warn
  refine .get_bind ?_
  split
  · exact .raise_bind _ _
  · exact .occurrence _ rfl

/-! ## Settings -/

/-- The kinds of the effects of a step of the settings. -/
abbrev settingsKinds : List Effect.Kind := .settle :: loggingKinds

/-- A step of the settings can change the configuration and the machine, and its warnings are logged. -/
theorem settings_does {α : Type} (act : Settings.Load α) : Does settingsKinds (settings act) w := by
  unfold settings
  refine .get_bind ?_
  split
  rename_i r l hact
  -- the step changes the machine and the configuration at once, also if it fails
  refine .bind (.effects [.settle l.machine l.configuration] rfl rfl) fun _ _ _ => ?_
  -- the warnings are logged before the outcome of the step is looked at
  refine .bind (.forM fun message _ v => (log_does ..).widen rfl) fun _ _ _ => ?_
  split
  · exact .pure _
  · exact .raise _

end Run

namespace Hub

open Run

variable {w : World}

/-! ## Setting up -/

/-- Choosing a flag may load the settings, and logs a record where these cannot be used. -/
theorem flag_does (key : String) (given : Value) : Does settingsKinds (flag key given) w := by
  unfold flag
  split
  · refine .bind (.attempt (settings_does _)) fun r v _ => ?_
    split
    · exact .pure _
    · -- only faults of the settings are passed over
      split
      · exact .bind ((hubLog_does ..).widen rfl) fun _ _ _ => .pure _
      · exact .raise _
  · exact .pure _

/-- Choosing the limit of the names may load the settings, and logs a record where these cannot be used. -/
theorem nameLimit_does : Does settingsKinds nameLimit w := by
  unfold nameLimit
  refine .bind (.attempt (settings_does _)) fun r v _ => ?_
  split
  · exact .pure _
  · exact .pure _
  · split
    · exact .bind ((hubLog_does ..).widen rfl) fun _ _ _ => .pure _
    · exact .raise _

/-- A hub without a given registry gets a new one, for which a number is used up. -/
theorem chooseRegistry_does (given? : Option Nat) : Does [.issue] (chooseRegistry given?) w := by
  unfold chooseRegistry
  split
  · exact .pure _
  · exact fresh_does

/-- A hub without given counters gets new ones, whose limit may load the settings. -/
theorem chooseTally_does (given? : Option Nat) :
    Does (.issue :: .tally :: settingsKinds) (chooseTally given?) w := by
  unfold chooseTally
  split
  · exact .pure _
  · refine .bind (nameLimit_does.widen rfl) fun limit _ _ => .bind (fresh_does.widen rfl) fun n v _ => ?_
    refine .bind (.effect (.tally n { limit := limit }) rfl rfl) fun _ _ _ => ?_
    exact .pure _

/-- A handler that is installed gets a number. -/
theorem install_does (handler? : Option (Handler Behaviour)) : Does [.issue] (install handler?) w := by
  unfold install
  split
  · exact .pure _
  · exact .bind fresh_does fun _ _ _ => .pure _

/-- Setting up a hub makes the parts that are not given, then the hub, and logs it. -/
theorem create_does (givenRegistry givenTally : Option Nat) (handler? : Option (Handler Behaviour))
    (metrics validates warns : Value) :
    Does (.issue :: .tally :: .hub :: settingsKinds)
      (create givenRegistry givenTally handler? metrics validates warns) w := by
  unfold create
  refine .bind ((chooseRegistry_does _).widen rfl) fun registry _ _ => ?_
  refine .bind ((chooseTally_does _).widen rfl) fun tally _ _ => ?_
  refine .bind ((install_does _).widen rfl) fun handler? _ _ => ?_
  refine .bind ((flag_does ..).widen rfl) fun metrics _ _ => ?_
  refine .bind ((flag_does ..).widen rfl) fun validates _ _ => ?_
  refine .bind ((flag_does ..).widen rfl) fun warns _ _ => ?_
  refine .bind (fresh_does.widen rfl) fun n _ _ => ?_
  -- the hub is the last thing that is made, once nothing can fail any more
  refine .bind (.effect (.hub n _) rfl rfl) fun _ _ _ => ?_
  exact .bind ((hubLog_does ..).widen rfl) fun _ _ _ => .pure _

/-! ## Registry -/

/-- Noting sizes changes counters only, and only where the hub counts. -/
theorem noteSizes_does (n : Nat) : Does [.sizes] (noteSizes n) w := by
  unfold noteSizes
  refine .get_bind ?_
  dsimp only
  split
  · exact .effects [.sizes (w.hub n).tally (w.hub n).registry] rfl rfl
  · exact .pure _

/-- Compiling a pattern changes nothing. -/
theorem compile_does (p : Pattern) : Does [] (compile p) w := by
  unfold compile
  split
  · exact .pure _
  · exact .raise _

/-- Looking up the entry of a handle changes nothing. -/
theorem entry_does (ref : EntryRef) : Does [] (entry ref) w := by
  unfold entry
  refine .get_bind ?_
  split
  · exact .pure _
  · exact .raise _

/-- Listening activates an entry, notes the sizes and logs this. -/
theorem listen_does (n : Nat) (p : Pattern) :
    Does (.registry :: .sizes :: loggingKinds) (listen n p) w := by
  unfold listen
  -- a pattern that is refused ends the listening before the registry is touched
  refine .bind ((compile_does p).widen rfl) fun m v _ => .get_bind ?_
  refine .bind (.effects [.registry (v.hub n).registry (.activate m)] rfl rfl)
    fun _ _ _ => ?_
  refine .bind ((noteSizes_does n).widen rfl) fun _ _ _ => ?_
  exact .bind ((hubLog_does ..).widen rfl) fun _ _ _ => .pure _

theorem actorOf_does (pattern : String) (c : Callable Behaviour) (identifier? : Option String) :
    Does [.issue] (actorOf pattern c identifier?) w := by
  unfold actorOf
  exact .bind fresh_does fun _ _ _ => .pure _

/-- Attaching an actor to an entry changes the registry only, unless the handle is stale. -/
theorem attachTo_does (registry : Nat) (ref : EntryRef) (source : String) (a : Actor) :
    Does [.registry] (attachTo registry ref source a) w := by
  unfold attachTo
  refine .get_bind ?_
  split
  · exact .raise _
  · -- the effect is the change that the registry makes by itself
    rename_i r count hattach
    refine .bind (.effects [.registry registry (.attach ref a)] ?_ rfl) fun _ _ _ => .pure _
    simp [Effect.apply, Registry.carryOut, hattach]

/-- Attaching to a handle makes an actor, attaches it, notes the sizes and logs this. -/
theorem attach_does (n : Nat) (ref : EntryRef) (c : Callable Behaviour) (identifier? : Option String) :
    Does (.issue :: .registry :: .sizes :: loggingKinds) (attach n ref c identifier?) w := by
  unfold attach
  refine .get_bind (.bind ((entry_does ref).widen rfl) fun e v _ => ?_)
  -- the check of the callable may be turned off, and may fail
  split
  on_goal 1 => split
  on_goal 2 => exact .raise_bind _ _
  -- with or without a check, what is left is the attachment itself
  all_goals
    refine .bind ((actorOf_does ..).widen rfl) fun a _ _ => ?_
    refine .bind ((attachTo_does ..).widen rfl) fun count _ _ => ?_
    refine .bind ((noteSizes_does n).widen rfl) fun _ _ _ => ?_
    exact (hubLog_does ..).widen rfl

/-- Ceasing to listen deactivates an entry, notes the sizes and logs this, or warns where there is none. -/
theorem unlisten_does (n : Nat) (p : Pattern) :
    Does (.registry :: .sizes :: .warned :: loggingKinds) (unlisten n p) w := by
  unfold unlisten
  refine .bind ((compile_does p).widen rfl) fun m v _ => .get_bind ?_
  dsimp only
  split
  · -- the key has no entry
    refine .bind ((hubLog_does ..).widen rfl) fun _ _ _ => ?_
    split
    · exact (warn_does _).widen rfl
    · exact .pure _
  · refine .bind (.effects [.registry (v.hub n).registry (.deactivate m)] rfl rfl)
      fun _ _ _ => ?_
    refine .bind ((noteSizes_does n).widen rfl) fun _ _ _ => ?_
    exact (hubLog_does ..).widen rfl

/-- Clearing empties the registry, has the counters begin anew where the hub counts, and logs this. -/
theorem clear_does (n : Nat) : Does (.registry :: .reset :: loggingKinds) (clear n) w := by
  unfold clear
  refine .get_bind ?_
  refine .bind ?_ fun _ _ _ => (hubLog_does ..).widen rfl
  -- the counters begin anew only if the hub counts
  split
  · exact .effects [.registry (w.hub n).registry .clear, .reset (w.hub n).tally] rfl rfl
  · exact .effects [.registry (w.hub n).registry .clear] rfl rfl

/-! ## Flags -/

/-- Setting a handler changes the hub, once the handler has a number. -/
theorem setHandler_does (n : Nat) (handler? : Option (Handler Behaviour)) :
    Does [.issue, .hub] (setHandler n handler?) w := by
  unfold setHandler
  refine .bind ((install_does _).widen rfl) fun handler? v _ => ?_
  exact .effect (.hub n { v.hub n with handler? := handler? }) rfl rfl

/-- Turning counting on or off changes the hub, notes the sizes and logs this. -/
theorem setMetrics_does (n : Nat) (on : Bool) :
    Does (.hub :: .sizes :: loggingKinds) (setMetrics n on) w := by
  unfold setMetrics
  refine .bind (.effect (.hub n { w.hub n with metrics := on }) rfl rfl) fun _ _ _ => ?_
  refine .bind ((noteSizes_does n).widen rfl) fun _ _ _ => ?_
  exact (hubLog_does ..).widen rfl

/-! ## Counting and bridges -/

/-- Counting changes counters only, and only where the hub counts. -/
theorem count_does (n : Nat) (what : Counted) (name : String) :
    Does [.record] (count n what name) w := by
  unfold count
  refine .get_bind ?_
  dsimp only
  split
  · exact .effects [.record (w.hub n).tally what name] rfl rfl
  · exact .pure _

/-- Taking over a name from an emitter changes nothing. -/
theorem takenName_does (emitter : Callable Behaviour) (a : Attribute) (label : String)
    (default : Value) : Does [] (takenName emitter a label default) w := by
  unfold takenName
  split
  · exact .pure _
  · exact .pure _
  · exact .raise _

/-- Making a bridge uses up a number and logs this. -/
theorem bridge_does (n : Nat) (emitter : Callable Behaviour) :
    Does (.issue :: loggingKinds) (bridge n emitter) w := by
  unfold bridge
  split
  · -- an emitter that cannot be wrapped is refused first
    exact .raise_bind _ _
  · refine .bind ((takenName_does ..).widen rfl) fun name _ _ => ?_
    refine .bind ((takenName_does ..).widen rfl) fun qualifiedName _ _ => ?_
    refine .bind ((log_does ..).widen rfl) fun _ _ _ => ?_
    exact .bind (fresh_does.widen rfl) fun _ _ _ => .pure _

end Hub

end EventHub
