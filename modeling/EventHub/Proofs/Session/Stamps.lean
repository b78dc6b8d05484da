import EventHub.Proofs.Session.Plain

/-! # Stamping

A record is stamped from the log context in which it is logged. What does not change the context stamps all
its records from one context: that in which it begins. `Run.Stamping` says so, and `Session.stamping_step`
says it of every command that neither runs host code nor is about the log context.
-/

namespace EventHub

/-- A later world with the same log context, where every record that was logged since is stamped from it.
-/
structure World.Stamps (w v : World) : Prop where
  context : v.context = w.context
  journal : ∃ os : List Occurrence, v.journal = os.reverse ++ w.journal ∧
    ∀ r, .logged r ∈ os → ∃ r' : Log.Record, r = r'.stamped w.context

namespace World.Stamps

variable {w v u : World}

theorem refl (w : World) : w.Stamps w := ⟨rfl, [], rfl, by simp⟩

/-- Records after records, in the same context. -/
theorem trans (h : w.Stamps v) (h' : v.Stamps u) : w.Stamps u := by
  obtain ⟨os, hos, hstamped⟩ := h.journal
  obtain ⟨os', hos', hstamped'⟩ := h'.journal
  refine ⟨h'.context.trans h.context, os ++ os', by simp [hos, hos'], fun r hr => ?_⟩
  rcases List.mem_append.mp hr with hr | hr
  · exact hstamped r hr
  · exact h.context ▸ hstamped' r hr

/-- A record is stamped from the context when it is logged. -/
theorem afterLog (w : World) (r : Log.Record) : w.Stamps (w.afterLog r) := by
  refine ⟨?_, w.records r, w.journal_afterLog r, fun r' hr' => ?_⟩
  · unfold World.afterLog World.logged
    split
    · rfl
    · cases w.sink? <;> rfl
  · unfold World.records at hr'
    split at hr'
    · cases hr'
    · exact ⟨r, by simpa using hr'⟩

/-- The kinds of the effects that log nothing and leave the context alone. -/
abbrev silentKinds : List Effect.Kind :=
  [.dispatched, .answered, .ran, .warned, .issue, .countRun, .keep, .registry, .tally, .record, .sizes,
    .reset, .hub, .correlation, .settle, .machine, .sink, .level]

/-- An effect of these kinds logs nothing. -/
theorem of_effect {e : Effect} (h : e.kind ∈ silentKinds) (w : World) : w.Stamps (e.apply w) := by
  refine ⟨?_, e.occurrence?.toList, ?_, fun r hr => ?_⟩
  · cases e with
    | context c => simp at h
    | _ => rfl
  · rw [Effect.journal_apply]
    cases e.occurrence? <;> rfl
  · cases e with
    | note o =>
        obtain rfl : o = .logged r := by simpa [Effect.occurrence?, eq_comm] using hr
        simp at h
    | _ => simp [Effect.occurrence?] at hr

end World.Stamps

namespace Run

variable {α β : Type}

/-- Wherever an action begins, it leaves the context as it is and stamps its records from it. -/
structure Stamping (act : Run α) : Prop where
  stamps : ∀ w : World, w.Stamps (outcome act w).2

namespace Stamping

/-- By induction on the effects of an action. -/
theorem of_does {ks : List Effect.Kind} {act : Run α} (h : ∀ w, Does ks act w)
    (hks : ks.all World.Stamps.silentKinds.contains = true) : Stamping act := by
  refine ⟨fun w => ?_⟩
  obtain ⟨es, hes, hw⟩ := (h w).widen hks
  rw [hw]
  clear hw
  induction es generalizing w with
  | nil => exact .refl w
  | cons e es ih =>
      have hfirst : w.Stamps (e.apply w) := .of_effect (hes e (by simp)) w
      exact hfirst.trans (ih _ fun f hf => hes f (List.mem_cons_of_mem e hf))

theorem pure (a : α) : Stamping (Pure.pure a : Run α) := ⟨fun w => .refl w⟩

theorem raise (f : Fault) : Stamping (raise f : Run α) := ⟨fun w => .refl w⟩

/-- One action after another. -/
theorem bind {act : Run α} {f : α → Run β} (h : Stamping act) (hf : ∀ a, Stamping (f a)) :
    Stamping (act >>= f) := by
  refine ⟨fun w => ?_⟩
  have hact := h.stamps w
  rw [outcome_bind]
  rcases hw : outcome act w with ⟨s | a, v⟩
  · rwa [hw] at hact
  · rw [hw] at hact
    exact hact.trans ((hf a).stamps v)

/-- What follows a fault is not reached. -/
theorem raise_bind (f : Fault) (g : α → Run β) : Stamping (Run.raise f >>= g) := ⟨fun w => .refl w⟩

theorem get_bind {f : World → Run β} (h : ∀ w, Stamping (f w)) : Stamping (get >>= f) :=
  ⟨fun w => (h w).stamps w⟩

/-- What follows a change that logs nothing and leaves the context alone. -/
theorem set_bind (ks : List Effect.Kind) {f : World → World} {g : World → Run β}
    (h : ∀ w, Does ks (set (f w) : Run PUnit) w) (hks : ks.all World.Stamps.silentKinds.contains = true)
    (hg : ∀ w, Stamping (g w)) : Stamping (get >>= fun w => set (f w) >>= fun _ => g w) := by
  refine ⟨fun w => ?_⟩
  have hset : Stamping (get >>= fun w => set (f w)) := of_does (fun w => .get_bind (h w)) hks
  exact (hset.stamps w).trans ((hg w).stamps (f w))

/-- A change that is a few effects. -/
theorem change {f : World → World} (es : World → List Effect) (hf : ∀ w, f w = w.after (es w))
    (hes : ∀ w, (es w).all (fun e => World.Stamps.silentKinds.contains e.kind) = true) :
    Stamping (modify f : Run PUnit) := by
  have hdoes : ∀ w, Does World.Stamps.silentKinds (modify f : Run PUnit) w := fun w =>
    .update (es w) (by simpa using hes w) (hf w)
  exact of_does hdoes rfl

/-- A fault that is held back leaves the records that were logged before it. -/
theorem attempt {act : Run α} (h : Stamping act) : Stamping (attempt act) := by
  refine ⟨fun w => ?_⟩
  have hact := h.stamps w
  rw [outcome_attempt]
  rcases hw : outcome act w with ⟨(f | _) | a, v⟩ <;> rwa [hw] at hact

theorem forM {xs : List β} {f : β → Run PUnit} (h : ∀ x, Stamping (f x)) : Stamping (xs.forM f) := by
  induction xs with
  | nil => exact pure _
  | cons x xs ih => exact bind (h x) fun _ => ih

/-- An action for each item of a list, with results. -/
theorem mapM {xs : List β} {f : β → Run α} (h : ∀ x, Stamping (f x)) : Stamping (xs.mapM f) := by
  induction xs with
  | nil =>
      rw [List.mapM_nil]
      exact pure _
  | cons x xs ih =>
      rw [List.mapM_cons]
      exact bind (h x) fun _ => bind ih fun _ => pure _

/-- Logging stamps its record. -/
theorem log (logger : String) (level : Int) (message : Value) (args : List Value) (extra : Fields)
    (fault? : Option Fault) : Stamping (log logger level message args extra fault?) := by
  refine ⟨fun w => ?_⟩
  cases hclash : Log.clash? extra with
  | none =>
      rw [outcome_log hclash]
      exact .afterLog w _
  | some name =>
      rw [outcome_log_clash hclash]
      exact .refl w

theorem hubLog (level : Int) (message : String) (extra : Fields) :
    Stamping (hubLog level message extra) := log ..

/-- The warnings of the settings are stamped. -/
theorem settings (act : Settings.Load α) : Stamping (settings act) := by
  unfold Run.settings
  refine .set_bind [.settle] (fun w => .effects [.settle _ _] rfl rfl) rfl fun w => ?_
  refine .bind (.forM fun message => .log ..) fun _ => ?_
  split
  · exact .pure _
  · exact .raise _

end Stamping

end Run

open Run

namespace Hub

/-! ## Operations of hubs -/

/-- Choosing a flag. -/
theorem stamping_flag (key : String) (given : Value) : Stamping (flag key given) := by
  unfold flag
  split
  · refine .bind (.attempt (.settings _)) fun r => ?_
    split
    · exact .pure _
    · split
      · exact .bind (.hubLog ..) fun _ => .pure _
      · exact .raise _
  · exact .pure _

/-- Choosing the limit of new counters. -/
theorem stamping_nameLimit : Stamping nameLimit := by
  unfold nameLimit
  refine .bind (.attempt (.settings _)) fun r => ?_
  split
  · exact .pure _
  · exact .pure _
  · split
    · exact .bind (.hubLog ..) fun _ => .pure _
    · exact .raise _

/-- Choosing the counters of a new hub. -/
theorem stamping_chooseTally (given? : Option Nat) : Stamping (chooseTally given?) := by
  unfold chooseTally
  split
  · exact .pure _
  · refine .bind stamping_nameLimit fun limit => .bind (.of_does (fun _ => fresh_does) rfl) fun n => ?_
    refine .bind ?_ fun _ => .pure _
    exact .change (fun _ => [.tally n { limit := limit }]) (fun _ => rfl) fun _ => rfl

/-- Making a hub. -/
theorem stamping_create (givenRegistry givenTally : Option Nat) (handler? : Option (Handler Behaviour))
    (metrics validates warns : Value) :
    Stamping (create givenRegistry givenTally handler? metrics validates warns) := by
  unfold create
  refine .bind (.of_does (fun _ => chooseRegistry_does _) rfl) fun registry => ?_
  refine .bind (stamping_chooseTally _) fun tally => ?_
  refine .bind (.of_does (fun _ => install_does _) rfl) fun handler? => ?_
  refine .bind (stamping_flag ..) fun metrics => ?_
  refine .bind (stamping_flag ..) fun validates => ?_
  refine .bind (stamping_flag ..) fun warns => ?_
  refine .bind (.of_does (fun _ => fresh_does) rfl) fun n => ?_
  refine .bind ?_ fun _ => .bind (.hubLog ..) fun _ => .pure _
  exact .change (fun _ => [.hub n ⟨registry, tally, handler?, metrics, validates, warns⟩])
    (fun _ => rfl) fun _ => rfl

/-- Listening. -/
theorem stamping_listen (n : Nat) (p : Pattern) : Stamping (listen n p) := by
  unfold listen
  refine .bind (.of_does (fun _ => compile_does p) rfl) fun m => ?_
  refine .set_bind [.registry]
    (fun w => .effects [.registry (w.hub n).registry (.activate m)] rfl rfl) rfl fun w => ?_
  refine .bind (.of_does (fun _ => noteSizes_does n) rfl) fun _ => ?_
  exact .bind (.hubLog ..) fun _ => .pure _

/-- Attaching an actor. -/
theorem stamping_attach (n : Nat) (ref : EntryRef) (c : Callable Behaviour)
    (identifier? : Option String) : Stamping (attach n ref c identifier?) := by
  unfold attach
  refine .get_bind fun w => .bind (.of_does (fun _ => entry_does ref) rfl) fun e => ?_
  dsimp only
  split
  on_goal 1 => split
  on_goal 2 => exact .raise_bind _ _
  -- with or without a check, what is left is the attachment itself
  all_goals
    refine .bind (.of_does (fun _ => actorOf_does ..) rfl) fun a => ?_
    refine .bind (.of_does (fun _ => attachTo_does ..) rfl) fun count => ?_
    refine .bind (.of_does (fun _ => noteSizes_does n) rfl) fun _ => ?_
    exact .hubLog ..

/-- Unlistening. -/
theorem stamping_unlisten (n : Nat) (p : Pattern) : Stamping (unlisten n p) := by
  unfold unlisten
  refine .bind (.of_does (fun _ => compile_does p) rfl) fun m => ?_
  refine ⟨fun w => ?_⟩
  rw [outcome_get_bind]
  dsimp only
  split
  · -- the key has no entry
    refine (Stamping.bind (.hubLog ..) fun _ => ?_).stamps w
    split
    · exact .of_does (fun _ => warn_does _) rfl
    · exact .pure _
  · have hset : w.Stamps (w.setRegistry (w.hub n).registry _) :=
      .of_effect (e := .registry (w.hub n).registry (.deactivate m)) (by simp) w
    refine hset.trans ?_
    exact (Stamping.bind (.of_does (fun _ => noteSizes_does n) rfl) fun _ => .hubLog ..).stamps _

/-- Clearing. -/
theorem stamping_clear (n : Nat) : Stamping (clear n) := by
  unfold clear
  refine .set_bind [.registry, .reset] (fun w => ?_) rfl fun w => .hubLog ..
  -- the counters begin anew only if the hub counts
  split
  · exact .effects [.registry (w.hub n).registry .clear, .reset (w.hub n).tally] rfl rfl
  · exact .effects [.registry (w.hub n).registry .clear] rfl rfl

theorem stamping_setMetrics (n : Nat) (on : Bool) : Stamping (setMetrics n on) := by
  unfold setMetrics
  refine .bind ?_ fun _ => .bind (.of_does (fun _ => noteSizes_does n) rfl) fun _ => .hubLog ..
  exact .change (fun w => [.hub n { w.hub n with metrics := on }]) (fun _ => rfl) fun _ => rfl

/-- Making a bridge. -/
theorem stamping_bridge (n : Nat) (emitter : Callable Behaviour) : Stamping (bridge n emitter) := by
  unfold bridge
  split
  · exact .raise_bind _ _
  · refine .bind (.of_does (fun _ => takenName_does ..) rfl) fun name => ?_
    refine .bind (.of_does (fun _ => takenName_does ..) rfl) fun qualifiedName => ?_
    refine .bind (.log ..) fun _ => ?_
    exact .bind (.of_does (fun _ => fresh_does) rfl) fun _ => .pure _

end Hub

namespace Session

/-! ## Commands -/

theorem stamping_find {α β : Type} (name : String) (f : Kept → Option α) {g : α → Run β}
    (h : ∀ a, Stamping (g a)) : Stamping (find name f >>= g) :=
  .bind (.of_does (fun _ => find_does ..) rfl) h

/-- Commands on hubs, if they run no host code. -/
theorem stamping_hub (nested : Perform) (depth : Nat) {c : HubCommand Behaviour}
    (hplain : (Command.hub c).isPlain = true) : Stamping (hub nested depth c) := by
  cases c with
  | create name options =>
      refine .bind (.of_does (fun _ => optionally_does (fun _ _ => find_does ..) _) rfl) fun registry => ?_
      refine .bind (.of_does (fun _ => optionally_does (fun _ _ => find_does ..) _) rfl) fun tally => ?_
      refine .bind (Hub.stamping_create ..) fun n => ?_
      exact .bind (.of_does (fun _ => keep_does ..) rfl) fun _ => .get_bind fun _ => .pure _
  | listen name pattern handle? actors =>
      refine stamping_find _ _ fun n => .bind (Hub.stamping_listen n pattern) fun ref => ?_
      split
      on_goal 1 => refine .bind (.of_does (fun _ => keep_does ..) rfl) fun _ => ?_
      all_goals
        refine .bind (.forM fun a => Hub.stamping_attach ..) fun _ => ?_
        exact .of_does (fun _ => replyHandle_does ref) rfl
  | attach handle a identifier? =>
      refine stamping_find _ _ fun x => .bind (Hub.stamping_attach ..) fun _ => ?_
      exact .of_does (fun _ => replyHandle_does _) rfl
  | describe handle =>
      exact stamping_find _ _ fun x => .bind (.of_does (fun _ => Hub.entry_does _) rfl) fun _ => .pure _
  | unlistenHandle handle =>
      refine stamping_find _ _ fun x => .bind (.of_does (fun _ => Hub.entry_does _) rfl) fun e => ?_
      exact .bind (Hub.stamping_unlisten ..) fun _ => .pure _
  | unlisten name pattern =>
      exact stamping_find _ _ fun n => .bind (Hub.stamping_unlisten ..) fun _ => .pure _
  | clear name => exact stamping_find _ _ fun n => .bind (Hub.stamping_clear n) fun _ => .pure _
  | setHandler name handler? =>
      refine stamping_find _ _ fun n => .bind ?_ fun _ => .pure _
      exact .of_does (fun _ => Hub.setHandler_does ..) rfl
  | setMetrics name on =>
      exact stamping_find _ _ fun n => .bind (Hub.stamping_setMetrics ..) fun _ => .pure _
  | publish name event payload times => simp [Command.isPlain] at hplain
  | snapshot name => exact stamping_find _ _ fun n => .get_bind fun _ => .pure _
  | summary name =>
      refine stamping_find _ _ fun n => .get_bind fun w => ?_
      split
      · exact .pure _
      · split
        · exact .pure _
        · exact .raise _
  | survey name names? patterns? =>
      refine stamping_find _ _ fun n => .get_bind fun w => .bind ?_ fun _ => .pure _
      cases patterns? with
      | none => exact .pure _
      | some ps => exact .bind (.of_does (fun _ => isActive_does _ ps) rfl) fun _ => .pure _

/-- Commands on the settings. -/
theorem stamping_settingsCommand (c : SettingsCommand) : Stamping (settingsCommand c) := by
  cases c with
  | load => exact .bind (.settings _) fun _ => .get_bind fun _ => .pure _
  | ensure => exact .bind (.settings _) fun _ => .get_bind fun _ => .pure _
  | list => exact .get_bind fun _ => .pure _
  | summary => exact .bind (.settings _) fun _ => .get_bind fun _ => .pure _
  | lookup keys default => exact .bind (.mapM fun key => .settings _) fun _ => .pure _
  | readVariable kind key default => exact .bind (.settings _) fun _ => .pure _

theorem stamping_lineFormat (terminal : Bool) : Stamping (lineFormat terminal) :=
  .bind (.settings _) fun _ => .get_bind fun _ => .pure _

/-- Setting up logging, and the record that tells of it. -/
theorem stamping_setUpLogging (terminal : Bool) : Stamping (setUpLogging terminal) := by
  unfold setUpLogging
  refine .get_bind fun w => ?_
  split
  · exact .pure _
  · refine .bind (.settings _) fun _ => .get_bind fun u => ?_
    refine .bind (stamping_lineFormat terminal) fun format => ?_
    refine .bind (.of_does (fun _ => logFile_does) rfl) fun file? => ?_
    refine .bind ?_ fun _ => .get_bind fun _ => .log ..
    exact .change (fun _ => [.level u.configuration.settings.logLevel.number,
      .sink (some { format := format, file? := file? })]) (fun _ => rfl) fun _ => rfl

/-- Commands on logging. -/
theorem stamping_logging (c : LogCommand) : Stamping (logging c) := by
  cases c with
  | setUp terminal => exact .bind (stamping_setUpLogging terminal) fun _ => .get_bind fun _ => .pure _
  | write logger level message args extra => exact .bind (.log ..) fun _ => .pure _
  | shutDown =>
      exact .set_bind [.sink] (fun w => .effects [.sink none] rfl rfl) rfl fun _ => .pure _
  | format => exact .bind (stamping_lineFormat false) fun _ => .pure _

/-- **Records are stamped from the context in which their command begins.** This holds of every command
that runs no host code and is not about the log context. -/
theorem stamping_step (nested : Perform) (depth : Nat) {c : Command Behaviour} (hplain : c.isPlain = true)
    (hcontext : ∀ d, c ≠ .context d) : Stamping (step nested depth c) := by
  cases c with
  | hub c => exact stamping_hub nested depth hplain
  | bridge c =>
      cases c with
      | install name hub emitter =>
          refine stamping_find _ _ fun n => .bind (Hub.stamping_bridge n emitter) fun b => ?_
          exact .bind (.of_does (fun _ => keep_does ..) rfl) fun _ => .pure _
      | emit name event args named => simp [Command.isPlain] at hplain
  | registry c => exact .of_does (fun _ => registry_does c) rfl
  | tally c => exact .of_does (fun _ => tally_does c) rfl
  | settings c => exact stamping_settingsCommand c
  | machine c => exact .of_does (fun _ => machine_does c) rfl
  | context c => exact absurd rfl (hcontext c)
  | log c => exact stamping_logging c

end Session

end EventHub
