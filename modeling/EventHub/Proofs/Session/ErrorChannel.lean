import EventHub.Proofs.Session.Lines

/-! # What the error channel sees

The failure of an actor is reported inside the scope of its call: the record of the failure is stamped from
the log context there, and the error handler begins in it. This context is the one that the actor leaves.

Host code changes the context of its own scope by commands on the log context, those of the emitters that it
calls through bridges included. `Task.changes` lists them, and by `Task.linked` they lead from the context in
which host code begins to the one that it leaves. What happens within a publish is not among them, as every
publish gives back the context that it found.

Main statement: `failure_reported_in_left_context`.
-/

namespace EventHub

open Run

/-! ## Changes of the log context -/

namespace Step

/-- Steps change the log context one after another: the first begins in the first context, each of the
others in the context that the step before has left, and the last leaves the last context. -/
inductive Linked : Fields → List Step → Fields → Prop
  | nil (context : Fields) : Linked context [] context
  | cons (s : Step) {rest : List Step} {last : Fields} (hrest : Linked s.left.context rest last) :
      Linked s.world.context (s :: rest) last

/-- The step leaves the value of a field of the log context as it is. -/
def KeepsField (s : Step) (field : String) : Prop :=
  Log.Record.attribute? s.left.context field = Log.Record.attribute? s.world.context field

/-- The step leaves a field of the log context without a value. -/
def UnsetsField (s : Step) (field : String) : Prop := Log.Record.attribute? s.left.context field = none

namespace Linked

variable {first middle last : Fields} {ss ss' : List Step}

theorem append (h : Linked first ss middle) (h' : Linked middle ss' last) : Linked first (ss ++ ss') last := by
  induction h with
  | nil => exact h'
  | cons s _ ih => exact .cons s (ih h')

/-- What every step keeps of the context holds of the last context if it holds of the first. -/
theorem keeps {P : Fields → Prop} (h : Linked first ss last)
    (hsteps : ∀ s ∈ ss, P s.world.context → P s.left.context) (hfirst : P first) : P last := by
  induction h with
  | nil => exact hfirst
  | cons s _ ih =>
      exact ih (fun t ht => hsteps t (List.mem_cons_of_mem s ht)) (hsteps s List.mem_cons_self hfirst)

end Linked

/-- The steps of host code that change the context, with a step: the step itself if it is about the log
context, and those of the emitter that it runs. -/
def changesBy (host : Task → List Step) (s : Step) : List Step :=
  match s.command with
  | .context _ => [s]
  | _ => s.emitterTask?.elim [] host

end Step

/-- The steps by which host code changes the context of its own scope, its commands being carried out at a
depth with some levels left. -/
def Task.changes : Nat → Nat → Task → List Step
  | 0, _, _ => []
  | fuel + 1, depth, t =>
    (t.code.requests (Session.perform depth (fuel + 1)) t.world).flatMap fun (c, w) =>
      Step.changesBy (Task.changes fuel (depth + 1)) ⟨depth, fuel, c, w⟩

/-- The steps by which the call of a visit changes the context of the visit. -/
def Visit.changes (p : Publication) (x : Visit) : List Step :=
  (x.bodyTask? p).elim [] (Task.changes p.fuel (p.depth + 1))

/-! ## Steps -/

/-- Repeated publishes give back the context as each of them does. -/
theorem Publication.context_publishTimes (p : Publication) (times : Nat) (w : World) :
    (outcome (Hub.publishTimes p.nested p.depth p.hub (.text p.name) p.payload times) w).2.context =
      w.context := by
  induction times generalizing w with
  | zero => rfl
  | succ times ih =>
      -- the first publish gives back its context, whether it returns or not
      have hfirst := p.context_publish (.text p.name) w
      unfold Hub.publishTimes
      rw [outcome_bind]
      rcases hw : outcome (Hub.publish p.nested p.depth p.hub (.text p.name) p.payload) w with ⟨stop | _, v⟩
      · rwa [hw] at hfirst
      · rw [hw] at hfirst
        exact (ih v).trans hfirst

/-- A body begins in the context in which its callable is called. -/
theorem Hub.context_callTask {c : Callable Behaviour} {serial : Nat} {awaited : Bool} {args : List Value}
    {named : Fields} {w : World} {t : Task} (h : callTask? c serial awaited args named w = some t) :
    t.world.context = w.context := by
  have hsilent : w.Narrates .none t.world [] := Hub.narrates_callTask h
  exact hsilent.context

/-- A call changes the context as the body does that it runs. -/
theorem Hub.linked_call {nested : Perform} {c : Callable Behaviour} {serial : Nat} {awaited : Bool}
    {args : List Value} {named : Fields} {w : World} {host : Task → List Step}
    (htask : ∀ t ∈ callTask? c serial awaited args named w,
      Step.Linked t.world.context (host t) (outcome (t.code.run nested) t.world).2.context) :
    Step.Linked w.context ((callTask? c serial awaited args named w).elim [] host)
      (outcome (call nested c serial awaited args named) w).2.context := by
  cases hbody : callTask? c serial awaited args named w with
  | none =>
      rw [left_call_of_no_task hbody]
      exact .nil _
  | some t =>
      rw [outcome_call_of_task hbody, ← context_callTask hbody]
      exact htask t hbody

namespace Step

variable {s : Step} {host : Task → List Step}

theorem context_plain (hplain : s.command.isPlain = true) (hcontext : ∀ c, s.command ≠ .context c) :
    s.left.context = s.world.context :=
  ((Session.stamping_step s.nested s.depth hplain hcontext).stamps s.world).context

/-- A publishing step gives back the context. -/
theorem context_publish {name : String} {event payload : Value} {times : Nat}
    (hcommand : s.command = .hub (.publish name event payload times)) :
    s.left.context = s.world.context := by
  obtain ⟨-, ⟨hleft, -⟩ | ⟨n, text, -, -, hleft⟩⟩ := publish_cases hcommand
  · rw [hleft]
  · rw [hleft]
    exact (s.publication n text payload).context_publishTimes times s.world

/-- A bridge publishes, which gives back the context, and then calls its emitter, if it gets there. -/
theorem linked_emit {name : String} {event : Value} {args : List Value} {named : Fields}
    (hcommand : s.command = .bridge (.emit name event args named))
    (htask : ∀ t ∈ s.emitterTask?,
      Linked t.world.context (host t) (outcome (t.code.run s.nested) t.world).2.context) :
    Linked s.world.context (s.emitterTask?.elim [] host) s.left.context := by
  obtain ⟨hleft, -, hemitter⟩ | ⟨b, text, -, -, hruns⟩ := emit_cases hcommand
  · rw [hleft, hemitter]
    exact .nil _
  · -- the context is that of the step again when the emitter begins
    have hpublish : ((s.publication b.hub text (args.head?.getD .none)).run s.world).2.context =
        s.world.context := (s.publication b.hub text (args.head?.getD .none)).context_publish (.text text) s.world
    rcases hruns with ⟨stop, hrun, hemitter⟩ | ⟨v, hrun, hemitter, hleft⟩
    · rw [hrun] at hpublish
      rw [hemitter, hpublish]
      exact .nil _
    · rw [hrun] at hpublish
      rw [hemitter, hleft, ← hpublish]
      exact Hub.linked_call fun t ht => htask t (hemitter.trans ht)

/-- A step changes the context as its changes tell. -/
theorem linked (htask : ∀ t ∈ s.emitterTask?,
      Linked t.world.context (host t) (outcome (t.code.run s.nested) t.world).2.context) :
    Linked s.world.context (s.changesBy host) s.left.context := by
  by_cases hcontext : ∃ c, s.command = .context c
  · obtain ⟨c, hcommand⟩ := hcontext
    have hchanges : s.changesBy host = [s] := by simp [changesBy, hcommand]
    rw [hchanges]
    exact .cons s (.nil _)
  · -- the step is not about the context itself, and changes it through its emitter only
    have hother : ∀ c, s.command ≠ .context c := fun c hc => hcontext ⟨c, hc⟩
    have hchanges : s.changesBy host = s.emitterTask?.elim [] host := by
      unfold changesBy
      split
      · exact absurd ‹_› (hother _)
      · rfl
    rw [hchanges]
    rcases s.plain_or_publishes with hplain | ⟨name, event, payload, times, hcommand⟩ |
      ⟨name, event, args, named, hcommand⟩
    · rw [emitterTask?_plain hplain, context_plain hplain hother]
      exact .nil _
    · rw [(publish_cases hcommand).1, context_publish hcommand]
      exact .nil _
    · exact linked_emit hcommand htask

end Step

/-- Host code changes the context as its commands do, one after another. -/
theorem Behaviour.linked (nested : Perform) (changes : Command Behaviour × World → List Step) (b : Behaviour)
    (w : World)
    (h : ∀ x ∈ b.requests nested w,
      Step.Linked x.2.context (changes x) (outcome (nested x.1) x.2).2.context) :
    Step.Linked w.context ((b.requests nested w).flatMap changes) (outcome (b.run nested) w).2.context :=
  Behaviour.run_along (R := fun w ss v => Step.Linked w.context ss v.context) (fun w => .nil w.context)
    .append (fun w _ => .nil w.context) nested changes b w fun x hx _ => h x hx

/-- By induction on the levels that are left: the changes of host code lead from the context in which it
begins to the one that it leaves. -/
theorem Task.linked (fuel depth : Nat) (t : Task) :
    Step.Linked t.world.context (t.changes fuel depth)
      (outcome (t.code.run (Session.perform depth fuel)) t.world).2.context := by
  induction fuel generalizing depth t with
  | zero =>
      -- no command is carried out
      have hnothing := t.code.linked (Session.perform depth 0) (fun _ => []) t.world
        fun x _ => .nil x.2.context
      rwa [List.flatMap_eq_nil_iff.mpr fun _ _ => rfl] at hnothing
  | succ fuel ih =>
      refine t.code.linked (Session.perform depth (fuel + 1)) _ t.world fun x _ => ?_
      exact Step.linked (s := ⟨depth, fuel, x.1, x.2⟩) fun u _ => ih (depth + 1) u

/-! ## Reports -/

namespace Visit

variable {p : Publication} {x : Visit}

/-- The changes of a call lead from the context in which it starts to the one that it leaves. -/
theorem linked (p : Publication) (x : Visit) :
    Step.Linked (x.start p).context (x.changes p) (x.call p).2.context :=
  Hub.linked_call fun t _ => t.linked p.fuel (p.depth + 1)

/-- The report of a failure of the call in a log context: the failure, its record unless the level is too
low, and the start of the error handler if there is one. -/
def report (p : Publication) (x : Visit) (f : Fault) (context : Fields) : List Occurrence :=
  .failed p.depth p.hub x.event x.actor f ::
    ((if (x.failureRecord f).level < (x.call p).2.logLevel then []
        else [.logged ((x.failureRecord f).stamped context)]) ++
      (x.handler? p).toList.map fun h =>
        .handled p.depth p.hub (x.error f) context h.handler.showsContext)

/-- The record of a failure is stamped from the context that the call leaves, unless the level is too low. -/
theorem records_failed (p : Publication) (x : Visit) (f : Fault) :
    (x.failed p f).records (x.failureRecord f) =
      if (x.failureRecord f).level < (x.call p).2.logLevel then []
      else [.logged ((x.failureRecord f).stamped (x.call p).2.context)] := by
  have hlevel : (x.failed p f).logLevel = (x.call p).2.logLevel := by
    unfold failed World.counted
    split <;> rfl
  have hcontext : (x.failed p f).context = (x.call p).2.context := by
    unfold failed
    rw [World.context_counted]
    rfl
  unfold World.records
  rw [hlevel, hcontext]

/-- A failure is reported in the context that the call leaves. -/
theorem report_infix_account (x : Visit) {f : Fault} (hfailure : x.failure? p = some f) :
    x.report p f (x.call p).2.context <:+: x.account p := by
  have hcontext : (x.reported p f).context = (x.call p).2.context := (x.stamps_reported p f).context
  unfold report account aftermath
  rw [hfailure, ← x.records_failed p f, ← hcontext]
  -- with an error handler, the report goes on with its start
  cases hhandler : x.handler? p with
  | none =>
      refine ⟨.called p.depth p.hub x.event p.payload x.actor (x.inside p).context :: x.body p, [], ?_⟩
      simp
  | some h =>
      refine ⟨.called p.depth p.hub x.event p.payload x.actor (x.inside p).context :: x.body p,
        (x.telling p f h).tail, ?_⟩
      simp [telling]

end Visit

/-- The event of a visit is that of the publish. -/
theorem Publication.name_of_mem_visits (p : Publication) {w : World} {x : Visit} (hx : x ∈ p.visits w) :
    x.event.name = p.name := by
  have htarget : x.target ∈ p.listeners w := by
    rcases p.visitsTo_cases (p.listeners w) (p.opened w) with
      ⟨-, hall⟩ | ⟨before, y, s, rest, hvisits, -, -, hlisteners⟩
    · exact hall ▸ List.mem_map_of_mem hx
    · have hx' : x ∈ before ++ [y] := hvisits ▸ hx
      rw [hlisteners]
      exact List.mem_append_left _ (List.mem_map_of_mem hx')
  exact Publication.name_of_listeners _ htarget

/-! ## Main statement -/

/-- Setting other fields keeps a field. -/
theorem Step.keeps_of_set {s : Step} {fields : Fields} (hcommand : s.command = .context (.set fields))
    {field : String} (hfield : field ∉ fields.keys) : s.KeepsField field := by
  have hleft : s.left.context = Log.setFields s.world.context fields := by
    unfold left run
    rw [hcommand]
    rfl
  have hset : ∀ f, field ∉ OrderedMap.keys (fields.filter f) := fun f hmem =>
    hfield ((List.filter_sublist.map _).subset hmem)
  unfold KeepsField Log.Record.attribute?
  rw [hleft, Log.setFields, OrderedMap.find?_insertAll_of_notMem (hset _)]

/-- The record of a failure brings along the event, the pattern and the actor. -/
theorem Visit.own_failureRecord {p : Publication} {x : Visit} (hname : x.event.name = p.name) (f : Fault)
    {correlation : Value} {b : String × Value} (hb : b ∈ (x.frame p).fields correlation)
    (hown : (x.failureRecord f).attributes.contains b.1 = true) :
    Log.Record.attribute? (x.failureRecord f).attributes b.1 = some b.2 := by
  simp only [Frame.fields, frame, List.mem_cons, List.not_mem_nil, or_false] at hb
  rcases hb with rfl | rfl | rfl | rfl | rfl | rfl
  iterate 3 exact absurd hown (by simp [failureRecord, OrderedMap.contains])
  all_goals simp [failureRecord, Log.Record.attribute?, OrderedMap.find?, hname]

/-- **The error channel sees the log context that the failing actor leaves.** A failing call is reported in
it: the record of the failure is stamped from it, and the error handler begins in it. It comes from the
context in which the call starts by the changes that the actor and the emitters that it calls make there;
what happens within their publishes makes no difference. So each dispatch field that all these changes keep
tells the publish and the actor, to the error handler and in the record. The event, the pattern and the
actor are also told in the record if a change leaves them without a value. -/
theorem failure_reported_in_left_context (p : Publication) (w : World) (hsome : w.correlationId ≠ .none)
    (x : Visit) (hx : x ∈ p.visits w) (f : Fault) (hfailure : x.failure? p = some f) :
    x.report p f (x.call p).2.context <:+: p.occurrences w ∧
      Step.Linked (x.start p).context (x.changes p) (x.call p).2.context ∧
      (∀ b ∈ (x.frame p).fields w.correlationId, (∀ s ∈ x.changes p, s.KeepsField b.1) →
        (x.call p).2.context.find? b.1 = some b.2 ∧
          ((x.failureRecord f).stamped (x.call p).2.context).attributes.find? b.1 = some b.2) ∧
      ∀ b ∈ (x.frame p).fields w.correlationId, (x.failureRecord f).attributes.contains b.1 = true →
        (∀ s ∈ x.changes p, s.KeepsField b.1 ∨ s.UnsetsField b.1) →
          ((x.failureRecord f).stamped (x.call p).2.context).attributes.find? b.1 = some b.2 := by
  have hstart := Visit.bound_start hx (p.identifier_scope hsome)
  have hlinked := x.linked p
  refine ⟨?_, hlinked, fun b hb hkeeps => ?_, fun b hb hown hsteps => ?_⟩
  · have hvisit : x.account p <:+: p.occurrences w := by
      -- the report is part of the visit, and the visit of what happens during the publish
      have hvisits : x.account p <:+: (p.visits w).flatMap (Visit.account p) := by
        rw [List.flatMap_def]
        exact List.infix_of_mem_flatten (List.mem_map_of_mem hx)
      rw [p.occurrences_eq w]
      exact hvisits.trans (List.suffix_append _ _).isInfix
    exact (x.report_infix_account hfailure).trans hvisit
  · -- the context tells the field when the call starts, and each change keeps it
    have hleft : Log.Record.attribute? (x.call p).2.context b.1 = some b.2 := by
      refine hlinked.keeps (P := fun context => Log.Record.attribute? context b.1 = some b.2)
        (fun s hs hbefore => ?_) (hstart b hb)
      exact (hkeeps s hs).trans hbefore
    refine ⟨(Log.Record.find?_of_attribute? hleft).1, ?_⟩
    rw [Log.Record.find?_stamped _ _ (Frame.mem_dispatchFields hb)]
    simp only [Log.Record.stampOf, hleft]
  · -- what has no value in the context is taken from the record
    have hleft : Log.Record.attribute? (x.call p).2.context b.1 = some b.2 ∨
        Log.Record.attribute? (x.call p).2.context b.1 = none := by
      refine hlinked.keeps (P := fun context => Log.Record.attribute? context b.1 = some b.2 ∨
        Log.Record.attribute? context b.1 = none) (fun s hs hbefore => ?_) (.inl (hstart b hb))
      rcases hsteps s hs with hkeeps | hunbinds
      · exact hbefore.imp hkeeps.trans hkeeps.trans
      · exact .inr hunbinds
    have hattribute := Visit.own_failureRecord (p.name_of_mem_visits hx) f hb hown
    rw [Log.Record.find?_stamped _ _ (Frame.mem_dispatchFields hb)]
    rcases hleft with hleft | hleft <;> simp [Log.Record.stampOf, hleft, hattribute]

namespace Sample

/-- A failing actor that sets a field of its own, and publishes to an actor that clears the log context. -/
def notesAndFails : Callable Behaviour :=
  actor "notes" fun _ =>
    .perform (.context (.set [("user", .text "ann")])) true fun _ => failAfter (publish "b")

/-- A failing actor that clears the log context. -/
def clearsAndFails : Callable Behaviour := actor "clears" fun _ => failAfter (.context .clear)

/-- A failing actor that tells the actor of another call. -/
def renamesAndFails : Callable Behaviour :=
  actor "renames" fun _ => failAfter (.context (.set [("actor_id", .text "someone")]))

/-- A session in which everything is logged and failures are handled. Each actor of `a` fails. -/
def failing (actors : List (Callable Behaviour)) : List (Command Behaviour) :=
  let clears := actor "clears" fun _ => .perform (.context .clear) true fun _ => .finish .none
  [create true, .hub (.setHandler "hub" (some ⟨true, fun _ _ => .finish .none⟩)),
    .hub (.listen "hub" (.plain (.text "a")) (some "first") actors), listen "b" "second" clears, publish "a"]

end Sample

/-- The fields of the call are told whatever the actor publishes: its own change sets another field. -/
theorem failure_reported_in_left_context_notesAndFails :
    ∃ s ∈ Session.steps { Sample.world 2 with logLevel := 10 } (Sample.failing [Sample.notesAndFails]),
      ∃ p w, (p, w) ∈ s.publications ∧ ∃ x ∈ p.visits w, ∃ f ∈ x.failure? p,
        (x.frame p).fields w.correlationId =
          [("correlation_id", .text "gen00001"), ("component", .text "mediator"),
            ("operation", .text "publish"), ("event_name", .text "a"), ("pattern", .text "a"),
            ("actor_id", .text "app.notes@a")] ∧
          (x.changes p).length = 1 ∧ (x.handler? p).isSome = true ∧
          x.report p f (x.call p).2.context <:+: p.occurrences w ∧
          ∀ b ∈ (x.frame p).fields w.correlationId, (x.call p).2.context.find? b.1 = some b.2 ∧
            ((x.failureRecord f).stamped (x.call p).2.context).attributes.find? b.1 = some b.2 := by
  obtain ⟨s, hs, ⟨p, w⟩, hpublished, hid, x, hx, f, hf, (hname : p.name = "a"), hpattern, hactor, hchanges,
      hset, hhandler⟩ :
      ∃ s ∈ Session.steps { Sample.world 2 with logLevel := 10 } (Sample.failing [Sample.notesAndFails]),
        ∃ y ∈ s.publications, y.2.correlationId.isText "gen00001" = true ∧ ∃ x ∈ y.1.visits y.2,
          ∃ f ∈ x.failure? y.1, y.1.name = "a" ∧ x.event.pattern = "a" ∧
            x.actor.identifier = "app.notes@a" ∧ (x.changes y.1).length = 1 ∧
            (∀ t ∈ x.changes y.1, (match t.command with
              | .context (.set fields) => decide (fields.keys = ["user"])
              | _ => false) = true) ∧ (x.handler? y.1).isSome = true := by decide +kernel
  have hcorrelation : w.correlationId = .text "gen00001" := Value.eq_text_of_isText hid
  obtain ⟨hreport, -, htold, -⟩ :=
    failure_reported_in_left_context p w (by rw [hcorrelation]; nofun) x hx f hf
  refine ⟨s, hs, p, w, hpublished, x, hx, f, hf, ?_, hchanges, hhandler, hreport, fun b hb => ?_⟩
  · simp [Frame.fields, Visit.frame, hcorrelation, hname, hpattern, hactor]
  · refine htold b hb fun t ht => ?_
    have hcommand := hset t ht
    split at hcommand
    · rename_i fields hfields
      -- no dispatch field is the one that the actor sets
      have huser : b.1 ≠ "user" := by
        rintro huser
        simpa [huser, Log.dispatchFields] using Frame.mem_dispatchFields hb
      exact Step.keeps_of_set hfields (by simpa [of_decide_eq_true hcommand] using huser)
    · cases hcommand

/-- An actor can hide from the error channel. When one clears the context, the error handler sees nothing of
it, and the record has no correlation identifier. When one tells another actor, so do both. -/
theorem failing_actor_hidden :
    ∃ s ∈ Session.steps { Sample.world 2 with logLevel := 10 }
        (Sample.failing [Sample.clearsAndFails, Sample.renamesAndFails]),
      ∃ p w, (p, w) ∈ s.publications ∧ w.correlationId = .text "gen00001" ∧
        (∃ x ∈ p.visits w, ∃ f ∈ x.failure? p, ∃ h ∈ x.handler? p,
          (x.handlerStart p f h).context.isEmpty = true ∧
            ((x.failureRecord f).stamped (x.failed p f).context).attributes.find? "correlation_id" =
              some (.text "-")) ∧
        ∃ x ∈ p.visits w, ∃ f ∈ x.failure? p, ∃ h ∈ x.handler? p, x.actor.identifier = "app.renames@a" ∧
          (x.handlerStart p f h).context.find? "actor_id" = some (.text "someone") ∧
            ((x.failureRecord f).stamped (x.failed p f).context).attributes.find? "actor_id" =
              some (.text "someone") := by
  -- values are compared as texts
  obtain ⟨s, hs, ⟨p, w⟩, hpublished, hid, ⟨x, hx, f, hf, h, hh, hcontext, hrecord⟩, y, hy, g, hg, i, hi, hactor,
      hcontext', hrecord'⟩ :
      ∃ s ∈ Session.steps { Sample.world 2 with logLevel := 10 }
          (Sample.failing [Sample.clearsAndFails, Sample.renamesAndFails]),
        ∃ z ∈ s.publications, z.2.correlationId.isText "gen00001" = true ∧
          (∃ x ∈ z.1.visits z.2, ∃ f ∈ x.failure? z.1, ∃ h ∈ x.handler? z.1,
            (x.handlerStart z.1 f h).context.isEmpty = true ∧
              (((x.failureRecord f).stamped (x.failed z.1 f).context).attributes.find?
                "correlation_id").any (·.isText "-") = true) ∧
          ∃ x ∈ z.1.visits z.2, ∃ f ∈ x.failure? z.1, ∃ h ∈ x.handler? z.1,
            x.actor.identifier = "app.renames@a" ∧
              ((x.handlerStart z.1 f h).context.find? "actor_id").any (·.isText "someone") = true ∧
              (((x.failureRecord f).stamped (x.failed z.1 f).context).attributes.find?
                "actor_id").any (·.isText "someone") = true := by decide +kernel
  have htext : ∀ {v? : Option Value} {t : String}, v?.any (·.isText t) = true → v? = some (.text t) := by
    intro v? t hv
    cases v? with
    | none => cases hv
    | some v => rw [Value.eq_text_of_isText hv]
  exact ⟨s, hs, p, w, hpublished, Value.eq_text_of_isText hid,
    ⟨x, hx, f, hf, h, hh, hcontext, htext hrecord⟩, y, hy, g, hg, i, hi, hactor, htext hcontext',
    htext hrecord'⟩

end EventHub
