import EventHub.Proofs.Dispatch.Depth

/-! # Visits

A publish visits the actors of its listeners one after another. This module names what happens in one
visit: the world in which the callable is called and the world that the call leaves, the failure that is
reported if the call fails, the run of the error handler, and the stop that ends the publish if one gets
through. The visits of a publish follow from the world in which the first one begins, each from the world
that the one before leaves.

Main statements: `Visit.outcome_invoke` and `Publication.outcome_publish` compute a publish from its
visits; `Visit.journal_left` tells what a visit enters into the journal.
-/

namespace EventHub

/-! ## Ends of host code -/

namespace Run

variable {α : Type}

/-- The ordinary fault with which host code ended: one that a publish holds back. -/
def failure? : Except Stop α → Option Fault
  | .error (.fault f) => if f.isInterrupt then none else some f
  | _ => none

/-- The stop with which host code ended and which a publish does not hold back. -/
def escape? : Except Stop α → Option Stop
  | .error (.fault f) => if f.isInterrupt then some (.fault f) else none
  | .error .tooDeep => some .tooDeep
  | .ok _ => none

/-- How a publish ends whose visits let a stop through, or none. -/
def verdict : Option Stop → Except Stop Unit
  | none => .ok ⟨⟩
  | some s => .error s

@[simp] theorem verdict_none : verdict none = .ok ⟨⟩ := rfl

@[simp] theorem verdict_some (s : Stop) : verdict (some s) = .error s := rfl

/-- A failure that is held back lets no stop through. -/
theorem escape?_of_failure? {r : Except Stop α} {f : Fault} (h : failure? r = some f) :
    escape? r = none := by
  rcases r with (g | _) | a
  · cases hg : g.isInterrupt with
    | false => simp [escape?, hg]
    | true => simp [failure?, hg] at h
  · cases h
  · rfl

/-- Only requests to stop the program, and nesting that is too deep, are not held back. -/
theorem escape?_eq_some {r : Except Stop α} {s : Stop} (h : escape? r = some s) :
    s = .tooDeep ∨ ∃ f, s = .fault f ∧ f.isInterrupt = true := by
  rcases r with (f | _) | a
  · -- a fault gets through only if it is a request to stop
    simp only [escape?] at h
    split at h
    · rename_i hf
      cases h
      exact .inr ⟨f, rfl, hf⟩
    · cases h
  · cases h
    exact .inl rfl
  · cases h

end Run

/-! ## The journal -/

namespace World

/-- The world after something was counted for an event name, if the hub counts. -/
def counted (w : World) (n : Nat) (what : Counted) (name : String) : World :=
  if (w.hub n).metrics then
    w.setTally (w.hub n).tally ((w.tally (w.hub n).tally).record what name)
  else w

@[simp] theorem journal_counted (w : World) (n : Nat) (what : Counted) (name : String) :
    (w.counted n what name).journal = w.journal := by
  unfold counted
  split <;> rfl

@[simp] theorem context_counted (w : World) (n : Nat) (what : Counted) (name : String) :
    (w.counted n what name).context = w.context := by
  unfold counted
  split <;> rfl

@[simp] theorem hubs_counted (w : World) (n : Nat) (what : Counted) (name : String) :
    (w.counted n what name).hubs = w.hubs := by
  unfold counted
  split <;> rfl

@[simp] theorem registries_counted (w : World) (n : Nat) (what : Counted) (name : String) :
    (w.counted n what name).registries = w.registries := by
  unfold counted
  split <;> rfl

end World

/-- Counting as an action. -/
@[simp] theorem Run.outcome_count (n : Nat) (what : Counted) (name : String) (w : World) :
    Run.outcome (Hub.count n what name) w = (.ok ⟨⟩, w.counted n what name) := by
  unfold Hub.count
  rw [Run.outcome_get_bind, Run.outcome_ite]
  unfold World.counted
  split <;> rfl

/-! ## Publications -/

/-- A publish of an event whose name is text, and how many levels of nesting are left for host code. -/
structure Publication where
  fuel : Nat
  depth : Nat
  hub : Nat
  name : String
  payload : Value

namespace Publication

/-- How the commands of host code are carried out. -/
def nested (p : Publication) : Perform := Session.perform (p.depth + 1) p.fuel

/-- How the publish ends, and the world that it leaves. -/
def run (p : Publication) (w : World) : Except Stop Unit × World :=
  Run.outcome (Hub.publish p.nested p.depth p.hub (.text p.name) p.payload) w

/-- Whom the publish has to call by the registry as it is now: entry by entry, in the order of
registration, the actors of each active entry whose matcher accepts the name, in the order of attachment,
and each with the event that tells the entry's source. -/
def listeners (p : Publication) (w : World) : List (Event × Actor) :=
  ((w.registry (w.hub p.hub).registry).live.filter fun e => e.active && e.matcher.test p.name).flatMap
    fun e => e.actors.map (⟨p.name, e.matcher.source⟩, ·)

end Publication

/-! ## One visit -/

/-- A visit of an actor: the event it is given, and the world in which the visit begins. -/
structure Visit where
  event : Event
  actor : Actor
  before : World

namespace Visit

open Run

variable (p : Publication) (x : Visit)

/-- Whom the visit is to. -/
def target : Event × Actor := (x.event, x.actor)

/-- The visit to a target that begins in a world. -/
def of (t : Event × Actor) (w : World) : Visit := ⟨t.1, t.2, w⟩

theorem target_of (t : Event × Actor) (w : World) : (of t w).target = t := rfl

/-- The world inside the scope of the visit, in which the call is counted. -/
def inside : World :=
  (x.before.counted p.hub .call x.event.name).inside (Hub.actorFields x.event x.actor)

/-- The world in which the callable is called: the call is in the journal. -/
def start : World :=
  (x.inside p).note (.called p.depth p.hub x.event p.payload x.actor (x.inside p).context)

/-- How the call with the event and the payload ends, and the world that it leaves. -/
def call : Except Stop Value × World :=
  outcome (Hub.call p.nested x.actor.callable x.actor.serial false [.event x.event, p.payload] [])
    (x.start p)

/-- The failure of the call that is reported. -/
def failure? : Option Fault := Run.failure? (x.call p).1

/-- The error that tells of a failure of the call. -/
def error (f : Fault) : Fault :=
  .actorFailed x.event.name x.event.pattern x.actor.identifier f

/-- The record of a failure of the call. -/
def failureRecord (f : Fault) : Log.Record :=
  { logger := "mediator.event.bus", level := 40, message := .text "Mediator actor error"
    attributes :=
      [("event_name", .text x.event.name), ("pattern", .text x.event.pattern),
        ("actor_id", .text x.actor.identifier), ("error", .text f.describe),
        ("error_type", .text f.className)]
    fault? := some f, created := Log.sessionMoment }

/-- The world in which a failure of the call is entered into the journal and counted. -/
def failed (f : Fault) : World :=
  ((x.call p).2.note (.failed p.depth p.hub x.event x.actor f)).counted p.hub .failure x.event.name

/-- The world in which a failure of the call is reported, but to the error handler. -/
def reported (f : Fault) : World := (x.failed p f).afterLog (x.failureRecord f)

/-- The error handler that the hub has when the call has ended. -/
def handler? : Option InstalledHandler := ((x.call p).2.hub p.hub).handler?

/-- The world in which an error handler begins. -/
def handlerStart (f : Fault) (h : InstalledHandler) : World :=
  let v := (Effect.countRun h.serial).apply (x.reported p f)
  v.note (.handled p.depth p.hub (x.error f) v.context h.handler.showsContext)

/-- How an error handler ends that is told of a failure, and the world that it leaves. -/
def handling (f : Fault) (h : InstalledHandler) : Except Stop Value × World :=
  outcome
    ((h.handler.body (((x.reported p f).runs.find? h.serial).getD 0) (x.error f)).run p.nested)
    (x.handlerStart p f h)

/-- The record of a failure of the error handler. -/
def handlerRecord (g : Fault) : Log.Record :=
  { logger := "mediator.event.bus", level := 40, message := .text "Mediator error handler failed"
    attributes :=
      [("event_name", .text x.event.name), ("actor_id", .text x.actor.identifier),
        ("error", .text g.describe), ("error_type", .text g.className)]
    fault? := some g, created := Log.sessionMoment }

/-- The stop that the visit lets through: from the call, or from the error handler. -/
def escape? : Option Stop :=
  match x.failure? p with
  | none => Run.escape? (x.call p).1
  | some f => (x.handler? p).bind fun h => Run.escape? (x.handling p f h).1

/-- The world after an error handler was told of a failure. -/
def told (f : Fault) (h : InstalledHandler) : World :=
  match Run.failure? (x.handling p f h).1 with
  | none => (x.handling p f h).2
  | some g => (x.handling p f h).2.afterLog (x.handlerRecord g)

/-- The world in which the scope of the visit is left. -/
def settled : World :=
  match x.failure? p with
  | none => (x.call p).2
  | some f => (x.handler? p).elim (x.reported p f) (x.told p f)

/-- The world that the visit leaves. -/
def left : World := { x.settled p with context := x.before.context }

/-! ### How a visit ends -/

theorem hub_reported (f : Fault) : (x.reported p f).hub p.hub = (x.call p).2.hub p.hub := by
  simp [reported, failed, World.hub, World.note]

/-- Telling a handler runs it, and passes over what it returns. -/
theorem outcome_runHandler (f : Fault) (h : InstalledHandler) :
    outcome (Hub.runHandler p.nested p.depth p.hub h (x.error f)) (x.reported p f) =
      match x.handling p f h with
      | (.ok _, v) => (.ok ⟨⟩, v)
      | (.error s, v) => (.error s, v) := by
  unfold Hub.runHandler countRun
  rw [bind_assoc, outcome_get_bind, bind_assoc, outcome_modify_bind, pure_bind, outcome_get_bind,
    outcome_note_bind]
  -- what the handler returns is dropped
  rcases hhandling : x.handling p f h with ⟨s | v, u⟩
  · exact outcome_bind_error hhandling _
  · exact outcome_bind_ok hhandling _

/-- A failure is handed to the error handler that the hub has; a failing handler is only logged. -/
theorem outcome_tellHandler (f : Fault) :
    outcome (Hub.tellHandler p.nested p.depth p.hub x.event x.actor (x.error f)) (x.reported p f) =
      (verdict ((x.handler? p).bind fun h => Run.escape? (x.handling p f h).1),
        (x.handler? p).elim (x.reported p f) (x.told p f)) := by
  unfold Hub.tellHandler
  rw [outcome_get_bind, hub_reported, handler?]
  cases ((x.call p).2.hub p.hub).handler? with
  | none => rfl
  | some h =>
      simp only [Option.bind_some, Option.elim_some]
      rw [outcome_bind, outcome_attempt, outcome_runHandler]
      unfold told
      rcases x.handling p f h with ⟨(g | _) | v, u⟩
      · simp only [Run.escape?, Run.failure?]
        cases hg : g.isInterrupt with
        | false =>
            -- the handler failed, which is logged and held back
            simp only [Bool.false_eq_true, if_false, verdict]
            exact outcome_log rfl u
        -- a request to stop goes on, and so does nesting that is too deep
        | true => rfl
      · rfl
      · rfl

/-- A report enters the failure, counts and logs it, and then hands it to the handler. -/
theorem outcome_report (f : Fault) :
    outcome (Hub.report p.nested p.depth p.hub x.event x.actor f)
        ((x.call p).2.note (.failed p.depth p.hub x.event x.actor f)) =
      (verdict ((x.handler? p).bind fun h => Run.escape? (x.handling p f h).1),
        (x.handler? p).elim (x.reported p f) (x.told p f)) := by
  unfold Hub.report
  rw [outcome_bind_ok (outcome_count ..), outcome_bind_ok (outcome_log rfl _)]
  exact x.outcome_tellHandler p f

/-- What follows a call: a failure is reported, and a stop that is not held back goes on. -/
theorem outcome_call :
    outcome (do
        match ← attempt
          (Hub.call p.nested x.actor.callable x.actor.serial false [.event x.event, p.payload] []) with
        | .ok _ => return
        | .error f =>
          if f.isInterrupt then raise f
          else
            note (.failed p.depth p.hub x.event x.actor f)
            Hub.report p.nested p.depth p.hub x.event x.actor f) (x.start p) =
      (verdict (x.escape? p), x.settled p) := by
  have hcall : outcome (Hub.call p.nested x.actor.callable x.actor.serial false
      [.event x.event, p.payload] []) (x.start p) = x.call p := rfl
  rw [outcome_bind, outcome_attempt, hcall]
  have hreport := x.outcome_report p
  unfold escape? settled failure?
  rcases hresult : x.call p with ⟨(f | _) | v, u⟩
  · cases hf : f.isInterrupt with
    | false =>
        -- the failure is held back and reported
        rw [hresult] at hreport
        simp only [Run.failure?, hf, Bool.false_eq_true, if_false]
        exact hreport f
    -- a request to stop is not reported
    | true => simp [Run.failure?, Run.escape?, hf, verdict]
  · rfl
  · rfl

/-- **A visit**: it ends the publish only with the stop that it lets through, and leaves the log context
as it was. -/
theorem outcome_invoke :
    outcome (Hub.invoke p.nested p.depth p.hub p.payload x.target) x.before =
      (verdict (x.escape? p), x.left p) := by
  unfold Hub.invoke target
  refine (outcome_bind_ok (outcome_count ..) _).trans
    ((outcome_inScope_of (r := verdict (x.escape? p)) (v := x.settled p) ?_).trans ?_)
  · -- the call begins inside the scope, when it is in the journal
    rw [outcome_get_bind, outcome_note_bind]
    exact x.outcome_call p
  · rw [World.context_counted]
    rfl

/-- What a visit lets through comes from its call or from the handler. -/
theorem escape?_eq_some {s : Stop} (h : x.escape? p = some s) :
    s = .tooDeep ∨ ∃ f, s = .fault f ∧ f.isInterrupt = true := by
  unfold escape? at h
  cases hfailure : x.failure? p with
  | none =>
      rw [hfailure] at h
      exact Run.escape?_eq_some h
  | some f =>
      rw [hfailure] at h
      obtain ⟨handler, -, hhandling⟩ := Option.bind_eq_some_iff.mp h
      exact Run.escape?_eq_some hhandling

/-- A visit lets no stop through exactly if its call ends with a value or an ordinary fault, and so does
the error handler if it is told of a failure. -/
theorem escape?_eq_none_iff : x.escape? p = none ↔
    Run.escape? (x.call p).1 = none ∧ ∀ f h, x.failure? p = some f → x.handler? p = some h →
      Run.escape? (x.handling p f h).1 = none := by
  unfold escape?
  -- the call did not fail, and no handler is told of anything
  cases hfailure : x.failure? p with
  | none => simp
  | some f =>
      have hcall : Run.escape? (x.call p).1 = none := escape?_of_failure? hfailure
      rw [Option.bind_eq_none_iff]
      constructor
      · intro hhandling
        refine ⟨hcall, fun g h hg hh => ?_⟩
        cases hg
        exact hhandling h hh
      · rintro ⟨-, hhandling⟩ h hh
        exact hhandling f h rfl hh

/-! ### What a visit enters into the journal -/

/-- What the call enters. -/
def body : List Occurrence := (x.start p).since (x.call p).2

/-- What telling an error handler of a failure enters: that it runs, what it does, and the record of its
own failure if it fails. -/
def telling (f : Fault) (h : InstalledHandler) : List Occurrence :=
  .handled p.depth p.hub (x.error f) (x.reported p f).context h.handler.showsContext ::
    (x.handlerStart p f h).since (x.handling p f h).2 ++
      (Run.failure? (x.handling p f h).1).elim [] fun g =>
        (x.handling p f h).2.records (x.handlerRecord g)

/-- What reporting a failure enters: the failure, its record, and what follows from the error handler
that the hub has. -/
def aftermath (f : Fault) : List Occurrence :=
  .failed p.depth p.hub x.event x.actor f :: (x.failed p f).records (x.failureRecord f) ++
    (x.handler? p).elim [] (x.telling p f)

/-- What the visit enters. -/
def account : List Occurrence :=
  .called p.depth p.hub x.event p.payload x.actor (x.inside p).context :: x.body p ++
    (x.failure? p).elim [] (x.aftermath p)

/-- The occurrences of the publish itself among them. -/
def own : List Occurrence :=
  .called p.depth p.hub x.event p.payload x.actor (x.inside p).context ::
    (x.failure? p).elim [] fun f =>
      .failed p.depth p.hub x.event x.actor f ::
        (x.handler? p).elim [] fun h =>
          [.handled p.depth p.hub (x.error f) (x.reported p f).context h.handler.showsContext]

theorem call_deep : Performs (Effect.Deep (p.depth + 1))
    (Hub.call p.nested x.actor.callable x.actor.serial false [.event x.event, p.payload] [])
    (x.start p) :=
  Hub.call_deep (fun c v => Session.perform_deep p.fuel (p.depth + 1) c v) ..

theorem handling_deep (f : Fault) (h : InstalledHandler) : Performs (Effect.Deep (p.depth + 1))
    ((h.handler.body (((x.reported p f).runs.find? h.serial).getD 0) (x.error f)).run p.nested)
    (x.handlerStart p f h) :=
  Behaviour.run_deep (fun c v => Session.perform_deep p.fuel (p.depth + 1) c v) ..

theorem journal_call : (x.call p).2.journal = (x.body p).reverse ++ (x.start p).journal :=
  (x.call_deep p).journal_since

/-- The journal gains the failure and its record. -/
theorem journal_reported (f : Fault) :
    (x.reported p f).journal = ((x.failed p f).records (x.failureRecord f)).reverse ++
      .failed p.depth p.hub x.event x.actor f :: (x.call p).2.journal := by
  unfold reported
  rw [World.journal_afterLog]
  unfold failed
  rw [World.journal_counted]
  rfl

/-- The journal gains what telling the handler enters. -/
theorem journal_told (f : Fault) (h : InstalledHandler) :
    (x.told p f h).journal = (x.telling p f h).reverse ++ (x.reported p f).journal := by
  have hstart : (x.handlerStart p f h).journal =
      .handled p.depth p.hub (x.error f) (x.reported p f).context h.handler.showsContext ::
        (x.reported p f).journal := rfl
  have hhandling := (x.handling_deep p f h).journal_since
  unfold told telling
  cases Run.failure? (x.handling p f h).1 with
  | none =>
      rw [show (x.handling p f h).2.journal = _ from hhandling, hstart]
      simp [handling]
  | some g =>
      -- the handler failed, and this is logged in turn
      simp only [Option.elim_some]
      rw [World.journal_afterLog, show (x.handling p f h).2.journal = _ from hhandling, hstart]
      simp [handling]

/-- The journal gains the account of the visit. -/
theorem journal_left : (x.left p).journal = (x.account p).reverse ++ x.before.journal := by
  have hstart : (x.start p).journal =
      .called p.depth p.hub x.event p.payload x.actor (x.inside p).context :: x.before.journal := by
    simp [start, inside, World.inside, World.note]
  -- leaving the scope enters nothing
  change (x.settled p).journal = _
  unfold settled account
  cases x.failure? p with
  | none => simp [journal_call, hstart]
  | some f =>
      simp only [Option.elim_some]
      unfold aftermath
      cases x.handler? p with
      | none => simp [journal_reported, journal_call, hstart]
      | some h => simp [journal_told, journal_reported, journal_call, hstart]

theorem filter_body : (x.body p).filter (Occurrence.isAt p.depth) = [] :=
  filter_isAt_of_deep (x.call_deep p).since

/-- Of telling a handler, only its start is an occurrence of the publish itself. -/
theorem filter_telling (f : Fault) (h : InstalledHandler) :
    (x.telling p f h).filter (Occurrence.isAt p.depth) =
      [.handled p.depth p.hub (x.error f) (x.reported p f).context h.handler.showsContext] := by
  have hhandler : ((x.handlerStart p f h).since (x.handling p f h).2).filter
      (Occurrence.isAt p.depth) = [] := filter_isAt_of_deep (x.handling_deep p f h).since
  unfold telling
  cases Run.failure? (x.handling p f h).1 <;>
    simp [hhandler, filter_isAt_records, Occurrence.isAt, Occurrence.depth?]

/-- What the host code of a visit brings about is deeper than the publish, and records tell no depth. -/
theorem filter_account : (x.account p).filter (Occurrence.isAt p.depth) = x.own p := by
  unfold account own
  cases x.failure? p with
  | none => simp [filter_body, Occurrence.isAt, Occurrence.depth?]
  | some f =>
      -- a failure is one of the publish itself, and so is the start of the handler, if there is one
      simp only [Option.elim_some]
      unfold aftermath
      cases x.handler? p with
      | none => simp [filter_body, filter_isAt_records, Occurrence.isAt, Occurrence.depth?]
      | some h =>
          simp [filter_body, filter_isAt_records, filter_telling, Occurrence.isAt, Occurrence.depth?]

end Visit

end EventHub
