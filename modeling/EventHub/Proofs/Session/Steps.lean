import EventHub.Proofs.Dispatch.Publish

/-! # The steps of a session

Carrying out a command is a step. Host code that runs during a step has further commands carried out, each
in a step one level deeper. `Session.steps` lists the steps of a session from first to last, with those of
host code, each with the world in which it begins. The worlds in which steps begin and end are the points
at which anything outside the library can look at the world.
-/

namespace EventHub

open Run

/-- Host code that runs: what it does, and the world in which it begins. -/
structure Task where
  code : Behaviour
  world : World

/-- A command that is carried out: how deeply it is nested, how many levels are left for host code, and the
world in which it begins. -/
structure Step where
  depth : Nat
  fuel : Nat
  command : Command Behaviour
  world : World

namespace World

/-- The hub that is kept under a name. -/
def hubNamed? (w : World) (name : String) : Option Nat :=
  match w.kept.find? name with
  | some (.hub n) => some n
  | _ => none

/-- The handle that is kept under a name, with its hub. -/
def handleNamed? (w : World) (name : String) : Option (Nat × EntryRef) :=
  match w.kept.find? name with
  | some (.handle n ref) => some (n, ref)
  | _ => none

/-- The bridge that is kept under a name. -/
def bridgeNamed? (w : World) (name : String) : Option Bridge :=
  match w.kept.find? name with
  | some (.bridge b) => some b
  | _ => none

end World

/-! ## Host code -/

namespace Behaviour

/-- The commands that host code has carried out, from first to last, each with the world in which it
begins. -/
def requests (nested : Perform) : Behaviour → World → List (Command Behaviour × World)
  | .finish _, _ => []
  | .fail _, _ => []
  | .perform c guarded next, w =>
    (c, w) ::
      match outcome (nested c) w with
      | (.ok r, v) => (next (.ok r)).requests nested (v.note (.answered (.ok r)))
      | (.error (.fault f), v) =>
        if guarded && !f.isInterrupt then
          (next (.error f)).requests nested (v.note (.answered (.error f)))
        else []
      | (.error .tooDeep, _) => []

end Behaviour

namespace Hub

/-- The body of a callable, as it begins. -/
def bodyTask (c : Callable Behaviour) (serial : Nat) (bound : Fields) (w : World) : Task where
  code := c.body ((w.runs.find? serial).getD 0) bound
  world := ((Effect.countRun serial).apply w).note (.ran c.label bound w.context c.showsContext)

/-- The body that a call runs, if it runs one. -/
def callTask? (c : Callable Behaviour) (serial : Nat) (awaited : Bool) (args : List Value)
    (named : Fields) (w : World) : Option Task :=
  match c.start args named with
  | .ok (.runs bound) => some (bodyTask c serial bound w)
  | .ok (.suspended bound) => if awaited then some (bodyTask c serial bound w) else none
  | _ => none

end Hub

namespace Visit

/-- The body of the actor that is called. -/
def bodyTask? (p : Publication) (x : Visit) : Option Task :=
  Hub.callTask? x.actor.callable x.actor.serial false [.event x.event, p.payload] [] (x.start p)

/-- An error handler that is told of a failure, as it begins. -/
def handlerTask (p : Publication) (x : Visit) (f : Fault) (h : InstalledHandler) : Task where
  code := h.handler.body (((x.reported p f).runs.find? h.serial).getD 0) (x.error f)
  world := x.handlerStart p f h

/-- The error handler, if it is told of a failure of the call. -/
def handlerTask? (p : Publication) (x : Visit) : Option Task :=
  (x.failure? p).bind fun f => (x.handler? p).map (x.handlerTask p f)

/-- The host code that a visit runs. -/
def tasks (p : Publication) (x : Visit) : List Task :=
  (x.bodyTask? p).toList ++ (x.handlerTask? p).toList

end Visit

/-- The worlds in which repeated publishes begin. One that does not return is the last. -/
def Publication.repeats (p : Publication) : Nat → World → List World
  | 0, _ => []
  | times + 1, w =>
    w :: match p.run w with
      | (.ok _, v) => p.repeats times v
      | (.error _, _) => []

namespace Step

variable (s : Step)

/-! ## What a step does -/

/-- How the commands of host code are carried out that runs during a step. -/
def nested : Perform := Session.perform (s.depth + 1) s.fuel

/-- How a step ends, and the world that it leaves. -/
def run : Except Stop Reply × World := outcome (Session.step s.nested s.depth s.command) s.world

/-- The world that a step leaves. -/
def left : World := s.run.2

/-- A publish of the step. -/
def publication (n : Nat) (event : String) (payload : Value) : Publication where
  fuel := s.fuel
  depth := s.depth
  hub := n
  name := event
  payload := payload

/-- The publishes of a step, each with the world in which it begins. -/
def publications : List (Publication × World) :=
  match s.command with
  | .hub (.publish name (.text event) payload times) =>
    match s.world.hubNamed? name with
    | some n => ((s.publication n event payload).repeats times s.world).map (s.publication n event payload, ·)
    | none => []
  | .bridge (.emit name (.text event) args named) =>
    match s.world.bridgeNamed? name with
    | some b =>
      if named.contains "name" then []
      else [(s.publication b.hub event (args.head?.getD .none), s.world)]
    | none => []
  | _ => []

/-- The emitter of a bridge that a step runs, once its publish has returned. -/
def emitterTask? : Option Task :=
  match s.command with
  | .bridge (.emit name event args named) =>
    match s.world.bridgeNamed? name with
    | some b =>
      if named.contains "name" then none
      else
        match outcome (Hub.publish s.nested s.depth b.hub event (args.head?.getD .none)) s.world with
        | (.ok _, v) => Hub.callTask? b.emitter b.serial b.asynchronous (event :: args) named v
        | (.error _, _) => none
    | none => none
  | _ => none

/-- The visits of the publishes of a step. -/
def visits : List (Publication × Visit) :=
  s.publications.flatMap fun (p, w) => (p.visits w).map (p, ·)

/-- The host code that a step runs, from first to last. -/
def tasks : List Task := (s.visits.flatMap fun (p, x) => x.tasks p) ++ s.emitterTask?.toList

end Step

/-! ## Steps within steps -/

/-- The steps of host code whose commands are carried out at a depth with some levels left: for each of its
commands the step itself, and the steps of the host code that it runs. -/
def Task.steps : Nat → Nat → Task → List Step
  | 0, _, _ => []
  | fuel + 1, depth, t =>
    (t.code.requests (Session.perform depth (fuel + 1)) t.world).flatMap fun (c, w) =>
      let s : Step := ⟨depth, fuel, c, w⟩
      s :: s.tasks.flatMap (Task.steps fuel (depth + 1))

/-- The steps during the call of a visit. -/
def Visit.steps (p : Publication) (x : Visit) : List Step :=
  (x.bodyTask? p).toList.flatMap (Task.steps p.fuel (p.depth + 1))

/-- A step, and the steps of the host code that it runs. -/
def Step.trace (s : Step) : List Step := s :: s.tasks.flatMap (Task.steps s.fuel (s.depth + 1))

namespace Session

/-- The step of a command that is not nested. -/
def outermost (c : Command Behaviour) (w : World) : Step := ⟨0, deepest - 1, c, w⟩

/-- The steps of a session that carries out commands one after another, however each of them ends. -/
def steps : World → List (Command Behaviour) → List Step
  | _, [] => []
  | w, c :: cs => (outermost c w).trace ++ steps (outermost c w).left cs

/-- The world that a session leaves. -/
def left (w : World) (cs : List (Command Behaviour)) : World := cs.foldl (fun w c => (outermost c w).left) w

theorem outcome_perform_succ (depth fuel : Nat) (c : Command Behaviour) (w : World) :
    outcome (perform depth (fuel + 1) c) w = (⟨depth, fuel, c, w⟩ : Step).run := rfl

/-- Carrying out a command of a session is its outermost step. -/
theorem outcome_carryOut (c : Command Behaviour) (w : World) :
    outcome (carryOut c) w = (outermost c w).run := by
  have hlevels : deepest = deepest - 1 + 1 := by decide
  have hperform : outcome (perform 0 deepest c) w = outcome (perform 0 (deepest - 1 + 1) c) w :=
    congrArg (fun levels => outcome (perform 0 levels c) w) hlevels
  exact hperform.trans (outcome_perform_succ 0 (deepest - 1) c w)

end Session

/-! ## Host code by its tasks -/

namespace Hub

variable {nested : Perform} {c : Callable Behaviour} {serial : Nat} {awaited : Bool} {args : List Value}
  {named : Fields} {w : World}

/-- A body that runs ends as its task does. -/
theorem outcome_runBody (bound : Fields) :
    outcome (runBody nested c serial bound) w =
      outcome ((bodyTask c serial bound w).code.run nested) (bodyTask c serial bound w).world := by
  unfold runBody countRun
  rw [bind_assoc, outcome_get_bind, bind_assoc, outcome_modify_bind, pure_bind, outcome_get_bind,
    outcome_note_bind]
  rfl

/-- A call that runs a body ends as the body does. -/
theorem outcome_call_of_task {t : Task} (h : callTask? c serial awaited args named w = some t) :
    outcome (call nested c serial awaited args named) w = outcome (t.code.run nested) t.world := by
  unfold callTask? at h
  unfold call
  cases hstart : c.start args named with
  | error e => simp [hstart] at h
  | ok started =>
      rw [hstart] at h
      cases started with
      | runs bound =>
          obtain rfl : bodyTask c serial bound w = t := by simpa using h
          exact outcome_runBody bound
      | suspended bound =>
          cases awaited with
          | false => simp at h
          | true =>
              obtain rfl : bodyTask c serial bound w = t := by simpa using h
              exact outcome_runBody bound
      | gives v => simp at h

/-- A call that runs no body changes nothing. -/
theorem left_call_of_no_task (h : callTask? c serial awaited args named w = none) :
    (outcome (call nested c serial awaited args named) w).2 = w := by
  unfold callTask? at h
  unfold call
  cases hstart : c.start args named with
  | error e => rfl
  | ok started =>
      rw [hstart] at h
      cases started with
      | runs bound => simp at h
      | suspended bound =>
          cases awaited with
          | false => rfl
          | true => simp at h
      | gives v => rfl

end Hub

/-- By induction on the behaviour: what is known of every command that host code has carried out, and of
noting its answer, is known of the host code as a whole, if it can be put together from parts. `R` says what
is known between two worlds and what is listed meanwhile. A command begins where the commands before it have
led. -/
theorem Behaviour.run_along {α : Type} {R : World → List α → World → Prop} (hrefl : ∀ w, R w [] w)
    (htrans : ∀ {w v u ls ls'}, R w ls v → R v ls' u → R w (ls ++ ls') u)
    (hanswered : ∀ w r, R w [] (w.note (.answered r))) (nested : Perform)
    (listed : Command Behaviour × World → List α) :
    ∀ (b : Behaviour) (w : World),
      (∀ x ∈ b.requests nested w, (∃ ls, R w ls x.2) → R x.2 (listed x) (outcome (nested x.1) x.2).2) →
        R w ((b.requests nested w).flatMap listed) (outcome (b.run nested) w).2
  | .finish _, w, _ => hrefl w
  | .fail _, w, _ => hrefl w
  | .perform c guarded next, w, h => by
    unfold run
    unfold requests at h ⊢
    rw [outcome_bind, outcome_attempt, List.flatMap_cons]
    have hfirst := h (c, w) (by simp) ⟨[], hrefl w⟩
    -- the rest of the behaviour begins when the answer is in the journal
    have hrest : ∀ (r : Except Fault Reply) (v : World), R w (listed (c, w)) v →
        (∀ x ∈ (next r).requests nested (v.note (.answered r)), (∃ ls, R w ls x.2) →
          R x.2 (listed x) (outcome (nested x.1) x.2).2) →
        R w (listed (c, w) ++ ((next r).requests nested (v.note (.answered r))).flatMap listed)
          (outcome ((next r).run nested) (v.note (.answered r))).2 := by
      intro r v hv hnext
      have hnoted : R w (listed (c, w)) (v.note (.answered r)) := by
        simpa using htrans hv (hanswered v r)
      refine htrans hnoted ?_
      exact Behaviour.run_along hrefl htrans hanswered nested listed (next r) _ fun x hx hbefore =>
        hnext x hx (hbefore.elim fun ls hls => ⟨listed (c, w) ++ ls, htrans hnoted hls⟩)
    rcases hc : outcome (nested c) w with ⟨(f | _) | r, v⟩
    · -- a fault ends the behaviour, unless it is handed to the rest
      simp only [hc] at hfirst h ⊢
      cases hguarded : guarded && !f.isInterrupt with
      | false => simpa using hfirst
      | true =>
          simp only [hguarded, if_true] at h ⊢
          exact hrest (.error f) v hfirst fun x hx => h x (List.mem_cons_of_mem _ hx)
    · -- commands are nested too deeply
      simp only [hc] at hfirst ⊢
      simpa using hfirst
    · simp only [hc] at hfirst h ⊢
      exact hrest (.ok r) v hfirst fun x hx => h x (List.mem_cons_of_mem _ hx)

/-! ## Where steps are listed -/

namespace Step

variable {s : Step}

/-- The visits of a step are those of its publishes. -/
theorem mem_visits {p : Publication} {x : Visit} :
    (p, x) ∈ s.visits ↔ ∃ w, (p, w) ∈ s.publications ∧ x ∈ p.visits w := by
  unfold visits
  rw [List.mem_flatMap]
  constructor
  · rintro ⟨⟨q, w⟩, hq, hx⟩
    obtain ⟨y, hy, hyx⟩ := List.mem_map.mp hx
    cases hyx
    exact ⟨w, hq, hy⟩
  · rintro ⟨w, hp, hx⟩
    exact ⟨(p, w), hp, List.mem_map_of_mem hx⟩

/-- Host code of a step runs in a visit, or is its emitter. -/
theorem mem_tasks {t : Task} :
    t ∈ s.tasks ↔ (∃ p x, (p, x) ∈ s.visits ∧ t ∈ Visit.tasks p x) ∨ s.emitterTask? = some t := by
  unfold tasks
  rw [List.mem_append, List.mem_flatMap, Option.mem_toList]
  constructor
  · rintro (⟨⟨p, x⟩, hx, ht⟩ | ht)
    · exact .inl ⟨p, x, hx, ht⟩
    · exact .inr ht
  · rintro (⟨p, x, hx, ht⟩ | ht)
    · exact .inl ⟨(p, x), hx, ht⟩
    · exact .inr ht

/-- The publishes of a step are as deep as the step. -/
theorem level_of_mem_visits {p : Publication} {x : Visit} (h : (p, x) ∈ s.visits) :
    p.fuel = s.fuel ∧ p.depth = s.depth := by
  obtain ⟨w, hp, -⟩ := mem_visits.mp h
  unfold publications at hp
  split at hp
  · split at hp
    · obtain ⟨v, -, hv⟩ := List.mem_map.mp hp
      cases hv
      exact ⟨rfl, rfl⟩
    · cases hp
  · split at hp
    · split at hp
      · cases hp
      · cases List.mem_singleton.mp hp
        exact ⟨rfl, rfl⟩
    · cases hp
  · cases hp

/-- The steps during a call are steps within the step that makes the call. -/
theorem steps_subset_trace {p : Publication} {x : Visit} (h : (p, x) ∈ s.visits) :
    x.steps p ⊆ s.trace := by
  intro s' hs'
  obtain ⟨t, ht, hs'⟩ := List.mem_flatMap.mp hs'
  obtain ⟨hfuel, hdepth⟩ := level_of_mem_visits h
  rw [hfuel, hdepth] at hs'
  have htask : t ∈ s.tasks := mem_tasks.mpr (.inl ⟨p, x, h, List.mem_append_left _ ht⟩)
  exact List.mem_cons_of_mem _ (List.mem_flatMap.mpr ⟨t, htask, hs'⟩)

end Step

/-- By induction on the levels that are left: the steps within a step of host code are steps of the host
code. -/
theorem Task.trace_subset_steps (fuel depth : Nat) (t : Task) :
    ∀ s ∈ t.steps fuel depth, s.trace ⊆ t.steps fuel depth := by
  induction fuel generalizing depth t with
  | zero => simp [steps]
  | succ fuel ih =>
      intro s hs
      unfold steps at hs ⊢
      obtain ⟨⟨c, w⟩, hmem, hs⟩ := List.mem_flatMap.mp hs
      refine fun s' hs' => List.mem_flatMap.mpr ⟨(c, w), hmem, ?_⟩
      rcases List.mem_cons.mp hs with rfl | hs
      · exact hs'
      · obtain ⟨u, hu, hs⟩ := List.mem_flatMap.mp hs
        exact List.mem_cons_of_mem _ (List.mem_flatMap.mpr ⟨u, hu, ih (depth + 1) u s hs hs'⟩)

/-- The steps within a step of a session are steps of the session. -/
theorem Session.trace_subset_steps {w : World} {cs : List (Command Behaviour)} :
    ∀ s ∈ Session.steps w cs, s.trace ⊆ Session.steps w cs := by
  induction cs generalizing w with
  | nil => simp [steps]
  | cons c cs ih =>
      intro s hs s' hs'
      unfold steps at hs ⊢
      rcases List.mem_append.mp hs with hs | hs
      · refine List.mem_append_left _ ?_
        rcases List.mem_cons.mp hs with rfl | hs
        · exact hs'
        · obtain ⟨t, ht, hs⟩ := List.mem_flatMap.mp hs
          exact List.mem_cons_of_mem _
            (List.mem_flatMap.mpr ⟨t, ht, t.trace_subset_steps _ _ s hs hs'⟩)
      · exact List.mem_append_right _ (ih s hs hs')

/-! ## Small sessions

What examples of sessions are made of. -/

namespace Sample

/-- A fresh world with loaded settings, in which counters track so many names and nothing is logged. -/
def world (names : Int) : World where
  logLevel := 100
  configuration := { loaded := true, values := [("mediator.metrics_max_event_names", .int names)] }

/-- An actor, by what it does when it ran so often before. -/
def actor (label : String) (body : Nat → Behaviour) : Callable Behaviour where
  shape := .function
  name := label
  asynchronous := false
  signature := ⟨[⟨"event", .standard, none, none⟩, ⟨"payload", .standard, none, none⟩], none⟩
  label := label
  showsContext := false
  body := fun before _ => body before

/-- A failure of host code. -/
def failure : Behaviour := .fail (.thrown .valueError [])

/-- Host code that has a command carried out and then fails, however the command ends. -/
def failAfter (c : Command Behaviour) : Behaviour := .perform c true fun _ => failure

/-- Sets up the hub, which counts or does not. -/
def create (metrics : Bool) : Command Behaviour :=
  .hub (.create "hub" { metrics := .bool metrics, validates := .bool true, warns := .bool true })

/-- Attaches an actor to a pattern and keeps the handle. -/
def listen (pattern handle : String) (a : Callable Behaviour) : Command Behaviour :=
  .hub (.listen "hub" (.plain (.text pattern)) (some handle) [a])

/-- Publishes an event once. -/
def publish (name : String) : Command Behaviour := .hub (.publish "hub" (.text name) .none 1)

end Sample

end EventHub
