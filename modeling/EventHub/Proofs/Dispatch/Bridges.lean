import EventHub.Proofs.Dispatch.Scope
import EventHub.Proofs.Session.Steps

/-! # What a bridge adds to its emitter

A caller of a bridge gets what a caller of its emitter gets, after a publish. `Callable.Called` says what that
is: the emitter is started with the arguments, and the body runs that this starts, if any, once, a suspended one
because the caller awaits it. A bridge awaits an emitter exactly if a body of it can be suspended
(`Callable.asynchronous_of_suspended`), so that no emission is left undone.

The one call that a bridge does not pass on is one with an argument of the name `name`, which the bridge takes
for its own parameter.

Main statement: `bridge_transparent`.
-/

namespace EventHub

open Run

/-! ## Calls of an emitter -/

/-- Only an asynchronous body is suspended, also behind arguments that are stored in advance. -/
theorem Shape.asynchronous_of_suspended {shape : Shape} {callee : String} {own : Signature}
    {asynchronous : Bool} {args : List Value} {named bound : Fields}
    (h : shape.start callee own asynchronous args named = .ok (.suspended bound)) : asynchronous = true := by
  have hmap : ∀ {α : Type} {x : Except CallError α} {f : α → Started},
      x.map f = .ok (.suspended bound) → ∃ a, f a = .suspended bound := by
    intro α x f hx
    cases x with
    | error e => cases hx
    | ok a => exact ⟨a, Except.ok.inj hx⟩
  have hbody : ∀ {bs : Fields}, startBody asynchronous bs = .suspended bound → asynchronous = true := by
    intro bs hbs
    cases asynchronous with
    | false => cases hbs
    | true => rfl
  induction shape generalizing args named with
  -- what is stored in advance does not decide; the target does
  | stored target first before ih => exact ih h
  | function => exact (hmap h).elim fun _ => hbody
  | method owner => exact (hmap h).elim fun _ => hbody
  | object owner => exact (hmap h).elim fun _ => hbody
  | constructor asynchronousCall => exact (hmap h).elim nofun
  | builtin b => exact (hmap h).elim nofun
  | plain v => cases h

namespace Callable

/-- A caller of a callable gives it these arguments, and awaits what it gets if that is suspended: what happens
then, how the call ends, and the world that it leaves. The body runs no more than once, and begins in the log
context of the caller. -/
inductive Called (nested : Perform) (c : Callable Behaviour) (serial : Nat) (args : List Value)
    (named : Fields) (w : World) : List Occurrence → Except Stop Value × World → Prop
  /-- The arguments do not fit. -/
  | refused {e : CallError} (h : c.start args named = .error e) :
      Called nested c serial args named w [] (.error (.fault (.badCall e)), w)
  | given {v : Value} (h : c.start args named = .ok (.gives v)) :
      Called nested c serial args named w [] (.ok v, w)
  | ran {bound : Fields} {r : Except Stop Value} {v : World}
      (h : c.start args named = .ok (.runs bound) ∨ c.start args named = .ok (.suspended bound))
      (hbody : outcome ((Hub.bodyTask c serial bound w).code.run nested)
        (Hub.bodyTask c serial bound w).world = (r, v)) :
      Called nested c serial args named w
        (.ran c.label bound w.context c.showsContext :: (Hub.bodyTask c serial bound w).world.since v) (r, v)

variable {c : Callable Behaviour} {serial : Nat} {args : List Value} {named : Fields} {w : World}

/-- A call whose body is awaited where it can be suspended is the call of a caller who awaits it. -/
theorem exists_called (nested : Perform) (awaited : Bool) (h : c.asynchronous = true → awaited = true) :
    ∃ os, Called nested c serial args named w os (outcome (Hub.call nested c serial awaited args named) w) := by
  unfold Hub.call
  cases hstart : c.start args named with
  | error e => exact ⟨_, .refused hstart⟩
  | ok started =>
      cases started with
      | gives v => exact ⟨_, .given hstart⟩
      | runs bound => exact ⟨_, .ran (.inl hstart) (Hub.outcome_runBody bound).symm⟩
      | suspended bound =>
          -- the caller awaits, as only an asynchronous body is suspended
          dsimp only
          rw [if_pos (h (Shape.asynchronous_of_suspended hstart))]
          exact ⟨_, .ran (.inr hstart) (Hub.outcome_runBody bound).symm⟩

/-- What happens during a call is what the journal gains. -/
theorem Called.journal {fuel depth : Nat} {os : List Occurrence} {r : Except Stop Value × World}
    (h : Called (Session.perform (depth + 1) fuel) c serial args named w os r) :
    r.2.journal = os.reverse ++ w.journal := by
  cases h with
  | refused h => rfl
  | given h => rfl
  | @ran bound r v h hbody =>
      have hrun := (Behaviour.run_deep (fun c v => Session.perform_deep fuel (depth + 1) c v)
        (Hub.bodyTask c serial bound w).code (Hub.bodyTask c serial bound w).world).journal_since
      rw [hbody] at hrun
      rw [List.reverse_cons, List.append_assoc]
      exact hrun

end Callable

/-! ## Bridges -/

namespace Hub

/-- What is installed is a bridge of the hub for the emitter, which it awaits if that is an asynchronous
function. -/
theorem bridge_ok {n : Nat} {c : Callable Behaviour} {w w' : World} {b : Bridge}
    (h : outcome (bridge n c) w = (.ok b, w')) :
    b.hub = n ∧ b.emitter = c ∧ b.asynchronous = c.isAsynchronous := by
  unfold bridge at h
  -- an emitter that cannot be wrapped gets no bridge
  split at h
  · cases h
  · obtain ⟨name, v, -, h⟩ := exists_of_outcome_bind h
    obtain ⟨qualifiedName, v, -, h⟩ := exists_of_outcome_bind h
    obtain ⟨_, v, -, h⟩ := exists_of_outcome_bind h
    obtain ⟨serial, v, -, h⟩ := exists_of_outcome_bind h
    cases h
    exact ⟨rfl, rfl, rfl⟩

/-- Without an argument of the name `name`, a bridge publishes and then calls. -/
theorem outcome_emit {named : Fields} (h : named.contains "name" = false) (nested : Perform) (depth : Nat)
    (b : Bridge) (name : Value) (args : List Value) (w : World) :
    outcome (emit nested depth b name args named) w =
      outcome (publish nested depth b.hub name (args.head?.getD .none) >>= fun _ =>
        call nested b.emitter b.serial b.asynchronous (name :: args) named) w := by
  unfold emit
  rw [h]
  rfl

/-- Names that are not text, and an argument of the name `name`, are refused before anything happens. -/
theorem emit_refused {nested : Perform} {depth : Nat} {b : Bridge} {name : Value} {args : List Value}
    {named : Fields} (h : named.contains "name" = true ∨ ∀ text, name ≠ .text text) (w : World) :
    ∃ f, outcome (emit nested depth b name args named) w = (.error (.fault f), w) ∧
      f.className = "TypeError" := by
  unfold emit
  cases hname : named.contains "name" with
  | true => exact ⟨_, rfl, rfl⟩
  | false =>
      cases name with
      | text text => exact absurd rfl (h.resolve_left (by simp [hname]) text)
      | _ => exact ⟨_, rfl, rfl⟩

end Hub

/-- The stop with which a publish ends is one that a publish does not hold back. -/
theorem Publication.stop_of_run {p : Publication} {w : World} {s : Stop} (h : (p.run w).1 = .error s) :
    s = .tooDeep ∨ ∃ f, s = .fault f ∧ f.isInterrupt = true := by
  rw [p.run_eq w] at h
  cases hescape : p.escape? (p.visits w) with
  | none => simp [hescape] at h
  | some s' =>
      obtain ⟨x, -, hx⟩ := List.exists_of_findSome?_eq_some hescape
      simp only [hescape, verdict_some, Except.error.injEq] at h
      subst h
      exact x.escape?_eq_some p hx

/-- What a publish enters into the journal, it enters at the end. -/
theorem Publication.journal_run (p : Publication) (w : World) :
    (p.run w).2.journal = (p.occurrences w).reverse ++ w.journal :=
  (Hub.publish_deep (fun c v => Session.perform_deep p.fuel (p.depth + 1) c v) ..).journal_since

/-- **A bridge is transparent but for an argument of the name `name`.** A bridge is installed for an emitter on
a hub, whatever else happens before it is called. Called with the name of an event and further arguments, it
publishes the event with the first of these as payload, or with none. If the publish returns, the caller gets
what calling the emitter with all the arguments gives, in the log context of the caller and in the world that
the publish leaves; if a stop gets through the publish, the caller gets this stop, and the emitter is not
called. A name that is not text is refused, and so is an argument of the name `name`, and nothing happens. -/
theorem bridge_transparent {n : Nat} {c : Callable Behaviour} {b : Bridge} {w₀ w₁ : World}
    (hinstalled : outcome (Hub.bridge n c) w₀ = (.ok b, w₁))
    (hemitter : c.asynchronous = true → c.shape.isFunctionLike = true) (fuel depth : Nat) (event : String)
    (args : List Value) (named : Fields) (w : World) :
    let p : Publication := ⟨fuel, depth, n, event, args.head?.getD .none⟩
    let emission := fun name => outcome (Hub.emit p.nested depth b name args named) w
    (named.contains "name" = false →
      ((p.run w).1 = .ok ⟨⟩ ∧ (p.run w).2.context = w.context ∧
          ∃ os,
            c.Called p.nested b.serial (.text event :: args) named (p.run w).2 os (emission (.text event)) ∧
              w.since (emission (.text event)).2 = p.occurrences w ++ os) ∨
        ∃ s, (p.run w).1 = .error s ∧ (s = .tooDeep ∨ ∃ f, s = .fault f ∧ f.isInterrupt = true) ∧
          emission (.text event) = (.error s, (p.run w).2)) ∧
    ∀ name, (named.contains "name" = true ∨ ∀ text, name ≠ .text text) →
      ∃ f, emission name = (.error (.fault f), w) ∧ f.className = "TypeError" := by
  intro p emission
  refine ⟨fun hnamed => ?_, fun name h => Hub.emit_refused h w⟩
  obtain ⟨rfl, rfl, hawaited⟩ := Hub.bridge_ok hinstalled
  have hemission := Hub.outcome_emit hnamed p.nested depth b (.text event) args w
  rcases hrun : p.run w with ⟨s | ⟨⟨⟩⟩, v⟩
  · -- the publish does not return
    exact .inr ⟨s, rfl, Publication.stop_of_run (congrArg Prod.fst hrun),
      hemission.trans (outcome_bind_error hrun _)⟩
  · -- it returns, in the context in which it began, and the emitter is called there
    have hcall := hemission.trans (outcome_bind_ok hrun _)
    have hcontext : v.context = w.context := by
      have hpublish := p.context_publish (.text event) w
      rwa [show outcome _ w = _ from hrun] at hpublish
    obtain ⟨os, hcalled⟩ : ∃ os, b.emitter.Called p.nested b.serial (.text event :: args) named v os _ :=
      Callable.exists_called p.nested b.asynchronous fun hasynchronous => by
        rw [hawaited, Callable.isAsynchronous, hasynchronous, hemitter hasynchronous]
        rfl
    rw [← hcall] at hcalled
    refine .inl ⟨rfl, hcontext, os, hcalled, World.since_eq ?_⟩
    have hpublish := p.journal_run w
    rw [hrun] at hpublish
    rw [List.reverse_append, List.append_assoc, ← hpublish]
    exact hcalled.journal

namespace Sample

/-- An emitter of an event and one more argument, which answers what it is done with. -/
def emitter (asynchronous : Bool) (argument : String) : Callable Behaviour where
  shape := .function
  name := "emit"
  asynchronous := asynchronous
  signature := ⟨[⟨"event", .standard, none, none⟩, ⟨argument, .standard, none, none⟩], none⟩
  label := "emit"
  showsContext := false
  body := fun _ _ => .finish (.text "done")

/-- A world with a hub that counts, on which an actor listens to an event and fails. -/
def heard : World := Session.left (world 2) [create true, listen "a" "handle" (actor "hear" fun _ => failure)]

end Sample

/-- A coroutine function is awaited, after an actor has failed. -/
theorem bridge_transparent_awaited :
    ∃ b w, outcome (Hub.bridge 2 (Sample.emitter true "payload")) Sample.heard = (.ok b, w) ∧
      ((Sample.emitter true "payload").asynchronous = true →
        (Sample.emitter true "payload").shape.isFunctionLike = true) ∧
      (let p : Publication := ⟨8, 0, 2, "a", .int 1⟩
      let emission := outcome (Hub.emit p.nested 0 b (.text "a") [.int 1] []) w
      ∃ os,
        (Sample.emitter true "payload").Called p.nested b.serial [.text "a", .int 1] [] (p.run w).2 os emission ∧
          w.since emission.2 = p.occurrences w ++ os) := by
  have hfunction : (Sample.emitter true "payload").asynchronous = true →
      (Sample.emitter true "payload").shape.isFunctionLike = true := fun _ => rfl
  have hinstalls : (outcome (Hub.bridge 2 (Sample.emitter true "payload")) Sample.heard).1.isOk = true := by
    decide +kernel
  have hreturns : ((⟨8, 0, 2, "a", .int 1⟩ : Publication).run
      (outcome (Hub.bridge 2 (Sample.emitter true "payload")) Sample.heard).2).1.isOk = true := by
    decide +kernel
  rcases hbridge : outcome (Hub.bridge 2 (Sample.emitter true "payload")) Sample.heard with ⟨_ | b, w⟩
  · rw [hbridge] at hinstalls
    cases hinstalls
  · obtain ⟨htransparent, -⟩ := bridge_transparent hbridge hfunction 8 0 "a" [.int 1] [] w
    obtain ⟨-, -, hcalled⟩ | ⟨stop, hstop, -⟩ := htransparent rfl
    · exact ⟨b, w, rfl, hfunction, hcalled⟩
    · -- the publish returns
      rw [hbridge] at hreturns
      have hstopped : ((⟨8, 0, 2, "a", .int 1⟩ : Publication).run w).1 = .error stop := hstop
      rw [hstopped] at hreturns
      cases hreturns

/-- An emitter may have a parameter of the name `name`, and accepts an argument for it. Called with the same
arguments, a bridge refuses them: the event is not published to those that listen, and the emitter is not
called. -/
theorem bridge_refuses_name :
    ∃ b w, outcome (Hub.bridge 2 (Sample.emitter false "name")) Sample.heard = (.ok b, w) ∧
      (Sample.emitter false "name").start [.text "a"] [("name", .text "x")] =
        .ok (.runs [("event", .text "a"), ("name", .text "x")]) ∧
      (Publication.listeners ⟨8, 0, 2, "a", .none⟩ w).length = 1 ∧
      ∃ f, outcome (Hub.emit (Session.perform 1 8) 0 b (.text "a") [] [("name", .text "x")]) w =
          (.error (.fault f), w) ∧ f.className = "TypeError" := by
  have hinstalls : (outcome (Hub.bridge 2 (Sample.emitter false "name")) Sample.heard).1.isOk = true := by
    decide +kernel
  have hlistens : (Publication.listeners ⟨8, 0, 2, "a", .none⟩
      (outcome (Hub.bridge 2 (Sample.emitter false "name")) Sample.heard).2).length = 1 := by decide +kernel
  rcases hbridge : outcome (Hub.bridge 2 (Sample.emitter false "name")) Sample.heard with ⟨_ | b, w⟩
  · rw [hbridge] at hinstalls
    cases hinstalls
  · rw [hbridge] at hlistens
    exact ⟨b, w, rfl, rfl, hlistens, Hub.emit_refused (.inl rfl) w⟩

end EventHub
