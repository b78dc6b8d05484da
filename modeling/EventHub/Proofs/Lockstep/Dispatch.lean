import EventHub.Proofs.Lockstep.HostCode
import EventHub.Proofs.Session.Invariants

/-! # Dispatch in lockstep

A publish with one payload and a publish with another go in lockstep, if the host code that they run behaves
the same: visit by visit, they call the same actors, count the same, log the same and tell the error handler
the same. Of the payload they tell the type.
-/

namespace EventHub

open Run

/-- The host code that runs during a publish, from first to last. -/
def Publication.tasks (p : Publication) (w : World) : List Task := (p.visits w).flatMap (Visit.tasks p)

namespace Swap

variable {s : Swap}

/-- The same publish, but for the payload. -/
structure Publications (s : Swap) (p q : Publication) : Prop where
  fuel : p.fuel = q.fuel
  depth : p.depth = q.depth
  hub : p.hub = q.hub
  name : p.name = q.name
  payload : s.Values p.payload q.payload

/-- A visit of the same actor with the same event. -/
structure Visits (s : Swap) (x y : Visit) : Prop where
  event : x.event = y.event
  actor : s.Actors x.actor y.actor
  before : s.Worlds x.before y.before

/-- The same target of a publish. -/
def Targets (s : Swap) (t t' : Event × Actor) : Prop := t.1 = t'.1 ∧ s.Actors t.2 t'.2

theorem Publications.nested_eq {p q : Publication} (h : s.Publications p q) : p.nested = q.nested := by
  unfold Publication.nested
  rw [h.fuel, h.depth]

end Swap

/-- The first target is visited first. -/
theorem Publication.exists_visitsTo_cons (p : Publication) (t : Event × Actor) (ts : List (Event × Actor))
    (w : World) : ∃ rest, p.visitsTo (t :: ts) w = Visit.of t w :: rest := by
  cases h : (Visit.of t w).escape? p with
  | none => exact ⟨_, visitsTo_cons_held h⟩
  | some _ => exact ⟨_, visitsTo_cons_escaped h⟩

theorem Publication.leftBy_nil (p : Publication) (w : World) : p.leftBy [] w = w := rfl

theorem Publication.leftBy_cons (p : Publication) (x : Visit) (xs : List Visit) (w : World) :
    p.leftBy (x :: xs) w = p.leftBy xs (x.left p) := rfl

namespace Swap

variable {s : Swap}

/-! ## What is told of the ends of host code -/

/-- The same failure is reported. -/
theorem Ends.failure?_eq {α β : Type} {R : α → β → Prop} {r : Except Stop α × World}
    {r' : Except Stop β × World} (h : s.Ends R r r') : failure? r.1 = failure? r'.1 := by
  cases h with
  | ok _ _ => rfl
  | error stop _ => cases stop <;> rfl

/-- The same stop is let through. -/
theorem Ends.escape?_eq {α β : Type} {R : α → β → Prop} {r : Except Stop α × World}
    {r' : Except Stop β × World} (h : s.Ends R r r') : escape? r.1 = escape? r'.1 := by
  cases h with
  | ok _ _ => rfl
  | error stop _ => cases stop <;> rfl

theorem Worlds.counted {w w' : World} (h : s.Worlds w w') (n : Nat) (what : Counted) (name : String) :
    s.Worlds (w.counted n what name) (w'.counted n what name) := by
  simpa using ((runs_count n what name).ends w w' h).worlds

theorem Actors.fields_eq {a a' : Actor} (h : s.Actors a a') (event : Event) :
    Hub.actorFields event a = Hub.actorFields event a' := by
  unfold Hub.actorFields
  rw [h.identifier]

/-! ## Visits -/

namespace Visits

variable {p q : Publication} {x y : Visit} (hp : s.Publications p q) (hx : s.Visits x y)
include hp hx

/-- The visit of an actor starts alike: it is counted, and its scope entered. -/
theorem start : s.Worlds (x.start p) (y.start q) := by
  unfold Visit.start Visit.inside
  rw [hp.hub, hp.depth, hx.event, hx.actor.fields_eq]
  have hinside := (hx.before.counted q.hub .call y.event.name).inside (Hub.actorFields y.event y.actor)
  rw [hinside.context]
  exact hinside.note (.called q.depth q.hub y.event hp.payload hx.actor _)

/-- The actor starts alike. -/
theorem starts : Agree s.Starts (x.actor.callable.start [.event x.event, p.payload] [])
    (y.actor.callable.start [.event y.event, q.payload] []) := by
  rw [hx.event]
  exact hx.actor.callable.starts_actor y.event hp.payload

/-- The body of the actor runs in both visits or in none. -/
theorem bodyTask : Option.Rel (fun t t' : Task => s.Worlds t.world t'.world) (x.bodyTask? p)
    (y.bodyTask? q) := by
  unfold Visit.bodyTask?
  rw [hx.actor.serial]
  exact related_callTask hx.actor.callable (starts hp hx) _ _ (start hp hx)

/-- The call ends alike, if the body does. -/
theorem call (hbody : ∀ t ∈ x.bodyTask? p, ∀ t' ∈ y.bodyTask? q,
    s.Ends s.Values (t.run p.nested) (t'.run p.nested)) : s.Ends s.Values (x.call p) (y.call q) := by
  unfold Visit.bodyTask? at hbody
  unfold Visit.call
  rw [hx.actor.serial] at hbody ⊢
  rw [← hp.nested_eq]
  exact ends_call (starts hp hx) _ _ (start hp hx) hbody

variable (hcall : s.Ends s.Values (x.call p) (y.call q))
include hcall

/-- A failure is reported alike. -/
theorem reported (f : Fault) : s.Worlds (x.reported p f) (y.reported q f) := by
  have hrecord : x.failureRecord f = y.failureRecord f := by
    unfold Visit.failureRecord
    rw [hx.event, hx.actor.identifier]
  unfold Visit.reported Visit.failed
  rw [hrecord, hp.hub, hp.depth, hx.event]
  exact ((hcall.worlds.note (.failed q.depth q.hub y.event hx.actor f)).counted _ _ _).afterLog _

omit hx in
theorem handler? : Option.Rel s.Installed (x.handler? p) (y.handler? q) := by
  unfold Visit.handler?
  rw [hp.hub]
  exact (hcall.worlds.hub q.hub).handler

/-- An error handler that is told of a failure begins alike. -/
theorem handlerStart (f : Fault) {h h' : InstalledHandler} (hh : s.Installed h h') :
    s.Worlds (x.handlerStart p f h) (y.handlerStart q f h') := by
  have hreported := (reported hp hx hcall f).countRun h'.serial
  unfold Visit.handlerStart Visit.error
  dsimp only
  rw [hp.hub, hp.depth, hx.event, hx.actor.identifier, hh.serial, hh.handler.showsContext_eq,
    hreported.context]
  exact hreported.note (.same _)

omit hp hcall in
/-- The failure of an error handler is reported alike. -/
theorem told (f : Fault) {h h' : InstalledHandler}
    (hhandling : s.Ends s.Values (x.handling p f h) (y.handling q f h')) :
    s.Worlds (x.told p f h) (y.told q f h') := by
  have hrecord : x.handlerRecord = y.handlerRecord := by
    funext g
    unfold Visit.handlerRecord
    rw [hx.event, hx.actor.identifier]
  -- a handler that fails leaves one more record
  unfold Visit.told
  rw [hhandling.failure?_eq, hrecord]
  split
  · exact hhandling.worlds
  · exact hhandling.worlds.afterLog _

omit hcall in
/-- **A visit goes in lockstep**, if its host code does: it runs host code at the same places, lets the same
stop through, and leaves related worlds. -/
theorem settles {R : Task → Task → Prop}
    (hrun : ∀ t t', R t t' → s.Worlds t.world t'.world → s.Ends s.Values (t.run p.nested) (t'.run p.nested))
    (htasks : AtSamePlaces R (x.tasks p) (y.tasks q)) :
    (x.tasks p).length = (y.tasks q).length ∧ x.escape? p = y.escape? q ∧
      s.Worlds (x.left p) (y.left q) := by
  have hbody := bodyTask hp hx
  -- as many bodies run, so that the error handlers stand at the same places
  have hlength : (x.bodyTask? p).toList.length = (y.bodyTask? q).toList.length := by
    rcases related_options hbody with ⟨hxt, hyt⟩ | ⟨t, t', hxt, hyt, -⟩
    · rw [hxt, hyt]
    · rw [hxt, hyt]
      rfl
  have hsecond := htasks.rest hlength
  have hcall : s.Ends s.Values (x.call p) (y.call q) := call hp hx (ends_body hrun hbody htasks.first)
  have hfailure : x.failure? p = y.failure? q := hcall.failure?_eq
  unfold Visit.tasks Visit.escape? Visit.left Visit.settled
  unfold Visit.handlerTask? at hsecond ⊢
  rw [hfailure] at hsecond ⊢
  rw [List.length_append, List.length_append, hlength, hx.before.context]
  generalize y.failure? q = failure? at hsecond ⊢
  cases failure? with
  | none =>
      -- no failure: the visit ends with the call
      simp only [Option.bind_none, Option.toList_none, List.length_nil]
      exact ⟨trivial, hcall.escape?_eq, hcall.worlds.leave _⟩
  | some f =>
      simp only [Option.bind_some] at hsecond ⊢
      -- without an error handler the failure is only reported
      rcases related_options (handler? hp hcall) with ⟨hxh, hyh⟩ | ⟨h, h', hxh, hyh, hrel⟩
      · simp only [hxh, hyh, Option.map_none, Option.toList_none, List.length_nil, Option.bind_none,
          Option.elim_none]
        exact ⟨trivial, trivial, (reported hp hx hcall f).leave _⟩
      · simp only [hxh, hyh, Option.map_some, Option.toList_some, List.length_singleton, Option.bind_some,
          Option.elim_some] at hsecond ⊢
        have hhandling : s.Ends s.Values (x.handling p f h) (y.handling q f h') := by
          have hhandler : y.handling q f h' = (y.handlerTask q f h').run p.nested := by
            rw [hp.nested_eq]
            rfl
          rw [hhandler]
          exact hrun _ _ hsecond.single (handlerStart hp hx hcall f hrel)
        exact ⟨trivial, hhandling.escape?_eq, (told hx f hhandling).leave _⟩

end Visits

/-! ## Publishes -/

namespace Publications

variable {p q : Publication} (hp : s.Publications p q) {R : Task → Task → Prop}
  (hrun : ∀ t t', R t t' → s.Worlds t.world t'.world → s.Ends s.Values (t.run p.nested) (t'.run p.nested))
  {w w' : World} (hw : s.Worlds w w')
include hp

section

include hrun hw

/-- By induction on the targets: after a visit the rest goes on from related worlds, or is not reached in
either publish. -/
theorem visitsTo {ts ts' : List (Event × Actor)} (hts : List.Forall₂ s.Targets ts ts')
    (htasks : AtSamePlaces R ((p.visitsTo ts w).flatMap (Visit.tasks p))
      ((q.visitsTo ts' w').flatMap (Visit.tasks q))) :
    ((p.visitsTo ts w).flatMap (Visit.tasks p)).length =
        ((q.visitsTo ts' w').flatMap (Visit.tasks q)).length ∧
      p.escape? (p.visitsTo ts w) = q.escape? (q.visitsTo ts' w') ∧
      s.Worlds (p.leftBy (p.visitsTo ts w) w) (q.leftBy (q.visitsTo ts' w') w') := by
  induction hts generalizing w w' with
  | nil =>
      simp only [Publication.visitsTo, Publication.escape?, List.flatMap_nil, List.findSome?_nil]
      exact ⟨trivial, trivial, hw⟩
  | @cons t t' ts ts' ht _ ih =>
      -- the first targets are visited, and their tasks come first
      have hvisit : s.Visits (Visit.of t w) (Visit.of t' w') := ⟨ht.1, ht.2, hw⟩
      have hfirst : AtSamePlaces R ((Visit.of t w).tasks p) ((Visit.of t' w').tasks q) := by
        obtain ⟨rest, hrest⟩ := p.exists_visitsTo_cons t ts w
        obtain ⟨rest', hrest'⟩ := q.exists_visitsTo_cons t' ts' w'
        rw [hrest, hrest', List.flatMap_cons, List.flatMap_cons] at htasks
        exact htasks.first
      obtain ⟨hlength, hescape, hleft⟩ := Visits.settles hp hvisit hrun hfirst
      cases hx : (Visit.of t w).escape? p with
      | none =>
          -- the stop is held back in both visits, and the rest goes on
          have hy := hescape.symm.trans hx
          rw [Publication.visitsTo_cons_held hx, Publication.visitsTo_cons_held hy] at htasks ⊢
          rw [List.flatMap_cons, List.flatMap_cons] at htasks ⊢
          obtain ⟨hlengths, hescapes, hlefts⟩ := ih hleft (htasks.rest hlength)
          rw [Publication.leftBy_cons, Publication.leftBy_cons]
          refine ⟨by rw [List.length_append, List.length_append, hlength, hlengths], ?_, hlefts⟩
          unfold Publication.escape?
          rw [List.findSome?_cons, List.findSome?_cons, hx, hy]
          exact hescapes
      | some stop =>
          -- the stop ends both publishes
          have hy := hescape.symm.trans hx
          rw [Publication.visitsTo_cons_escaped hx, Publication.visitsTo_cons_escaped hy]
          rw [Publication.leftBy_cons, Publication.leftBy_cons, Publication.leftBy_nil,
            Publication.leftBy_nil]
          refine ⟨by simpa using hlength, ?_, hleft⟩
          unfold Publication.escape?
          rw [List.findSome?_cons, List.findSome?_cons, hx, hy]

end

section

include hw

/-- The same actors are listening, in the same order. -/
theorem listeners : List.Forall₂ s.Targets (p.listeners w) (q.listeners w') := by
  unfold Publication.listeners
  rw [hp.hub, hp.name, (hw.hub q.hub).registry]
  have hactive := related_filter (p := fun e : Entry Actor => e.active && e.matcher.test q.name)
    (q := fun e => e.active && e.matcher.test q.name) (hw.registry (w'.hub q.hub).registry).live
    fun e e' he => by rw [he.active, he.matcher]
  refine List.rel_flatMap hactive fun e e' he => List.rel_map (fun a a' ha => ⟨?_, ha⟩) he.actors
  dsimp only
  rw [he.matcher]

/-- Of the payload, the context of a publish tells the type. -/
theorem opened : s.Worlds (p.opened w) (q.opened w') := by
  -- the record tells how many entries and actors match
  have hrecord : p.openingRecord w = q.openingRecord w' := by
    have hmatching := (hw.registry (w'.hub q.hub).registry).matching q.name
    have hactors := List.rel_flatMap hmatching fun _ _ hx => hx.2
    unfold Publication.openingRecord
    rw [hp.hub, hp.name, (hw.hub q.hub).registry]
    dsimp only
    rw [hmatching.length_eq, hactors.length_eq]
    simp only [List.isEmpty_iff_length_eq_zero, hmatching.length_eq]
  have hfields : Hub.publishFields p.name p.payload = Hub.publishFields q.name q.payload := by
    unfold Hub.publishFields
    rw [hp.name, hp.payload.typeName_eq]
  unfold Publication.opened Publication.inside
  rw [hrecord, hfields, hp.depth, hp.hub, hp.name]
  exact (((hw.note (.same _)).counted _ _ _).inside _).afterLog _

end

section

include hrun hw

/-- **A publish goes in lockstep**, if the host code that it runs does: it runs host code at the same places,
and ends alike. -/
theorem runs (htasks : AtSamePlaces R (p.tasks w) (q.tasks w')) :
    (p.tasks w).length = (q.tasks w').length ∧ s.Ends Eq (p.run w) (q.run w') := by
  obtain ⟨hlength, hescape, hleft⟩ := visitsTo hp hrun (opened hp hw) (listeners hp hw) htasks
  refine ⟨hlength, ?_⟩
  rw [Publication.run_eq, Publication.run_eq]
  unfold Publication.visits
  rw [hescape, hw.context]
  cases q.escape? (q.visitsTo (q.listeners w') (q.opened w')) with
  | none => exact .ok rfl (hleft.leave _)
  | some stop => exact .error stop (hleft.leave _)

/-- By induction on the number of publishes: each goes on from the worlds that those before leave. -/
theorem repeats (times : Nat)
    (htasks : AtSamePlaces R ((p.repeats times w).flatMap p.tasks) ((q.repeats times w').flatMap q.tasks)) :
    s.Ends Eq (outcome (Hub.publishTimes p.nested p.depth p.hub (.text p.name) p.payload times) w)
      (outcome (Hub.publishTimes q.nested q.depth q.hub (.text q.name) q.payload times) w') := by
  induction times generalizing w w' with
  | zero => exact .ok rfl hw
  | succ times ih =>
      unfold Publication.repeats at htasks
      rw [List.flatMap_cons, List.flatMap_cons] at htasks
      obtain ⟨hlength, hends⟩ := runs hp hrun hw htasks.first
      have hrest := htasks.rest hlength
      have hrun : ∀ (p : Publication) (w : World),
          outcome (Hub.publish p.nested p.depth p.hub (.text p.name) p.payload) w = p.run w := fun _ _ => rfl
      unfold Hub.publishTimes
      rw [outcome_bind, outcome_bind, hrun, hrun]
      generalize p.run w = r at hends hrest ⊢
      generalize q.run w' = r' at hends hrest ⊢
      cases hends with
      | ok _ hv => exact ih hv hrest
      | error stop hv => exact .error stop hv

end

end Publications

end Swap

end EventHub
