import EventHub.Proofs.Dispatch.Visit

/-! # A whole publish

Main statements:

* `publish_calls_snapshot`: a publish calls exactly the actors that the registry had for its event when it
  began, in order, whatever these actors and the error handlers do meanwhile; a stop that gets through
  ends it with the call that it gets through.
* `publish_isolates_failures`: a publish in which no stop gets through returns, and what happened during it
  is, visit by visit, the call with what it brought about and, for a call that failed and for no other, the
  one report of the failure.
-/

namespace EventHub

open Run

namespace Publication

variable (p : Publication)

/-! ## Visits -/

/-- The visits to targets, of which the first begins in a world: each goes on from the world that the one
before leaves, up to the first that lets a stop through. -/
def visitsTo (p : Publication) : List (Event × Actor) → World → List Visit
  | [], _ => []
  | t :: rest, w =>
    match (Visit.of t w).escape? p with
    | none => Visit.of t w :: visitsTo p rest ((Visit.of t w).left p)
    | some _ => [Visit.of t w]

/-- The world that visits leave, of which the first begins in a world. -/
def leftBy (vs : List Visit) (w : World) : World := vs.foldl (fun _ x => x.left p) w

/-- The stop that visits let through. -/
def escape? (vs : List Visit) : Option Stop := vs.findSome? (·.escape? p)

section

variable {p} {t : Event × Actor} {ts : List (Event × Actor)} {w : World}

/-- A visit that lets no stop through is followed by the visits to the other targets. -/
theorem visitsTo_cons_held (h : (Visit.of t w).escape? p = none) :
    p.visitsTo (t :: ts) w = Visit.of t w :: p.visitsTo ts ((Visit.of t w).left p) := by
  simp only [visitsTo, h]

theorem visitsTo_cons_escaped {s : Stop} (h : (Visit.of t w).escape? p = some s) :
    p.visitsTo (t :: ts) w = [Visit.of t w] := by
  simp only [visitsTo, h]

end

/-- By induction on the targets: calling them is visiting them one after another. -/
theorem outcome_forM_invoke (ts : List (Event × Actor)) (w : World) :
    outcome (ts.forM (Hub.invoke p.nested p.depth p.hub p.payload)) w =
      (verdict (p.escape? (p.visitsTo ts w)), p.leftBy (p.visitsTo ts w) w) := by
  induction ts generalizing w with
  | nil => rfl
  | cons t ts ih =>
      have hinvoke : outcome (Hub.invoke p.nested p.depth p.hub p.payload t) w = _ :=
        (Visit.of t w).outcome_invoke p
      rw [outcome_forM_cons, hinvoke]
      cases hescape : (Visit.of t w).escape? p with
      | none =>
          -- the rest goes on from the world that the visit leaves
          simp only [verdict_none]
          rw [ih, visitsTo_cons_held hescape]
          simp [escape?, leftBy, hescape]
      | some s =>
          -- the rest is not reached
          rw [visitsTo_cons_escaped hescape]
          simp [escape?, leftBy, hescape]

/-- Either all targets are visited and no stop gets through, or the visits are to the first targets, up to
and with the only one that lets a stop through. -/
theorem visitsTo_cases (ts : List (Event × Actor)) (w : World) :
    ((∀ x ∈ p.visitsTo ts w, x.escape? p = none) ∧ (p.visitsTo ts w).map Visit.target = ts) ∨
      ∃ before x s rest, p.visitsTo ts w = before ++ [x] ∧ (∀ y ∈ before, y.escape? p = none) ∧
        x.escape? p = some s ∧ ts = (before ++ [x]).map Visit.target ++ rest := by
  induction ts generalizing w with
  | nil => exact .inl ⟨by simp [visitsTo], rfl⟩
  | cons t ts ih =>
      cases hescape : (Visit.of t w).escape? p with
      | none =>
          rw [visitsTo_cons_held hescape]
          -- the induction hypothesis decides between the two cases, in which this visit comes first
          rcases ih ((Visit.of t w).left p) with
            ⟨hheld, hall⟩ | ⟨before, x, s, rest, hvisits, hheld, hx, hts⟩
          · refine .inl ⟨?_, ?_⟩
            · simpa [hescape] using hheld
            · rw [List.map_cons, hall, Visit.target_of]
          · refine .inr ⟨Visit.of t w :: before, x, s, rest, by simp [hvisits], ?_, hx, ?_⟩
            · simpa [hescape] using hheld
            · rw [List.cons_append, List.map_cons, List.cons_append, ← hts, Visit.target_of]
      | some s =>
          rw [visitsTo_cons_escaped hescape]
          exact .inr ⟨[], Visit.of t w, s, ts, rfl, by simp, hescape, rfl⟩

/-- By induction on the targets: the journal gains what the visits enter. -/
theorem journal_leftBy (ts : List (Event × Actor)) (w : World) :
    (p.leftBy (p.visitsTo ts w) w).journal =
      ((p.visitsTo ts w).flatMap (Visit.account p)).reverse ++ w.journal := by
  induction ts generalizing w with
  | nil => rfl
  | cons t ts ih =>
      -- what this visit enters is below what the others enter, if there are any
      have hleft : ((Visit.of t w).left p).journal = _ := (Visit.of t w).journal_left p
      cases hescape : (Visit.of t w).escape? p with
      | none =>
          rw [visitsTo_cons_held hescape]
          change (p.leftBy _ ((Visit.of t w).left p)).journal = _
          rw [ih, hleft]
          simp [Visit.of]
      | some s =>
          rw [visitsTo_cons_escaped hescape]
          change ((Visit.of t w).left p).journal = _
          rw [hleft]
          simp [Visit.of]

/-! ## The publish -/

/-- The world inside the scope of the publish. -/
def inside (w : World) : World :=
  ((w.note (.published p.depth p.hub p.name)).counted p.hub .publish p.name).inside
    (Hub.publishFields p.name p.payload)

/-- The record with which the dispatch begins. -/
def openingRecord (w : World) : Log.Record :=
  let found := (w.registry (w.hub p.hub).registry).matching p.name
  if found.isEmpty then
    { logger := "mediator.event.bus", level := 10, message := .text "Mediator: no actors for event"
      attributes := [("event_name", .text p.name)], created := Log.sessionMoment }
  else
    { logger := "mediator.event.bus", level := 10, message := .text "Mediator: dispatching event"
      attributes :=
        [("event_name", .text p.name), ("pattern_count", .int found.length),
          ("actor_count", .int (found.flatMap (·.2)).length)]
      created := Log.sessionMoment }

/-- The world in which the first visit begins. -/
def opened (w : World) : World := (p.inside w).afterLog (p.openingRecord w)

/-- The visits of the publish. -/
def visits (w : World) : List Visit := p.visitsTo (p.listeners w) (p.opened w)

/-- What the publish enters into the journal before the first visit. -/
def opening (w : World) : List Occurrence :=
  .published p.depth p.hub p.name :: (p.inside w).records (p.openingRecord w)

/-- Entries without actors make no difference to whom a publish calls. -/
theorem targets_matching (w : World) :
    Hub.targets ((w.registry (w.hub p.hub).registry).matching p.name) p.name = p.listeners w := by
  have hempty := Registry.flatMap_filter_nonempty (w.registry (w.hub p.hub).registry).live (·.active)
    (·.matcher.test p.name) fun e => e.actors.map fun a => ((⟨p.name, e.matcher.source⟩ : Event), a)
  unfold Hub.targets Registry.matching listeners
  rw [List.flatMap_map, ← hempty]
  simp only [List.isEmpty_map]

theorem registry_inside (w : World) :
    ((p.inside w).registry ((p.inside w).hub p.hub).registry) = w.registry (w.hub p.hub).registry := by
  simp [inside, World.inside, World.registry, World.hub, World.note]

/-- **A publish by its visits**: it ends with the stop that they let through, if any, and leaves the log
context as it was. -/
theorem run_eq (w : World) :
    p.run w = (verdict (p.escape? (p.visits w)),
      { p.leftBy (p.visits w) (p.opened w) with context := w.context }) := by
  unfold run Hub.publish Hub.publishNamed
  rw [outcome_note_bind, outcome_bind_ok (outcome_count ..)]
  refine (outcome_inScope_of (r := verdict (p.escape? (p.visits w)))
    (v := p.leftBy (p.visits w) (p.opened w)) ?_).trans ?_
  · -- noting and counting the publish leave the hub and its registry alone
    change outcome (get >>= _) (p.inside w) = _
    rw [outcome_get_bind, registry_inside]
    have htargets := p.targets_matching w
    unfold visits opened openingRecord
    rw [← htargets]
    cases (w.registry (w.hub p.hub).registry).matching p.name with
    | nil =>
        -- nobody is visited, and nothing but the record is left to do
        simp only [List.isEmpty_nil, if_true]
        exact outcome_log rfl _
    | cons found more =>
        -- somebody is: the record is logged, and then the visits are made
        simp only [List.isEmpty_cons, Bool.false_eq_true, if_false]
        refine (outcome_bind_ok (outcome_log ?_ _) _).trans (p.outcome_forM_invoke _ _)
        rfl
  · rw [World.context_counted]
    rfl

/-! ## What happens during a publish -/

/-- What happens during the publish, from first to last. -/
def occurrences (w : World) : List Occurrence := w.since (p.run w).2

/-- What happens during a publish is its opening, and then what its visits enter. -/
theorem occurrences_eq (w : World) :
    p.occurrences w = p.opening w ++ (p.visits w).flatMap (Visit.account p) := by
  refine World.since_eq ?_
  rw [run_eq]
  change (p.leftBy (p.visits w) (p.opened w)).journal = _
  have hopened : (p.opened w).journal = (p.opening w).reverse ++ w.journal := by
    unfold opened opening
    rw [World.journal_afterLog]
    simp [inside, World.inside, World.note]
  rw [visits, journal_leftBy, hopened]
  simp

/-- The occurrences of the publish itself. -/
theorem filter_occurrences (w : World) :
    (p.occurrences w).filter (Occurrence.isAt p.depth) =
      .published p.depth p.hub p.name :: (p.visits w).flatMap (Visit.own p) := by
  have hpublished : (Occurrence.published p.depth p.hub p.name).isAt p.depth = true := by
    simp [Occurrence.isAt, Occurrence.depth?]
  rw [occurrences_eq, opening, List.cons_append, List.filter_cons_of_pos hpublished,
    List.filter_append, filter_isAt_records, List.nil_append, List.filter_flatMap]
  simp only [Visit.filter_account]

/-- The call of a target by the publish: the hub, the event, the payload and the actor. -/
def callTo (t : Event × Actor) : Nat × Event × Value × Actor := (p.hub, t.1, p.payload, t.2)

/-- The calls that the publish makes itself, by the journal. -/
def calls (w : World) : List (Nat × Event × Value × Actor) :=
  (p.occurrences w).filterMap (Occurrence.call? p.depth)

/-- The failures of its calls that the publish finds, by the journal. -/
def failures (w : World) : List (Nat × Event × Actor × Fault) :=
  (p.occurrences w).filterMap (Occurrence.failure? p.depth)

/-- What the publish tells error handlers, by the journal. -/
def errorsTold (w : World) : List (Nat × Fault) :=
  (p.occurrences w).filterMap (Occurrence.told? p.depth)

/-- What is read off the occurrences of the publish itself is read off its visits. -/
theorem filterMap_occurrences {α : Type} {f : Occurrence → Option α}
    (hf : ∀ o, o.isAt p.depth = false → f o = none)
    (hpublished : f (.published p.depth p.hub p.name) = none) (w : World) :
    (p.occurrences w).filterMap f = (p.visits w).flatMap fun x => (x.own p).filterMap f := by
  -- occurrences of other depths may be left out first
  have hown : (p.occurrences w).filterMap f =
      ((p.occurrences w).filter (Occurrence.isAt p.depth)).filterMap f := by
    rw [List.filterMap_filter]
    refine List.filterMap_congr fun o _ => ?_
    cases hat : o.isAt p.depth with
    | false => simpa using hf o hat
    | true => rfl
  rw [hown, filter_occurrences, List.filterMap_cons_none hpublished, List.filterMap_flatMap]

/-- The calls of a publish are those of its visits. -/
theorem calls_eq (w : World) : p.calls w = ((p.visits w).map Visit.target).map p.callTo := by
  -- each visit enters one call of the publish itself, whatever else happens during it
  have hown : ∀ x : Visit, (x.own p).filterMap (Occurrence.call? p.depth) = [p.callTo x.target] := by
    intro x
    unfold Visit.own
    cases x.failure? p <;> cases x.handler? p <;> simp [Occurrence.call?, callTo, Visit.target]
  unfold calls
  rw [p.filterMap_occurrences (fun _ => Occurrence.call?_of_not_isAt) rfl, List.map_map,
    List.map_eq_flatMap]
  simp only [hown]
  rfl

/-- Exactly the failing calls are found to fail, each once. -/
theorem failures_eq (w : World) :
    p.failures w = (p.visits w).filterMap fun x =>
      (x.failure? p).map fun f => (p.hub, x.event, x.actor, f) := by
  have hown : ∀ x : Visit, (x.own p).filterMap (Occurrence.failure? p.depth) =
      ((x.failure? p).map fun f => (p.hub, x.event, x.actor, f)).toList := by
    intro x
    unfold Visit.own
    cases x.failure? p <;> cases x.handler? p <;> simp [List.filterMap_cons, Occurrence.failure?]
  unfold failures
  rw [p.filterMap_occurrences (fun _ => Occurrence.failure?_of_not_isAt) rfl,
    List.filterMap_eq_flatMap_toList]
  simp only [hown]

/-- Exactly the failing calls are told to the error handlers that the hub has then, each once. -/
theorem errorsTold_eq (w : World) :
    p.errorsTold w = (p.visits w).filterMap fun x =>
      (x.failure? p).bind fun f => (x.handler? p).map fun _ => (p.hub, x.error f) := by
  have hown : ∀ x : Visit, (x.own p).filterMap (Occurrence.told? p.depth) =
      ((x.failure? p).bind fun f => (x.handler? p).map fun _ => (p.hub, x.error f)).toList := by
    intro x
    unfold Visit.own
    cases x.failure? p <;> cases x.handler? p <;> simp [List.filterMap_cons, Occurrence.told?]
  unfold errorsTold
  rw [p.filterMap_occurrences (fun _ => Occurrence.told?_of_not_isAt) rfl,
    List.filterMap_eq_flatMap_toList]
  simp only [hown]

/-- As many actors are called as the registry tells. -/
theorem length_listeners (w : World) :
    (w.registry (w.hub p.hub).registry).actorCountFor p.name = (p.listeners w).length := by
  rw [← targets_matching, Hub.targets, Registry.actorCountFor]
  simp [List.length_flatMap]

/-- A publish returns exactly if none of its visits lets a stop through. -/
theorem run_ok_iff (w : World) :
    (p.run w).1 = .ok ⟨⟩ ↔ ∀ x ∈ p.visits w, x.escape? p = none := by
  rw [run_eq, ← List.findSome?_eq_none_iff]
  unfold escape?
  cases (p.visits w).findSome? (·.escape? p) <;> simp

end Publication

/-! ## Main statements -/

/-- **A publish calls a snapshot.** The registry tells, just before a publish, how many actors it calls.
Either no visit lets a stop through; then the publish returns, and the calls that it made itself are those
of all the actors that the registry had for the event when it began, in order, each with its event and the
payload. Or a visit lets a stop through, because the call or the error handler ends with a request to stop
the program or nests too deeply; then the publish ends with it, and its calls are the first of them, up to
and with the call of that visit. The actors and handlers are arbitrary: they may publish in turn, and
change the registry, the handlers and the flags meanwhile. -/
theorem publish_calls_snapshot (p : Publication) (w : World) :
    (w.registry (w.hub p.hub).registry).actorCountFor p.name = (p.listeners w).length ∧
      (((p.run w).1 = .ok ⟨⟩ ∧ (∀ x ∈ p.visits w, x.escape? p = none) ∧
          p.calls w = (p.listeners w).map p.callTo) ∨
        ∃ before x s rest, p.visits w = before ++ [x] ∧ (∀ y ∈ before, y.escape? p = none) ∧
          x.escape? p = some s ∧ (s = .tooDeep ∨ ∃ f, s = .fault f ∧ f.isInterrupt = true) ∧
          (p.run w).1 = .error s ∧
          p.listeners w = before.map Visit.target ++ x.target :: rest ∧
          p.calls w = (before.map Visit.target ++ [x.target]).map p.callTo) := by
  refine ⟨p.length_listeners w, ?_⟩
  rcases p.visitsTo_cases (p.listeners w) (p.opened w) with
    ⟨hheld, hall⟩ | ⟨before, x, s, rest, hvisits, hheld, hx, hlisteners⟩
  · -- all targets are visited, and the publish returns
    refine .inl ⟨(p.run_ok_iff w).mpr hheld, hheld, ?_⟩
    rw [p.calls_eq w, Publication.visits, hall]
  · -- the last visit lets a stop through, with which the publish ends
    have hescape : p.escape? (p.visits w) = some s := by
      rw [Publication.visits, hvisits, Publication.escape?, List.findSome?_append,
        List.findSome?_eq_none_iff.mpr hheld]
      simp [hx]
    refine .inr ⟨before, x, s, rest, hvisits, hheld, hx, x.escape?_eq_some p hx, ?_,
      by simpa using hlisteners, ?_⟩
    · rw [p.run_eq w, hescape]
      rfl
    · rw [p.calls_eq w, Publication.visits, hvisits]
      simp

/-- **Failures are isolated.** A publish returns exactly if no call and no error handler asks the program
to stop or nests too deeply, and then every actor of the snapshot is called once. Whatever else the calls
and the handlers do, the publish finds exactly the failing calls to fail, and hands exactly their errors to
the error handler that the hub has when the call has ended, each once. What happens during the publish is,
visit by visit, the call and what it brings about and, for a failing call only, its one report: the
failure, its record, the run of the handler and, if that fails, the record of this, before the next visit
begins. -/
theorem publish_isolates_failures (p : Publication) (w : World) :
    ((p.run w).1 = .ok ⟨⟩ ↔ ∀ x ∈ p.visits w, Run.escape? (x.call p).1 = none ∧
        ∀ f h, x.failure? p = some f → x.handler? p = some h →
          Run.escape? (x.handling p f h).1 = none) ∧
      ((p.run w).1 = .ok ⟨⟩ → p.calls w = (p.listeners w).map p.callTo) ∧
      (p.failures w = (p.visits w).filterMap fun x =>
        (x.failure? p).map fun f => (p.hub, x.event, x.actor, f)) ∧
      (p.errorsTold w = (p.visits w).filterMap fun x =>
        (x.failure? p).bind fun f => (x.handler? p).map fun _ => (p.hub, x.error f)) ∧
      p.occurrences w = p.opening w ++ (p.visits w).flatMap (Visit.account p) := by
  have hreturns : (p.run w).1 = .ok ⟨⟩ ↔ ∀ x ∈ p.visits w, Run.escape? (x.call p).1 = none ∧
      ∀ f h, x.failure? p = some f → x.handler? p = some h →
        Run.escape? (x.handling p f h).1 = none := by
    rw [p.run_ok_iff w]
    exact forall₂_congr fun x _ => x.escape?_eq_none_iff p
  have hcalls : (p.run w).1 = .ok ⟨⟩ → p.calls w = (p.listeners w).map p.callTo := by
    intro hok
    rcases p.visitsTo_cases (p.listeners w) (p.opened w) with
      ⟨_, hall⟩ | ⟨before, x, s, _, hvisits, _, hx, _⟩
    · rw [p.calls_eq w, Publication.visits, hall]
    · -- a visit that lets a stop through would have ended the publish
      have hmem : x ∈ p.visits w := by simp [Publication.visits, hvisits]
      have hheld := (p.run_ok_iff w).mp hok x hmem
      simp [hx] at hheld
  exact ⟨hreturns, hcalls, p.failures_eq w, p.errorsTold_eq w, p.occurrences_eq w⟩

end EventHub
