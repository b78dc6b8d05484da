import EventHub.Proofs.Dispatch.Publish

/-! # The log context of a publish

A publish runs inside one scope of the log context, and each of its calls inside a further scope that
tells the pattern and the actor. Host code may change the context as it likes; leaving a scope gives back
the context that was found when it was entered, so that nothing of this is left for the next call, and
nothing of the publish is left for its caller.

Main statement: `publish_context_scoped`.
-/

namespace EventHub

/-! ## Fields of a scope -/

namespace Log

/-- A field inside a scope: that of the scope, or else the one around it; the correlation identifier is a
new one where there is none. -/
theorem find?_within {fields : Fields} (hkeys : (OrderedMap.keys fields).Nodup) (context : Fields)
    (fresh field : String) :
    (within context fields fresh).find? field =
      ((fields.find? field).or (context.find? field)).or
        (if field = correlationField then some (.text fresh) else none) := by
  have hmerged := OrderedMap.find?_insertAll hkeys context
  unfold within
  simp only
  rw [OrderedMap.contains_eq_isSome_find?]
  cases hfound : (OrderedMap.insertAll context fields).find? correlationField with
  | none =>
      -- neither the scope nor the context around it has an identifier, and the new one is bound
      simp only [Option.isSome_none, Bool.false_eq_true, if_false]
      rw [OrderedMap.find?_insert]
      by_cases hfield : field = correlationField
      · rw [if_pos hfield, if_pos hfield, ← hmerged, hfield, hfound]
        rfl
      · rw [if_neg hfield, if_neg hfield, hmerged, Option.or_none]
  | some id =>
      simp only [Option.isSome_some, if_true]
      rw [hmerged]
      by_cases hfield : field = correlationField
      · -- the identifier is there, and no new one is taken
        have hthere : (fields.find? field).or (context.find? field) = some id := by
          rw [← hmerged, hfield, hfound]
        rw [hthere]
        rfl
      · rw [if_neg hfield, Option.or_none]

end Log

/-- Logging leaves the log context as it is. -/
theorem World.context_afterLog (w : World) (r : Log.Record) : (w.afterLog r).context = w.context := by
  unfold World.afterLog World.logged
  split
  · rfl
  · cases w.sink? <;> rfl

/-- The start of a call at a depth: the event, the actor and the log context. -/
def Occurrence.start? (d : Nat) : Occurrence → Option (Event × Actor × Fields)
  | .called k _ event _ a context => if k = d then some (event, a, context) else none
  | _ => none

theorem Occurrence.start?_of_not_isAt {d : Nat} {o : Occurrence} (h : o.isAt d = false) :
    o.start? d = none := by
  cases o <;> simp_all [start?, isAt, depth?]

namespace Publication

open Run

variable (p : Publication)

/-- The log context that the calls of a publish have in common. A new correlation identifier is used where
the caller has none. -/
def scope (w : World) : Fields :=
  Log.within w.context (Hub.publishFields p.name p.payload) (Log.generatedId (w.correlations + 1))

/-- The starts of the calls that the publish makes itself, by the journal. -/
def starts (w : World) : List (Event × Actor × Fields) :=
  (p.occurrences w).filterMap (Occurrence.start? p.depth)

/-- A field in the scope of a publish: its own, or that of its caller, or else the new identifier. -/
theorem find?_scope (w : World) (field : String) :
    (p.scope w).find? field =
      (((Hub.publishFields p.name p.payload).find? field).or (w.context.find? field)).or
        (if field = Log.correlationField then some (.text (Log.generatedId (w.correlations + 1)))
          else none) := by
  have hkeys : (OrderedMap.keys (Hub.publishFields p.name p.payload)).Nodup := by
    simp [OrderedMap.keys, Hub.publishFields]
  exact Log.find?_within hkeys w.context _ field

/-- The first visit begins in the scope of the publish. -/
theorem context_opened (w : World) : (p.opened w).context = p.scope w := by
  unfold opened
  rw [World.context_afterLog]
  -- counting the publish uses up no identifier
  have hcorrelations : ((w.note (.published p.depth p.hub p.name)).counted p.hub .publish p.name).correlations =
      w.correlations := by
    unfold World.counted
    split <;> rfl
  unfold inside World.inside scope
  rw [World.context_counted, hcorrelations]
  rfl

/-- By induction on the targets: a visit gives back the context in which it began. -/
theorem context_before (ts : List (Event × Actor)) (w : World) :
    ∀ x ∈ p.visitsTo ts w, x.before.context = w.context := by
  induction ts generalizing w with
  | nil => simp [visitsTo]
  | cons t ts ih =>
      intro x hx
      cases hescape : (Visit.of t w).escape? p with
      | none =>
          -- the visit leaves its scope, and gives back the context that it found
          rw [visitsTo_cons_held hescape] at hx
          rcases List.mem_cons.mp hx with rfl | hx
          · rfl
          · exact ih ((Visit.of t w).left p) x hx
      | some s =>
          rw [visitsTo_cons_escaped hescape] at hx
          obtain rfl : x = Visit.of t w := by simpa using hx
          rfl

/-- However a publish ends, also if its name is refused, the context after it is that before it. -/
theorem context_publish (name : Value) (w : World) :
    (outcome (Hub.publish p.nested p.depth p.hub name p.payload) w).2.context = w.context := by
  cases name with
  | text name =>
      have hrun := ({ p with name := name } : Publication).run_eq w
      exact congrArg (fun r : Except Stop Unit × World => r.2.context) hrun
  | _ => rfl

/-- By the journal, a publish starts each of its visits once. -/
theorem starts_eq (w : World) :
    p.starts w = (p.visits w).map fun x => (x.event, x.actor, (x.start p).context) := by
  -- each visit enters one start of the publish itself
  have hown : ∀ x : Visit, (x.own p).filterMap (Occurrence.start? p.depth) =
      [(x.event, x.actor, (x.start p).context)] := by
    intro x
    unfold Visit.own
    cases x.failure? p <;> cases x.handler? p <;>
      simp [Occurrence.start?, Visit.start, World.note]
  unfold starts
  rw [p.filterMap_occurrences (fun _ => Occurrence.start?_of_not_isAt) rfl, List.map_eq_flatMap]
  simp only [hown]

end Publication

/-- A call starts in the context around the visit, with the pattern and the actor set. -/
theorem Visit.find?_context_start (p : Publication) (x : Visit) (field : String)
    (hcorrelated : x.before.context.contains Log.correlationField = true) :
    (x.start p).context.find? field =
      ((Hub.actorFields x.event x.actor).find? field).or (x.before.context.find? field) := by
  have hkeys : (OrderedMap.keys (Hub.actorFields x.event x.actor)).Nodup := by
    simp [OrderedMap.keys, Hub.actorFields]
  have hstart : (x.start p).context =
      Log.within x.before.context (Hub.actorFields x.event x.actor)
        (Log.generatedId ((x.before.counted p.hub .call x.event.name).correlations + 1)) := by
    change Log.within (x.before.counted p.hub .call x.event.name).context _ _ = _
    rw [World.context_counted]
  rw [hstart, Log.find?_within hkeys]
  by_cases hfield : field = Log.correlationField
  · -- there is an identifier already
    rw [OrderedMap.contains_eq_isSome_find?, ← hfield] at hcorrelated
    obtain ⟨id, hid⟩ := Option.isSome_iff_exists.mp hcorrelated
    rw [hid]
    cases (Hub.actorFields x.event x.actor).find? field <;> rfl
  · rw [if_neg hfield, Option.or_none]

/-- **The log context of a publish is scoped.** However a publish ends, and whatever actors and handlers do
to the log context meanwhile, the context after it is that before it. The calls that it makes all start in
one context of the publish, each with its own pattern and actor set: this context has the fields of the
publish, the further fields of the caller, and the correlation identifier of the caller or else a new
one. -/
theorem publish_context_scoped (p : Publication) (w : World) :
    (∀ name : Value,
        (Run.outcome (Hub.publish p.nested p.depth p.hub name p.payload) w).2.context = w.context) ∧
      (∀ field, (p.scope w).find? field =
        (((Hub.publishFields p.name p.payload).find? field).or (w.context.find? field)).or
          (if field = Log.correlationField then some (.text (Log.generatedId (w.correlations + 1)))
            else none)) ∧
      (p.starts w = (p.visits w).map fun x => (x.event, x.actor, (x.start p).context)) ∧
      ∀ x ∈ p.visits w, ∀ field, (x.start p).context.find? field =
        ((Hub.actorFields x.event x.actor).find? field).or ((p.scope w).find? field) := by
  refine ⟨fun name => p.context_publish name w, p.find?_scope w, p.starts_eq w, ?_⟩
  intro x hx field
  have hbefore : x.before.context = p.scope w := by
    rw [p.context_before (p.listeners w) (p.opened w) x hx, p.context_opened w]
  have hcorrelated : (p.scope w).contains Log.correlationField = true := by
    rw [OrderedMap.contains_eq_isSome_find?, p.find?_scope w, if_pos rfl]
    simp
  rw [x.find?_context_start p field (hbefore ▸ hcorrelated), hbefore]

end EventHub
