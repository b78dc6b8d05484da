import EventHub.Proofs.Dispatch.Scope
import EventHub.Proofs.Session.Invariants
import EventHub.Proofs.Session.Stamps

/-! # The lines of a dispatch

While a publish runs, records are logged by the hub, by actors and error handlers, and by the publishes that
these make in turn. `Publication.lines` lists them from first to last, each with what was under way when it
was logged: the innermost publish, and the call that this publish was making. The list follows the host
code down to any depth, and reads the frames off the recursion and not off the log context.

Main statement: `publish_lines_tell`. As long as host code leaves the log context as it is, the dispatch
fields of every record tell what was under way.
-/

namespace EventHub

open Run

/-! ## Frames and lines -/

/-- What is under way when a record is logged: the innermost publish, by the name of its event, and the call
that it is making, by pattern and actor, if it is making one. -/
structure Frame where
  event : String
  call? : Option (String × String) := none

/-- The dispatch fields that tell what is under way. -/
def Frame.fields (frame : Frame) (correlation : Value) : Fields :=
  [("correlation_id", correlation), ("component", .text "mediator"), ("operation", .text "publish"),
    ("event_name", .text frame.event), ("pattern", .text (frame.call?.elim Log.missingMark (·.1))),
    ("actor_id", .text (frame.call?.elim Log.missingMark (·.2)))]

/-- A record, with what was under way when it was logged. -/
structure Line where
  frame : Frame
  record : Log.Record

/-- The dispatch fields of the record tell what was under way. -/
def Line.Tells (l : Line) (correlation : Value) : Prop :=
  ∀ b ∈ l.frame.fields correlation, l.record.attributes.find? b.1 = some b.2

/-- The record that was logged. -/
def Occurrence.record? : Occurrence → Option Log.Record
  | .logged r => some r
  | _ => none

/-- The records among occurrences during which nothing else was under way. -/
def Frame.lines (frame : Frame) (os : List Occurrence) : List Line :=
  (os.filterMap Occurrence.record?).map (⟨frame, ·⟩)

/-! ## The lines of host code

Which records host code logs is asked of `host`, until the recursion is closed over the levels of nesting
that are left. -/

namespace Visit

variable (p : Publication) (x : Visit)

/-- During a visit, the call of its actor is under way. -/
def frame : Frame := ⟨p.name, some (x.event.pattern, x.actor.identifier)⟩

/-- The records of a visit: of the body of the actor, of the report of its failure, of the error handler,
and of the report of the handler's failure. -/
def lines (host : Frame → Task → List Line) : List Line :=
  (x.bodyTask? p).elim [] (host (x.frame p)) ++
    (x.failure? p).elim [] fun f =>
      (x.frame p).lines ((x.call p).2.since (x.reported p f)) ++
        (x.handler? p).elim [] fun h =>
          host (x.frame p) (x.handlerTask p f h) ++
            (x.frame p).lines ((x.handling p f h).2.since (x.told p f h))

end Visit

/-- The records of a publish: of its beginning, when no call is under way, and of its visits. -/
def Publication.linesBy (host : Frame → Task → List Line) (p : Publication) (w : World) : List Line :=
  Frame.lines ⟨p.name, none⟩ (w.since (p.opened w)) ++ (p.visits w).flatMap (Visit.lines p · host)

/-- The records of a step: those of its publishes, and those of the emitter that it runs; or else its own.
-/
def Step.lines (host : Frame → Task → List Line) (frame : Frame) (s : Step) : List Line :=
  if s.command.isPlain then frame.lines (s.world.since s.left)
  else s.publications.flatMap (fun (p, w) => p.linesBy host w) ++ s.emitterTask?.elim [] (host frame)

/-- The records of host code whose commands are carried out at a depth with some levels left. -/
def Task.lines : Nat → Nat → Frame → Task → List Line
  | 0, _, _, _ => []
  | fuel + 1, depth, frame, t =>
    (t.code.requests (Session.perform depth (fuel + 1)) t.world).flatMap fun (c, w) =>
      Step.lines (Task.lines fuel (depth + 1)) frame ⟨depth, fuel, c, w⟩

namespace Publication

variable (p : Publication)

/-- The records of a publish, from first to last, each with what was under way. -/
def lines (w : World) : List Line := p.linesBy (Task.lines p.fuel (p.depth + 1)) w

/-- The steps of the host code that runs during a publish. -/
def steps (w : World) : List Step :=
  (p.visits w).flatMap fun x => (x.tasks p).flatMap (Task.steps p.fuel (p.depth + 1))

end Publication

/-- The correlation identifier of a publish that begins in a world: the one that is bound there, or else a
new one. -/
def World.correlationId (w : World) : Value :=
  (w.context.find? Log.correlationField).getD (.text (Log.generatedId (w.correlations + 1)))

/-- A step that is about the log context leaves it as it is. -/
def Step.KeepsContext (s : Step) : Prop :=
  ∀ c, s.command = .context c → s.left.context = s.world.context

/-! ## Stamped records -/

namespace Log.Record

/-- Stamping one field after another is stamping each of them, as the names are different. -/
theorem find?_foldl_stamp (context : Fields) (name : String) {names : List String} (h : names.Nodup)
    (attributes : Fields) :
    (names.foldl (fun attributes name =>
        OrderedMap.insert attributes name (stampOf context attributes name)) attributes).find? name =
      if name ∈ names then some (stampOf context attributes name) else attributes.find? name := by
  induction names generalizing attributes with
  | nil => simp
  | cons first names ih =>
      obtain ⟨hfirst, h⟩ := List.nodup_cons.mp h
      rw [List.foldl_cons, ih h]
      by_cases hname : name = first
      · subst hname
        rw [if_neg hfirst, if_pos (by simp), OrderedMap.find?_insert, if_pos rfl]
      · -- the first stamp is on another field
        have hfind : ∀ v, (OrderedMap.insert attributes first v).find? name =
            OrderedMap.find? attributes name := fun v =>
          (OrderedMap.find?_insert attributes first name v).trans (if_neg hname)
        have hstamp : ∀ v, stampOf context (OrderedMap.insert attributes first v) name =
            stampOf context attributes name := fun v => by
          unfold stampOf attribute?
          rw [hfind]
        rw [hstamp, hfind]
        exact if_congr (by simp [hname]) rfl rfl

theorem find?_stamped (context : Fields) (r : Record) {name : String} (h : name ∈ dispatchFields) :
    (r.stamped context).attributes.find? name = some (stampOf context r.attributes name) := by
  have hnodup : dispatchFields.Nodup := by decide
  exact (find?_foldl_stamp context name hnodup r.attributes).trans (if_pos h)

theorem attribute?_of_find? {fields : Fields} {name s : String} (h : fields.find? name = some (.text s)) :
    attribute? fields name = some (.text s) := by
  unfold attribute?
  rw [h]

end Log.Record

/-- A log context tells what is under way. -/
def Frame.Bound (frame : Frame) (correlation : Value) (context : Fields) : Prop :=
  ∀ b ∈ frame.fields correlation, Log.Record.attribute? context b.1 = some b.2

namespace Frame

variable {frame : Frame} {correlation : Value} {context : Fields}

theorem mem_dispatchFields {b : String × Value} (h : b ∈ frame.fields correlation) :
    b.1 ∈ Log.dispatchFields := by
  simp only [fields, List.mem_cons, List.not_mem_nil, or_false] at h
  rcases h with rfl | rfl | rfl | rfl | rfl | rfl <;> simp [Log.dispatchFields]

/-- What the context tells wins over what a record brings along. -/
theorem Bound.tells (h : frame.Bound correlation context) (r : Log.Record) :
    Line.Tells ⟨frame, r.stamped context⟩ correlation := by
  intro b hb
  rw [Log.Record.find?_stamped context r (mem_dispatchFields hb)]
  simp only [Log.Record.stampOf, h b hb]

end Frame

/-- An attribute that is told is there, and is not nothing. -/
theorem Log.Record.find?_of_attribute? {fields : Fields} {name : String} {v : Value}
    (h : attribute? fields name = some v) : fields.find? name = some v ∧ v ≠ .none := by
  unfold attribute? at h
  cases hfind : fields.find? name with
  | none => simp [hfind] at h
  | some u =>
      rw [hfind] at h
      cases u with
      | none => simp at h
      | _ => cases h; exact ⟨rfl, Value.noConfusion⟩

/-! ## Narration -/

/-- Between two worlds with the same log context exactly some lines were logged, and all of them tell what
was under way. -/
structure World.Narrates (correlation : Value) (w v : World) (ls : List Line) : Prop where
  journal : ∃ os : List Occurrence, v.journal = os.reverse ++ w.journal ∧
    os.filterMap Occurrence.record? = ls.map (·.record)
  tells : ∀ l ∈ ls, l.Tells correlation
  context : v.context = w.context

namespace World.Narrates

variable {correlation : Value} {w v u : World} {ls ls' : List Line}

/-- Nothing was logged. -/
theorem silent (os : List Occurrence) (hjournal : v.journal = os.reverse ++ w.journal)
    (hos : os.filterMap Occurrence.record? = []) (hcontext : v.context = w.context) :
    w.Narrates correlation v [] := ⟨⟨os, hjournal, hos⟩, by simp, hcontext⟩

/-- Nothing was logged. -/
theorem refl (w : World) : w.Narrates correlation w [] := silent [] rfl rfl rfl

/-- Lines after lines. -/
theorem trans (h : w.Narrates correlation v ls) (h' : v.Narrates correlation u ls') :
    w.Narrates correlation u (ls ++ ls') := by
  obtain ⟨os, hos, hrecords⟩ := h.journal
  obtain ⟨os', hos', hrecords'⟩ := h'.journal
  refine ⟨⟨os ++ os', by simp [hos, hos'], by simp [hrecords, hrecords']⟩, fun l hl => ?_,
    h'.context.trans h.context⟩
  rcases List.mem_append.mp hl with hl | hl
  · exact h.tells l hl
  · exact h'.tells l hl

/-- A silent beginning. -/
theorem after (h : w.Narrates correlation v []) (h' : v.Narrates correlation u ls) :
    w.Narrates correlation u ls := h.trans h'

theorem note {o : Occurrence} (ho : o.record? = none) (w : World) :
    w.Narrates correlation (w.note o) [] :=
  silent [o] rfl (by simp [ho]) rfl

/-- Records that are stamped from a context that tells what is under way. -/
theorem of_stamps {frame : Frame} (h : w.Stamps v) (hbound : frame.Bound correlation w.context) :
    w.Narrates correlation v (frame.lines (w.since v)) := by
  obtain ⟨os, hos, hstamped⟩ := h.journal
  rw [World.since_eq hos]
  refine ⟨⟨os, hos, by simp [Frame.lines, Function.comp_def]⟩, fun l hl => ?_, h.context⟩
  obtain ⟨r, hr, rfl⟩ := List.mem_map.mp hl
  obtain ⟨o, ho, hor⟩ := List.mem_filterMap.mp hr
  -- only what was logged is a line
  cases o with
  | logged r' =>
      cases hor
      obtain ⟨r', rfl⟩ := hstamped r ho
      exact hbound.tells r'
  | _ => cases hor

end World.Narrates

/-! ## Host code -/

section

variable {correlation : Value}

/-- Host code goes from command to command in one context, and its answers are no records. -/
theorem Behaviour.narrates (nested : Perform) (lines : Command Behaviour × World → List Line) (b : Behaviour)
    (w : World)
    (h : ∀ x ∈ b.requests nested w, x.2.context = w.context →
      x.2.Narrates correlation (outcome (nested x.1) x.2).2 (lines x)) :
    w.Narrates correlation (outcome (b.run nested) w).2 ((b.requests nested w).flatMap lines) :=
  Behaviour.run_along (R := fun w ls v => w.Narrates correlation v ls) .refl .trans
    (fun w r => .note (o := .answered r) rfl w) nested lines b w
    fun x hx hbefore => h x hx (hbefore.elim fun _ hnarrates => hnarrates.context)

/-- A body begins when its run is counted and in the journal. -/
theorem Hub.narrates_callTask {c : Callable Behaviour} {serial : Nat} {awaited : Bool} {args : List Value}
    {named : Fields} {w : World} {t : Task} (h : callTask? c serial awaited args named w = some t) :
    w.Narrates correlation t.world [] := by
  -- the run is in the journal, and no record
  have hbody : ∀ bound, w.Narrates correlation (bodyTask c serial bound w).world [] := fun bound =>
    .silent [.ran c.label bound w.context c.showsContext] rfl rfl rfl
  unfold callTask? at h
  split at h
  · cases h
    exact hbody _
  · split at h
    · cases h
      exact hbody _
    · cases h
  · cases h

/-- The records of a call are those of the body that it runs. -/
theorem Hub.narrates_call {nested : Perform} {c : Callable Behaviour} {serial : Nat} {awaited : Bool}
    {args : List Value} {named : Fields} {w : World} {host : Task → List Line}
    (htask : ∀ t ∈ callTask? c serial awaited args named w, t.world.context = w.context →
      t.world.Narrates correlation (outcome (t.code.run nested) t.world).2 (host t)) :
    w.Narrates correlation (outcome (call nested c serial awaited args named) w).2
      ((callTask? c serial awaited args named w).elim [] host) := by
  cases hbody : callTask? c serial awaited args named w with
  | none =>
      rw [left_call_of_no_task hbody]
      exact .refl w
  | some t =>
      have ht : w.Narrates correlation t.world [] := narrates_callTask hbody
      rw [outcome_call_of_task hbody]
      exact ht.after (htask t hbody ht.context)

/-! ## Visits -/

theorem Publication.find?_scope_of (p : Publication) (w : World) {field : String} {v : Value}
    (h : (Hub.publishFields p.name p.payload).find? field = some v) : (p.scope w).find? field = some v := by
  rw [p.find?_scope, h]
  rfl

/-- The identifier of a publish is in its scope. -/
theorem Publication.identifier_scope (p : Publication) {w : World} (hsome : w.correlationId ≠ .none) :
    Log.Record.attribute? (p.scope w) Log.correlationField = some w.correlationId := by
  have hfind : (p.scope w).find? Log.correlationField = some w.correlationId := by
    -- the identifier comes from the context around the publish, or is new
    rw [p.find?_scope, World.correlationId, if_pos rfl]
    cases w.context.find? Log.correlationField <;>
      simp [Hub.publishFields, OrderedMap.find?, Log.correlationField]
  unfold Log.Record.attribute?
  rw [hfind]
  cases hid : w.correlationId with
  | none => exact absurd hid hsome
  | _ => rfl

namespace Visit

variable {p : Publication} {x : Visit}

/-- During a visit the context tells the call of the actor. -/
theorem bound_start {w : World} (hx : x ∈ p.visits w)
    (hcorrelation : Log.Record.attribute? (p.scope w) Log.correlationField = some correlation) :
    (x.frame p).Bound correlation (x.start p).context := by
  -- the context before the visit is the scope of the publish
  have hbefore : x.before.context = p.scope w := by
    rw [p.context_before (p.listeners w) (p.opened w) x hx, p.context_opened w]
  have hcorrelated : (p.scope w).contains Log.correlationField = true := by
    rw [OrderedMap.contains_eq_isSome_find?]
    unfold Log.Record.attribute? at hcorrelation
    cases hfound : (p.scope w).find? Log.correlationField with
    | none => simp [hfound] at hcorrelation
    | some v => rfl
  have hstart := fun field => x.find?_context_start p field (hbefore ▸ hcorrelated)
  rw [hbefore] at hstart
  -- a field of the publish that the actor does not set
  have hpublish : ∀ field s, (Hub.actorFields x.event x.actor).find? field = none →
      (Hub.publishFields p.name p.payload).find? field = some (.text s) →
        Log.Record.attribute? (x.start p).context field = some (.text s) := by
    intro field s hactor hfield
    refine Log.Record.attribute?_of_find? ?_
    rw [hstart, hactor, Option.none_or, p.find?_scope_of w hfield]
  intro b hb
  simp only [Frame.fields, frame, List.mem_cons, List.not_mem_nil, or_false] at hb
  rcases hb with rfl | rfl | rfl | rfl | rfl | rfl
  · -- the identifier is that of the publish
    unfold Log.Record.attribute? at hcorrelation ⊢
    rw [hstart]
    exact hcorrelation
  · exact hpublish _ _ rfl rfl
  · exact hpublish _ _ rfl rfl
  · exact hpublish _ _ rfl rfl
  · exact Log.Record.attribute?_of_find? (by rw [hstart]; rfl)
  · exact Log.Record.attribute?_of_find? (by rw [hstart]; rfl)

/-- Counting logs nothing. -/
theorem stamps_counted (w : World) (n : Nat) (what : Counted) (name : String) :
    w.Stamps (w.counted n what name) := by
  unfold World.counted
  split
  · exact .of_effect (e := .tally _ _) (by simp) w
  · exact .refl w

/-- The report of a failure is stamped. -/
theorem stamps_reported (p : Publication) (x : Visit) (f : Fault) :
    (x.call p).2.Stamps (x.reported p f) := by
  have hnoted : (x.call p).2.Stamps ((x.call p).2.note (.failed p.depth p.hub x.event x.actor f)) :=
    .of_effect (e := .note (.failed p.depth p.hub x.event x.actor f)) (by simp) _
  exact (hnoted.trans (stamps_counted _ ..)).trans (.afterLog _ _)

/-- The report that an error handler failed is stamped. -/
theorem stamps_told (p : Publication) (x : Visit) (f : Fault) (h : InstalledHandler) :
    (x.handling p f h).2.Stamps (x.told p f h) := by
  unfold told
  cases Run.failure? (x.handling p f h).1 with
  | none => exact .refl _
  | some g => exact .afterLog _ _

/-- A visit logs its lines, if its host code logs its own. -/
theorem narrates {host : Frame → Task → List Line}
    (hbound : (x.frame p).Bound correlation (x.start p).context)
    (htasks : ∀ t ∈ x.tasks p, t.world.context = (x.start p).context →
      t.world.Narrates correlation (outcome (t.code.run p.nested) t.world).2 (host (x.frame p) t)) :
    (x.start p).Narrates correlation (x.settled p) (x.lines p host) := by
  have hcall : (x.start p).Narrates correlation (x.call p).2
      ((x.bodyTask? p).elim [] (host (x.frame p))) :=
    Hub.narrates_call fun t ht => htasks t (List.mem_append_left _ (Option.mem_toList.mpr ht))
  unfold lines settled
  -- the records of the visit come in parts: the call, the report, the handler, its own report
  cases hfailure : x.failure? p with
  | none => simpa using hcall
  | some f =>
      simp only [Option.elim_some]
      have hreported : (x.call p).2.Narrates correlation (x.reported p f) _ :=
        .of_stamps (x.stamps_reported p f) (hcall.context ▸ hbound)
      have hcontext : (x.reported p f).context = (x.start p).context :=
        hreported.context.trans hcall.context
      refine hcall.trans (hreported.trans ?_)
      cases hhandler : x.handler? p with
      | none => exact .refl _
      | some h =>
          simp only [Option.elim_some]
          have htask : x.handlerTask p f h ∈ x.tasks p := by
            simp [tasks, handlerTask?, hfailure, hhandler]
          have hstart : (x.reported p f).Narrates correlation (x.handlerStart p f h) [] :=
            .silent [.handled p.depth p.hub (x.error f) (x.reported p f).context
              h.handler.showsContext] rfl rfl rfl
          have hhandling : (x.handlerStart p f h).Narrates correlation (x.handling p f h).2 _ :=
            htasks _ htask (hstart.context.trans hcontext)
          refine (hstart.after hhandling).trans (.of_stamps (x.stamps_told p f h) ?_)
          rw [hhandling.context, hstart.context, hcontext]
          exact hbound

end Visit

/-! ## Publishes -/

namespace Publication

variable {p : Publication}

/-- Visits log their lines one after another; each gives back the context in which it began. -/
theorem narrates_visitsTo {host : Frame → Task → List Line} (ts : List (Event × Actor)) (w : World)
    (h : ∀ x ∈ p.visitsTo ts w,
      (x.start p).Narrates correlation (x.settled p) (x.lines p host)) :
    w.Narrates correlation (p.leftBy (p.visitsTo ts w) w)
      ((p.visitsTo ts w).flatMap (Visit.lines p · host)) := by
  -- entering and leaving the scope of a visit logs nothing
  have hvisit : ∀ x : Visit, (x.start p).Narrates correlation (x.settled p) (x.lines p host) →
      x.before.Narrates correlation (x.left p) (x.lines p host) := by
    intro x hx
    obtain ⟨os, hos, hrecords⟩ := hx.journal
    refine ⟨⟨.called p.depth p.hub x.event p.payload x.actor (x.inside p).context :: os, ?_, ?_⟩,
      hx.tells, rfl⟩
    · change (x.settled p).journal = _
      rw [hos]
      simp [Visit.start, Visit.inside, World.inside, World.note]
    · rw [← hrecords]
      rfl
  induction ts generalizing w with
  | nil => exact .refl w
  | cons t ts ih =>
      -- a visit that lets a stop through is the last one
      cases hescape : (Visit.of t w).escape? p with
      | none =>
          rw [visitsTo_cons_held hescape] at h ⊢
          have hfirst := hvisit _ (h (Visit.of t w) (by simp))
          exact hfirst.trans (ih _ fun x hx => h x (List.mem_cons_of_mem _ hx))
      | some s =>
          rw [visitsTo_cons_escaped hescape] at h ⊢
          have honly := hvisit _ (h (Visit.of t w) (by simp))
          simpa [leftBy, Visit.of] using honly

/-- Before any call, records bring along neither a pattern nor an actor, and none is told. -/
theorem tells_openingRecord (w : World)
    (hcorrelation : Log.Record.attribute? (p.scope w) Log.correlationField = some correlation) :
    Line.Tells ⟨⟨p.name, none⟩, (p.openingRecord w).stamped (p.scope w)⟩ correlation := by
  -- the record brings neither
  have hattributes : ∀ name ∈ ["pattern", "actor_id"],
      (p.openingRecord w).attributes.find? name = none := by
    unfold openingRecord
    dsimp only
    split <;> simp [OrderedMap.find?]
  have hpublish : ∀ field s, (Hub.publishFields p.name p.payload).find? field = some (.text s) →
      Log.Record.stampOf (p.scope w) (p.openingRecord w).attributes field = .text s := by
    intro field s hfield
    unfold Log.Record.stampOf
    rw [Log.Record.attribute?_of_find? (p.find?_scope_of w hfield)]
  have hmissing : ∀ name ∈ ["pattern", "actor_id"],
      (Hub.publishFields p.name p.payload).find? name = some .none →
        Log.Record.stampOf (p.scope w) (p.openingRecord w).attributes name = .text Log.missingMark := by
    intro name hname hfield
    unfold Log.Record.stampOf Log.Record.attribute?
    rw [p.find?_scope_of w hfield, hattributes name hname]
    rfl
  intro b hb
  rw [Log.Record.find?_stamped _ _ (Frame.mem_dispatchFields hb)]
  simp only [Frame.fields, List.mem_cons, List.not_mem_nil, or_false] at hb
  refine congrArg some ?_
  rcases hb with rfl | rfl | rfl | rfl | rfl | rfl
  · unfold Log.Record.stampOf
    rw [show Log.Record.attribute? (p.scope w) "correlation_id" = _ from hcorrelation]
  · exact hpublish _ _ rfl
  · exact hpublish _ _ rfl
  · exact hpublish _ _ rfl
  · exact hmissing _ (by simp) rfl
  · exact hmissing _ (by simp) rfl

/-- A publish logs its lines, if its host code logs its own. -/
theorem narrates {host : Frame → Task → List Line} {w : World}
    (hcorrelation : w.correlationId = correlation) (hsome : correlation ≠ .none)
    (htasks : ∀ x ∈ p.visits w, ∀ t ∈ x.tasks p, ∀ frame : Frame,
      frame.Bound correlation t.world.context →
        t.world.Narrates correlation (outcome (t.code.run p.nested) t.world).2 (host frame t)) :
    w.Narrates correlation (p.run w).2 (p.linesBy host w) := by
  have hscope : Log.Record.attribute? (p.scope w) Log.correlationField = some correlation :=
    hcorrelation ▸ p.identifier_scope (hcorrelation ▸ hsome)
  have hvisits : (p.opened w).Narrates correlation (p.leftBy (p.visits w) (p.opened w))
      ((p.visits w).flatMap (Visit.lines p · host)) :=
    narrates_visitsTo _ _ fun x hx => by
      have hbound := Visit.bound_start hx hscope
      exact Visit.narrates hbound fun t ht hcontext => htasks x hx t ht _ (hcontext ▸ hbound)
  have hopened : (p.opened w).journal = (p.opening w).reverse ++ w.journal := by
    unfold opened opening
    rw [World.journal_afterLog]
    simp [inside, World.inside, World.note]
  obtain ⟨os, hos, hrecords⟩ := hvisits.journal
  unfold linesBy
  rw [World.since_eq hopened, run_eq]
  refine ⟨⟨p.opening w ++ os, ?_, ?_⟩, fun l hl => ?_, rfl⟩
  · change (p.leftBy (p.visits w) (p.opened w)).journal = _
    rw [hos, hopened]
    simp
  · simp [Frame.lines, hrecords, Function.comp_def]
  · rcases List.mem_append.mp hl with hl | hl
    · -- the record with which the dispatch begins
      have hcontext : (p.inside w).context = p.scope w := by
        rw [← World.context_afterLog (p.inside w) (p.openingRecord w)]
        exact p.context_opened w
      obtain ⟨r, hr, rfl⟩ := List.mem_map.mp hl
      unfold opening World.records at hr
      rw [hcontext] at hr
      split at hr
      · simp [Occurrence.record?] at hr
      · obtain rfl : r = _ := by simpa [Occurrence.record?, eq_comm] using hr
        exact tells_openingRecord w hscope
    · exact hvisits.tells l hl

/-- Repeated publishes all begin in the same context, with its identifier. -/
theorem narrates_repeats {host : Frame → Task → List Line} (hsome : correlation ≠ .none) (times : Nat)
    (w : World) (hcorrelation : w.context.find? Log.correlationField = some correlation)
    (htasks : ∀ v ∈ p.repeats times w, ∀ x ∈ p.visits v, ∀ t ∈ x.tasks p, ∀ frame : Frame,
      frame.Bound correlation t.world.context →
        t.world.Narrates correlation (outcome (t.code.run p.nested) t.world).2 (host frame t)) :
    w.Narrates correlation
      (outcome (Hub.publishTimes p.nested p.depth p.hub (.text p.name) p.payload times) w).2
      ((p.repeats times w).flatMap (p.linesBy host)) := by
  induction times generalizing w with
  | zero => exact .refl w
  | succ times ih =>
      unfold repeats at htasks ⊢
      have hid : w.correlationId = correlation := by rw [World.correlationId, hcorrelation]; rfl
      have hfirst := narrates hid hsome (htasks w (by simp))
      have hrun : outcome (Hub.publish p.nested p.depth p.hub (.text p.name) p.payload) w = p.run w := rfl
      unfold Hub.publishTimes
      rw [outcome_bind, hrun, List.flatMap_cons]
      -- a publish that does not return is the last one
      rcases hw : p.run w with ⟨stop | _, v⟩
      · simp only [hw] at hfirst ⊢
        simpa using hfirst
      · simp only [hw] at hfirst htasks ⊢
        refine hfirst.trans (ih v (hfirst.context ▸ hcorrelation) fun u hu => htasks u ?_)
        exact List.mem_cons_of_mem _ hu

end Publication

/-! ## Steps -/

namespace Step

variable {s : Step} {host : Frame → Task → List Line} {frame : Frame}

/-- Commands on the log context log nothing. -/
theorem narrates_context {c : ContextCommand} (hcommand : s.command = .context c) (hkeeps : s.KeepsContext) :
    s.world.Narrates correlation s.left (frame.lines (s.world.since s.left)) := by
  have hdoes : Does Session.contextKinds (Session.step s.nested s.depth s.command) s.world := by
    rw [hcommand]
    exact Session.context_does c
  -- no record is among the effects of these commands
  have hnone : (s.world.since s.left).filterMap Occurrence.record? = [] := by
    refine List.filterMap_eq_nil_iff.mpr fun o ho => ?_
    have hkind := hdoes.since o ho
    cases o with
    | logged r => simp at hkind
    | _ => rfl
  have hlines : frame.lines (s.world.since s.left) = [] := by
    unfold Frame.lines
    rw [hnone]
    rfl
  rw [hlines]
  exact .silent _ hdoes.journal_since hnone (hkeeps c hcommand)

/-- A step without host code logs what it logs itself, in the context that it keeps. -/
theorem narrates_plain (hplain : s.command.isPlain = true) (hkeeps : s.KeepsContext)
    (hbound : frame.Bound correlation s.world.context) :
    s.world.Narrates correlation s.left (s.lines host frame) := by
  unfold lines
  rw [if_pos hplain]
  by_cases hcontext : ∃ c, s.command = .context c
  · obtain ⟨c, hcommand⟩ := hcontext
    exact narrates_context hcommand hkeeps
  · have hstamping := Session.stamping_step s.nested s.depth hplain fun c hc => hcontext ⟨c, hc⟩
    exact .of_stamps (hstamping.stamps s.world) hbound

/-- Nothing is done. -/
theorem narrates_nothing (hplain : s.command.isPlain = false) (hleft : s.left = s.world)
    (hpublications : s.publications = []) (hemitter : s.emitterTask? = none) :
    s.world.Narrates correlation s.left (s.lines host frame) := by
  have hlines : s.lines host frame = [] := by simp [lines, hplain, hpublications, hemitter]
  rw [hlines, hleft]
  exact .refl _

section

variable (hbound : frame.Bound correlation s.world.context)
  (htasks : ∀ t ∈ s.tasks, ∀ frame : Frame, frame.Bound correlation t.world.context →
    t.world.Narrates correlation (outcome (t.code.run s.nested) t.world).2 (host frame t))
include hbound htasks

/-- A publishing step logs the lines of its publishes. -/
theorem narrates_publish {name : String} {event payload : Value} {times : Nat}
    (hcommand : s.command = .hub (.publish name event payload times)) :
    s.world.Narrates correlation s.left (s.lines host frame) := by
  have hplain : s.command.isPlain = false := by rw [hcommand]; rfl
  obtain ⟨hemitter, ⟨hleft, hnone⟩ | ⟨n, text, -, hpublications, hleft⟩⟩ := publish_cases hcommand
  · exact narrates_nothing hplain hleft hnone hemitter
  · obtain ⟨hcorrelation, hsome⟩ := Log.Record.find?_of_attribute?
      (hbound ("correlation_id", correlation) (by simp [Frame.fields]))
    have hrepeats := Publication.narrates_repeats (p := s.publication n text payload) hsome times
      s.world hcorrelation fun v hv x hx t ht => htasks t (mem_tasks.mpr
        (.inl ⟨_, x, mem_visits.mpr ⟨v, hpublications ▸ List.mem_map_of_mem hv, hx⟩, ht⟩))
    have hlines : s.lines host frame = ((s.publication n text payload).repeats times
        s.world).flatMap ((s.publication n text payload).linesBy host) := by
      simp [lines, hplain, hpublications, hemitter, List.flatMap_map]
    rw [hleft, hlines]
    exact hrepeats

/-- A bridge publishes and then calls its emitter, while what surrounds the bridge is under way. -/
theorem narrates_emit {name : String} {event : Value} {args : List Value} {named : Fields}
    (hcommand : s.command = .bridge (.emit name event args named)) :
    s.world.Narrates correlation s.left (s.lines host frame) := by
  have hplain : s.command.isPlain = false := by rw [hcommand]; rfl
  obtain ⟨hleft, hnone, hemitter⟩ | ⟨b, text, -, hpublications, hruns⟩ := emit_cases hcommand
  · exact narrates_nothing hplain hleft hnone hemitter
  · have hlines : s.lines host frame =
        (s.publication b.hub text (args.head?.getD .none)).linesBy host s.world ++
          s.emitterTask?.elim [] (host frame) := by
      simp [lines, hplain, hpublications]
    obtain ⟨hcorrelation, hsome⟩ := Log.Record.find?_of_attribute?
      (hbound ("correlation_id", correlation) (by simp [Frame.fields]))
    have hid : s.world.correlationId = correlation := by
      rw [World.correlationId, show s.world.context.find? Log.correlationField = _ from hcorrelation]
      rfl
    have hpublish := Publication.narrates (p := s.publication b.hub text (args.head?.getD .none)) hid hsome
      fun x hx t ht => htasks t (mem_tasks.mpr
        (.inl ⟨_, x, mem_visits.mpr ⟨s.world, by simp [hpublications], hx⟩, ht⟩))
    rw [hlines]
    rcases hruns with ⟨stop, hrun, hemitter⟩ | ⟨v, hrun, hemitter, hleft⟩
    · rw [hrun] at hpublish
      simpa [hemitter] using hpublish
    · rw [hrun] at hpublish
      rw [hleft, hemitter]
      -- the emitter begins in the context of the bridge, which the publish gave back
      refine hpublish.trans (Hub.narrates_call fun t ht hcontext => ?_)
      refine htasks t (mem_tasks.mpr (.inr (hemitter.trans ht))) frame ?_
      rw [hcontext, hpublish.context]
      exact hbound

/-- A step logs its lines, if the host code that it runs logs its own. -/
theorem narrates (hkeeps : s.KeepsContext) :
    s.world.Narrates correlation s.left (s.lines host frame) := by
  rcases s.plain_or_publishes with hplain | ⟨name, event, payload, times, hcommand⟩ |
    ⟨name, event, args, named, hcommand⟩
  · exact narrates_plain hplain hkeeps hbound
  · exact narrates_publish hbound htasks hcommand
  · exact narrates_emit hbound htasks hcommand

end

end Step

/-- By induction on the levels that are left: host code logs its lines, those of its steps one level
deeper. -/
theorem Task.narrates (fuel depth : Nat) (frame : Frame) (t : Task)
    (hbound : frame.Bound correlation t.world.context)
    (hsteps : ∀ s ∈ t.steps fuel depth, s.KeepsContext) :
    t.world.Narrates correlation (outcome (t.code.run (Session.perform depth fuel)) t.world).2
      (t.lines fuel depth frame) := by
  induction fuel generalizing depth frame t with
  | zero =>
      -- no command is carried out
      have hnothing : t.world.Narrates correlation _ _ :=
        t.code.narrates (Session.perform depth 0) (fun _ => []) t.world fun x _ _ => .refl x.2
      rw [List.flatMap_eq_nil_iff.mpr fun _ _ => rfl] at hnothing
      exact hnothing
  | succ fuel ih =>
      unfold steps at hsteps
      refine t.code.narrates (Session.perform depth (fuel + 1)) _ t.world fun x hx hcontext => ?_
      have hstep : ∀ s ∈ (⟨depth, fuel, x.1, x.2⟩ : Step) ::
          (Step.tasks ⟨depth, fuel, x.1, x.2⟩).flatMap (Task.steps fuel (depth + 1)), s.KeepsContext :=
        fun s hs => hsteps s (List.mem_flatMap.mpr ⟨x, hx, hs⟩)
      refine Step.narrates (s := ⟨depth, fuel, x.1, x.2⟩) (hcontext ▸ hbound) ?_ (hstep _ (by simp))
      exact fun u hu frame hu' => ih (depth + 1) frame u hu' fun s hs =>
        hstep s (List.mem_cons_of_mem _ (List.mem_flatMap.mpr ⟨u, hu, hs⟩))

end

/-! ## Main statement -/

/-- **Every line of a dispatch tells its publish and its actor.** The records that are logged during a
publish, at any depth, are those of its lines, in their order. If the host code that runs meanwhile leaves
the log context as it is, the dispatch fields of each of them tell what was under way when it was logged,
whatever attributes it brings along: component and operation, the event of the innermost publish, pattern
and actor of the call that this publish was making, if any, and the correlation identifier that was bound
before the outermost publish, or else the one that was made for it. It is not nothing: the fields
of a scope (`Log.scopeFields`) and the fields that are set (`Log.setFields`) leave out what is nothing. -/
theorem publish_lines_tell (p : Publication) (w : World) (hsome : w.correlationId ≠ .none)
    (hkeeps : ∀ s ∈ p.steps w, s.KeepsContext) :
    (p.occurrences w).filterMap Occurrence.record? = (p.lines w).map (·.record) ∧
      ∀ l ∈ p.lines w, l.Tells w.correlationId := by
  have hnarrates : w.Narrates w.correlationId (p.run w).2 (p.lines w) := by
    refine Publication.narrates rfl hsome fun x hx t ht frame hbound => ?_
    refine Task.narrates p.fuel (p.depth + 1) frame t hbound fun s hs => hkeeps s ?_
    exact List.mem_flatMap.mpr ⟨x, hx, List.mem_flatMap.mpr ⟨t, ht, hs⟩⟩
  obtain ⟨os, hos, hrecords⟩ := hnarrates.journal
  refine ⟨?_, hnarrates.tells⟩
  unfold Publication.occurrences
  rw [World.since_eq hos, hrecords]

/-- A value that is a text is that text. -/
theorem Value.eq_text_of_isText {v : Value} {s : String} (h : v.isText s = true) : v = .text s := by
  unfold isText at h
  split at h
  · rw [of_decide_eq_true h]
  · cases h

/-- A session in which everything is logged, with a publish within a publish. Its actors log with a pattern
and an actor of their own, listen, and fail. -/
def Sample.nestedNotes : List (Command Behaviour) :=
  let note : Command Behaviour :=
    .log (.write "app" 10 (.text "note") [] [("pattern", .text "mine"), ("actor_id", .text "me")])
  let inner := actor "inner" fun _ => .perform note true fun _ => .finish .none
  let outer := actor "outer" fun _ =>
    .perform (publish "b") true fun _ => failAfter (listen "c" "third" inner)
  [create true, listen "a" "first" outer, listen "b" "second" inner, publish "a"]

/-- Two records are logged by the publish within, one when no call is under way there; the other four are of the
publish around it. -/
theorem publish_lines_tell_nestedNotes :
    ∃ s ∈ Session.steps { Sample.world 2 with logLevel := 10 } Sample.nestedNotes, ∃ p w,
      (p, w) ∈ s.publications ∧
      (p.lines w).map (fun l => (l.frame.event, l.frame.call?)) =
        [("a", none), ("b", none), ("b", some ("b", "app.inner@b")), ("a", some ("a", "app.outer@a")),
          ("a", some ("a", "app.outer@a")), ("a", some ("a", "app.outer@a"))] ∧
      (p.occurrences w).filterMap Occurrence.record? = (p.lines w).map (·.record) ∧
      ∀ l ∈ p.lines w, l.Tells (.text "gen00001") := by
  obtain ⟨s, hs, ⟨p, w⟩, hpublished, hframes, hid, hcommands⟩ :
      ∃ s ∈ Session.steps { Sample.world 2 with logLevel := 10 } Sample.nestedNotes, ∃ x ∈ s.publications,
        (x.1.lines x.2).map (fun l => (l.frame.event, l.frame.call?)) =
          [("a", none), ("b", none), ("b", some ("b", "app.inner@b")), ("a", some ("a", "app.outer@a")),
            ("a", some ("a", "app.outer@a")), ("a", some ("a", "app.outer@a"))] ∧
        x.2.correlationId.isText "gen00001" = true ∧
        ∀ t ∈ x.1.steps x.2, (t.command matches .context _) = false := by decide +kernel
  have hcorrelation : w.correlationId = .text "gen00001" := Value.eq_text_of_isText hid
  have hkeeps : ∀ t ∈ p.steps w, t.KeepsContext := fun t ht c hc => by
    have hother := hcommands t ht
    simp [hc] at hother
  have htell := publish_lines_tell p w (by rw [hcorrelation]; nofun) hkeeps
  rw [hcorrelation] at htell
  exact ⟨s, hs, p, w, hpublished, hframes, htell⟩

end EventHub
