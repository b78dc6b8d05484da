import EventHub.Proofs.Lockstep.Dispatch
import EventHub.Proofs.Session.Lines

/-! # Payloads stay private

A step goes in lockstep if the host code that it runs does (`Swap.ends_step`), and by induction on the levels
that are left, host code goes in lockstep if it behaves the same (`Swap.Tasks.ends`).

Main statement: `payload_stays_private`, that a publish tells nothing of its payload but the type, in
records, contexts, errors, counters and registries.
-/

namespace EventHub

open Run

/-- A command that carries neither host code nor a payload runs no host code. -/
theorem Command.isPlain_of_isBare {β : Type} {c : Command β} (h : c.isBare = true) : c.isPlain = true := by
  unfold Command.isPlain
  split <;> simp_all [Command.isBare]

namespace Step

variable {depth fuel : Nat} {w : World} {name event : String}

/-- A step runs the host code of its publishes, and then the emitter. -/
theorem tasks_eq (s : Step) :
    s.tasks = (s.publications.flatMap fun x => x.1.tasks x.2) ++ s.emitterTask?.toList := by
  unfold tasks visits
  rw [List.flatMap_assoc]
  simp only [List.flatMap_map, Publication.tasks]

/-- A step that publishes runs the host code of its publishes. -/
theorem tasks_publish {payload : Value} {times n : Nat} (hhub : w.hubNamed? name = some n) :
    tasks ⟨depth, fuel, .hub (.publish name (.text event) payload times), w⟩ =
      (Publication.repeats ⟨fuel, depth, n, event, payload⟩ times w).flatMap
        (Publication.tasks ⟨fuel, depth, n, event, payload⟩) := by
  rw [tasks_eq]
  simp only [publications, emitterTask?, hhub, List.flatMap_map, Option.toList_none, List.append_nil]
  rfl

/-- A step that emits runs the host code of its publish, and then the emitter. -/
theorem tasks_emit {args : List Value} {named : Fields} {b : Bridge}
    (hbridge : w.bridgeNamed? name = some b) (hnamed : named.contains "name" = false) :
    tasks ⟨depth, fuel, .bridge (.emit name (.text event) args named), w⟩ =
      Publication.tasks ⟨fuel, depth, b.hub, event, args.head?.getD .none⟩ w ++
        (match Publication.run ⟨fuel, depth, b.hub, event, args.head?.getD .none⟩ w with
          | (.ok _, v) => Hub.callTask? b.emitter b.serial b.asynchronous (.text event :: args) named v
          | (.error _, _) => none).toList := by
  rw [tasks_eq]
  simp only [publications, emitterTask?, hbridge, hnamed, Bool.false_eq_true, if_false,
    List.flatMap_cons, List.flatMap_nil, List.append_nil]
  rfl

end Step

namespace Swap

variable {s : Swap}

/-! ## Steps -/

section

variable {w w' : World}

/-- The same hub has the name. -/
theorem Worlds.hubNamed?_eq (h : s.Worlds w w') (name : String) : w.hubNamed? name = w'.hubNamed? name := by
  unfold World.hubNamed?
  rcases related_options (h.kept.find? name) with ⟨hk, hk'⟩ | ⟨k, k', hk, hk', hrel⟩
  · rw [hk, hk']
  · rw [hk, hk']
    cases hrel <;> rfl

/-- Bridges under the same name are related. -/
theorem Worlds.bridgeNamed? (h : s.Worlds w w') (name : String) :
    Option.Rel s.Bridges (w.bridgeNamed? name) (w'.bridgeNamed? name) := by
  unfold World.bridgeNamed?
  rcases related_options (h.kept.find? name) with ⟨hk, hk'⟩ | ⟨k, k', hk, hk', hrel⟩
  · rw [hk, hk']
    exact .none
  · rw [hk, hk']
    cases hrel with
    | bridge hb => exact .some hb
    | same k =>
        cases k with
        | bridge b => exact .some (.refl b)
        | _ => exact .none

variable {depth fuel : Nat} {R : Task → Task → Prop}
  (hrun : ∀ t t', R t t' → s.Worlds t.world t'.world →
    s.Ends s.Values (t.run (Session.perform (depth + 1) fuel)) (t'.run (Session.perform (depth + 1) fuel)))
  (hw : s.Worlds w w')
include hrun hw

/-- A step that publishes goes in lockstep, if the host code of its publishes does. -/
theorem ends_publish (name : String) (event : Value) (times : Nat) {payload payload' : Value}
    (hpayload : s.Values payload payload')
    (htasks : AtSamePlaces R (Step.tasks ⟨depth, fuel, .hub (.publish name event payload times), w⟩)
      (Step.tasks ⟨depth, fuel, .hub (.publish name event payload' times), w'⟩)) :
    s.Ends s.Replies (Step.run ⟨depth, fuel, .hub (.publish name event payload times), w⟩)
      (Step.run ⟨depth, fuel, .hub (.publish name event payload' times), w'⟩) := by
  have hstep : ∀ payload w, Step.run ⟨depth, fuel, .hub (.publish name event payload times), w⟩ =
      outcome (do
        Hub.publishTimes (Session.perform (depth + 1) fuel) depth (← hubNamed name) event payload times
        return Reply.nothing) w := fun _ _ => rfl
  rw [hstep, hstep, outcome_bind, outcome_bind, outcome_hubNamed, outcome_hubNamed, ← hw.hubNamed?_eq]
  cases hhub : w.hubNamed? name with
  | none => exact .error _ hw
  | some n =>
      dsimp only [Option.elim]
      -- the reply does not depend on what is published
      refine Ends.bind (R := Eq) ?_ fun _ _ _ _ _ hv => .ok (.same _) hv
      cases event with
      | text event =>
          rw [Step.tasks_publish hhub, Step.tasks_publish ((hw.hubNamed?_eq name).symm.trans hhub)] at htasks
          exact Publications.repeats (p := ⟨fuel, depth, n, event, payload⟩)
            (q := ⟨fuel, depth, n, event, payload'⟩) ⟨rfl, rfl, rfl, rfl, hpayload⟩ hrun hw times htasks
      | _ =>
          -- the name is no text, and the publish is refused
          cases times with
          | zero => exact .ok rfl hw
          | succ times => exact .error _ hw

/-- A bridge publishes and then calls its emitter. -/
theorem ends_emitter {b b' : Bridge} (hb : s.Bridges b b') (event : Value) {args args' : List Value}
    (hargs : List.Forall₂ s.Values args args') {named named' : Fields} (hnamed : s.Named named named')
    (hstart : Agree s.Starts (b.emitter.start (event :: args) named)
      (b'.emitter.start (event :: args') named'))
    (htasks : ∀ text, event = .text text → named.contains "name" = false → AtSamePlaces R
      (Publication.tasks ⟨fuel, depth, b.hub, text, args.head?.getD .none⟩ w ++
        (match Publication.run ⟨fuel, depth, b.hub, text, args.head?.getD .none⟩ w with
          | (.ok _, v) => Hub.callTask? b.emitter b.serial b.asynchronous (event :: args) named v
          | (.error _, _) => none).toList)
      (Publication.tasks ⟨fuel, depth, b'.hub, text, args'.head?.getD .none⟩ w' ++
        (match Publication.run ⟨fuel, depth, b'.hub, text, args'.head?.getD .none⟩ w' with
          | (.ok _, v) => Hub.callTask? b'.emitter b'.serial b'.asynchronous (event :: args') named' v
          | (.error _, _) => none).toList)) :
    s.Ends s.Values (outcome (Hub.emit (Session.perform (depth + 1) fuel) depth b event args named) w)
      (outcome (Hub.emit (Session.perform (depth + 1) fuel) depth b' event args' named') w') := by
  unfold Hub.emit
  rw [← hnamed.contains, hb.qualifiedName]
  have hpayload : s.Values (args.head?.getD .none) (args'.head?.getD .none) := by
    cases hargs with
    | nil => exact .same _
    | cons hv _ => exact hv
  -- the name is given twice, and the call is refused
  cases hname : named.contains "name" with
  | true => exact .error _ hw
  | false =>
      simp only [Bool.false_eq_true, if_false]
      cases event with
      | text event =>
          -- the publish first: then the emitter is called in the worlds that it leaves
          obtain ⟨hlength, hends⟩ := Publications.runs
            (p := ⟨fuel, depth, b.hub, event, args.head?.getD .none⟩)
            (q := ⟨fuel, depth, b'.hub, event, args'.head?.getD .none⟩)
            ⟨rfl, rfl, hb.hub, rfl, hpayload⟩ hrun hw (htasks event rfl hname).first
          have hemitter := (htasks event rfl hname).rest hlength
          have hpublish : ∀ (hub : Nat) (payload : Value) (w : World),
              outcome (Hub.publish (Session.perform (depth + 1) fuel) depth hub (.text event) payload) w =
                Publication.run ⟨fuel, depth, hub, event, payload⟩ w := fun _ _ _ => rfl
          rw [outcome_bind, outcome_bind, hpublish, hpublish]
          rw [hb.serial, hb.asynchronous] at hemitter ⊢
          generalize Publication.run _ w = r at hends hemitter ⊢
          generalize Publication.run _ w' = r' at hends hemitter ⊢
          cases hends with
          | ok _ hv =>
              have hbody := related_callTask hb.emitter hstart b'.serial b'.asynchronous hv
              exact ends_call hstart _ _ hv (ends_body hrun hbody hemitter)
          | error stop hv => exact .error stop hv
      | _ => exact .error _ hw

/-- A bridge publishes and then calls its emitter. -/
theorem ends_emit (name : String) (event : Value) {args args' : List Value}
    (hargs : List.Forall₂ s.Values args args') {named named' : Fields} (hnamed : s.Named named named')
    (hcode : s.HostCode R ⟨depth, fuel, .bridge (.emit name event args named), w⟩
      ⟨depth, fuel, .bridge (.emit name event args' named'), w'⟩) :
    s.Ends s.Replies (Step.run ⟨depth, fuel, .bridge (.emit name event args named), w⟩)
      (Step.run ⟨depth, fuel, .bridge (.emit name event args' named'), w'⟩) := by
  have hstep : ∀ args named w, Step.run ⟨depth, fuel, .bridge (.emit name event args named), w⟩ =
      outcome (do
        let b ← bridgeNamed name
        return Reply.value (← Hub.emit (Session.perform (depth + 1) fuel) depth b event args named)) w :=
    fun _ _ _ => rfl
  rw [hstep, hstep, outcome_bind, outcome_bind, outcome_bridgeNamed, outcome_bridgeNamed]
  obtain ⟨htasks, hbuiltin⟩ := hcode
  unfold Step.builtinStart? at hbuiltin
  rcases related_options (hw.bridgeNamed? name) with ⟨hb, hb'⟩ | ⟨b, b', hb, hb', hrel⟩
  · rw [hb, hb']
    exact .error _ hw
  · simp only [hb, hb', Option.bind_some] at hbuiltin
    rw [hb, hb']
    dsimp only [Option.elim]
    refine Ends.bind (R := s.Values) ?_ fun _ _ _ _ hv hv' => .ok (.value hv) hv'
    refine ends_emitter hrun hw hrel event hargs hnamed ?_ ?_
    · -- what is built into the host language is asked to start alike
      cases hshape : b.emitter.shape.builtin? with
      | none => exact hrel.emitter.starts_of_not_builtin hshape (.cons (.same _) hargs) hnamed
      | some _ =>
          rw [← hrel.emitter.shape_eq, hshape] at hbuiltin
          exact hbuiltin _ rfl _ rfl
    · rintro text rfl hname
      rw [Step.tasks_emit hb hname, Step.tasks_emit hb' (hnamed.contains _ ▸ hname)] at htasks
      exact htasks

/-- **A step goes in lockstep**, if the host code that it runs does. -/
theorem ends_step {c c' : Command Behaviour} (hc : s.Commands c c')
    (hcode : s.HostCode R ⟨depth, fuel, c, w⟩ ⟨depth, fuel, c', w'⟩) :
    s.Ends s.Replies (Step.run ⟨depth, fuel, c, w⟩) (Step.run ⟨depth, fuel, c', w'⟩) := by
  cases hplain : c.isPlain with
  | true => exact (runs_step hc hplain).ends w w' hw
  | false =>
      -- only publishing and emitting run host code
      cases hc with
      | publish name event hpayload times =>
          exact ends_publish hrun hw name event times hpayload hcode.tasks
      | emit name event hargs hnamed => exact ends_emit hrun hw name event hargs hnamed hcode
      | bare c hbare =>
          rw [Command.isPlain_of_isBare hbare] at hplain
          cases hplain
      | _ => cases hplain

end

/-- By induction on the levels that are left: host code that behaves the same ends alike. -/
theorem Tasks.ends (fuel depth : Nat) {t t' : Task} (h : s.Tasks fuel depth t t')
    (hw : s.Worlds t.world t'.world) :
    s.Ends s.Values (t.run (Session.perform depth fuel)) (t'.run (Session.perform depth fuel)) := by
  induction fuel generalizing depth t t' with
  -- no levels are left, so that every command is refused
  | zero => exact Alike.ends (fun _ _ _ _ hx => .error _ hx) h hw
  | succ fuel ih =>
      -- a command is a step, whose host code has one level less
      refine Alike.ends (fun x x' hcode hc hx => ?_) h hw
      exact ends_step (fun _ _ ht hw => ih (depth + 1) ht hw) hx hc hcode

/-! ## What is told -/

/-- What happened since related worlds is the same, but for the payload. -/
theorem Worlds.since {w w' v v' : World} (h : s.Worlds w w') (hv : s.Worlds v v') :
    List.Forall₂ s.Occurrences (w.since v) (w'.since v') := by
  unfold World.since
  rw [h.journal.length_eq, hv.journal.length_eq]
  exact List.rel_reverse (List.forall₂_take _ hv.journal)

end Swap

namespace Occurrence

/-- The log context that host code sees when it begins. -/
def context? : Occurrence → Option Fields
  | .called _ _ _ _ _ context => some context
  | .handled _ _ _ context _ => some context
  | .ran _ _ context _ => some context
  | _ => none

/-- The error that an error handler is told. -/
def error? : Occurrence → Option Fault
  | .handled _ _ f _ _ => some f
  | _ => none

end Occurrence

/-- The same publish with another payload. -/
def Publication.carrying (p : Publication) (payload : Value) : Publication := { p with payload := payload }

/-- A publish tells of its payload no more than the type: with one payload and with the other, it ends the same,
leaves the same world but for the bodies of host code that was brought in meanwhile, and the same happened but
for the payload. -/
structure Swap.Private (s : Swap) (p : Publication) (w : World) : Prop where
  /-- It returns in both cases, or stops in both, with the same fault. -/
  outcome : ((p.carrying s.first).run w).1 = ((p.carrying s.second).run w).1
  /-- Everything that it leaves is the same, files and console among it. -/
  left : s.Worlds ((p.carrying s.first).run w).2 ((p.carrying s.second).run w).2
  registries : ∀ n, s.Registries (((p.carrying s.first).run w).2.registry n)
    (((p.carrying s.second).run w).2.registry n)
  counters : ((p.carrying s.first).run w).2.tallies = ((p.carrying s.second).run w).2.tallies
  /-- The same actors are called, each with the same event, and one thing happens after the other. -/
  occurrences : List.Forall₂ s.Occurrences ((p.carrying s.first).occurrences w)
    ((p.carrying s.second).occurrences w)
  records : ((p.carrying s.first).occurrences w).filterMap Occurrence.record? =
    ((p.carrying s.second).occurrences w).filterMap Occurrence.record?
  /-- Host code begins in the same log contexts. -/
  contexts : ((p.carrying s.first).occurrences w).filterMap Occurrence.context? =
    ((p.carrying s.second).occurrences w).filterMap Occurrence.context?
  /-- Error handlers are told the same errors. -/
  errors : ((p.carrying s.first).occurrences w).filterMap Occurrence.error? =
    ((p.carrying s.second).occurrences w).filterMap Occurrence.error?

/-! ## Main statement -/

/-- **Payloads stay private.** Let an event be published in any world, with one payload or with another of the
same type. If the host code that runs behaves the same in both publishes, whatever it hands the payload on to,
then records, log contexts, errors, counters and registries are the same, and so are the calls but for the
payload. -/
theorem payload_stays_private (s : Swap) (p : Publication) (w : World)
    (hsame : AtSamePlaces (s.Tasks p.fuel (p.depth + 1)) ((p.carrying s.first).tasks w)
      ((p.carrying s.second).tasks w)) : s.Private p w := by
  have hp : s.Publications (p.carrying s.first) (p.carrying s.second) := ⟨rfl, rfl, rfl, rfl, .payload⟩
  obtain ⟨-, hends⟩ := hp.runs (fun _ _ ht hw => ht.ends p.fuel (p.depth + 1) hw) (.refl w) hsame
  have hoccurrences := (Swap.Worlds.refl (s := s) w).since hends.worlds
  refine ⟨?_, hends.worlds, hends.worlds.registry, hends.worlds.tallies, hoccurrences, ?_, ?_, ?_⟩
  · -- both return, or both stop with the same fault
    generalize (p.carrying s.first).run w = r at hends
    generalize (p.carrying s.second).run w = r' at hends
    cases hends with
    | ok h _ => rw [h]
    | error _ _ => rfl
  · exact Swap.filterMap_eq_of_related hoccurrences fun _ _ h => by cases h <;> rfl
  · exact Swap.filterMap_eq_of_related hoccurrences fun _ _ h => by cases h <;> rfl
  · exact Swap.filterMap_eq_of_related hoccurrences fun _ _ h => by cases h <;> rfl

/-! ## Host code that passes texts on -/

namespace Sample

/-- One text as payload, and another in its place; host code that is brought in is the same. -/
def texts (a b : String) : Swap where
  first := .text a
  second := .text b
  sameType := rfl
  code := Eq
  code_refl _ := rfl

/-- Whether host code finishes with nothing in both runs, or raises the same error. -/
def stops : Behaviour → Behaviour → Bool
  | .finish .none, .finish .none => true
  | .fail (.thrown c []), .fail (.thrown c' []) => c = c'
  | _, _ => false

/-- Whether host code publishes the same event in both runs, with one text in one and the other in the other.
-/
def publishes (a b : String) : Command Behaviour → Command Behaviour → Bool
  | .hub (.publish hub (.text event) (.text v) times), .hub (.publish hub' (.text event') (.text v') times') =>
    hub = hub' ∧ event = event' ∧ v = a ∧ v' = b ∧ times = times'
  | _, _ => false

/-- Whether host code publishes one text or the other and then stops, or stops at once, and so does the host
code that runs meanwhile. -/
def passesOn (a b : String) : Nat → Nat → Task → Task → Bool
  | 0, _, t, t' => stops t.code t'.code
  | fuel + 1, depth, t, t' =>
    match t.code, t'.code with
    | .perform c guarded _, .perform c' guarded' _ =>
      publishes a b c c' && guarded == guarded' &&
        ((Step.tasks ⟨depth, fuel, c, t.world⟩).zip (Step.tasks ⟨depth, fuel, c', t'.world⟩)).all
          (fun x => passesOn a b fuel (depth + 1) x.1 x.2) &&
        (t.next? (Session.perform depth (fuel + 1))).all fun u =>
          (t'.next? (Session.perform depth (fuel + 1))).all fun u' => stops u.code u'.code
    | code, code' => stops code code'

variable {a b : String}

/-- Host code that stops alike decides the same. -/
theorem alike_of_stops {nested : Perform}
    {inner : Command Behaviour × World → Command Behaviour × World → Prop} {t t' : Task}
    (h : stops t.code t'.code = true) : (texts a b).Alike nested inner t t' := by
  obtain ⟨code, w⟩ := t
  obtain ⟨code', w'⟩ := t'
  dsimp only at h
  unfold stops at h
  split at h
  · exact .finish (.same _) w w'
  · rw [of_decide_eq_true h]
    exact .fail _ w w'
  · cases h

/-- Commands that publish one text and the other differ in the payload only. -/
theorem commands_of_publishes {c c' : Command Behaviour} (h : publishes a b c c' = true) :
    (texts a b).Commands c c' := by
  unfold publishes at h
  split at h
  · obtain ⟨rfl, rfl, rfl, rfl, rfl⟩ := of_decide_eq_true h
    exact .publish _ _ .payload _
  · cases h

/-- By induction on the levels that are left: what is decided in the two runs passes the check. -/
theorem tasks_of_passesOn (fuel depth : Nat) {t t' : Task} (h : passesOn a b fuel depth t t' = true) :
    (texts a b).Tasks fuel depth t t' := by
  induction fuel generalizing depth t t' with
  | zero => exact alike_of_stops h
  | succ fuel ih =>
      obtain ⟨code, w⟩ := t
      obtain ⟨code', w'⟩ := t'
      unfold passesOn at h
      dsimp only at h
      unfold Swap.Tasks
      split at h
      · rename_i c guarded next c' guarded' next'
        simp only [Bool.and_eq_true, beq_iff_eq, List.all_eq_true, Option.all_eq_true] at h
        obtain ⟨⟨⟨hc, rfl⟩, htasks⟩, hnext⟩ := h
        refine .perform (commands_of_publishes hc) guarded ⟨.of_zip fun x hx => ?_, ?_⟩ ?_
        · exact ih (depth + 1) (htasks x hx)
        · -- a publish calls no emitter
          unfold publishes at hc
          split at hc
          · nofun
          · cases hc
        · exact fun u hu u' hu' => alike_of_stops (hnext u hu u' hu')
      · exact alike_of_stops h

/-- An actor that publishes its payload as another event. -/
def relay (event : String) : Callable Behaviour where
  shape := .function
  name := "relay"
  asynchronous := false
  signature := ⟨[⟨"event", .standard, none, none⟩, ⟨"payload", .standard, none, none⟩], none⟩
  label := "relay"
  showsContext := true
  body := fun _ bound =>
    .perform (.hub (.publish "hub" (.text event) ((bound.find? "payload").getD .none) 1)) true fun _ =>
      .finish .none

/-- A session in which everything is logged. An actor passes a payload on to another, which fails, and the
error handler is told. -/
def relaying (payload : String) : List (Command Behaviour) :=
  [create true, .hub (.setHandler "hub" (some ⟨true, fun _ _ => .finish .none⟩)),
    listen "a" "first" (relay "b"), listen "b" "second" (actor "second" fun _ => failure),
    .hub (.publish "hub" (.text "a") (.text payload) 1)]

end Sample

/-- Three records and one error are told in the session of the relay, and the payload is in none of them. -/
theorem payload_stays_private_relayed :
    ∃ s ∈ Session.steps { Sample.world 2 with logLevel := 10 } (Sample.relaying "secret"), ∃ p w,
      (p, w) ∈ s.publications ∧ p.name = "a" ∧
      ((p.occurrences w).filterMap Occurrence.record?).length = 3 ∧
      ((p.occurrences w).filterMap Occurrence.error?).length = 1 ∧
      AtSamePlaces ((Sample.texts "secret" "public").Tasks p.fuel (p.depth + 1))
        ((p.carrying (.text "secret")).tasks w) ((p.carrying (.text "public")).tasks w) ∧
      (Sample.texts "secret" "public").Private p w := by
  obtain ⟨s, hs, ⟨p, w⟩, hpublished, hname, hrecords, herrors, hcheck⟩ :
      ∃ s ∈ Session.steps { Sample.world 2 with logLevel := 10 } (Sample.relaying "secret"),
        ∃ x ∈ s.publications, x.1.name = "a" ∧
        ((x.1.occurrences x.2).filterMap Occurrence.record?).length = 3 ∧
        ((x.1.occurrences x.2).filterMap Occurrence.error?).length = 1 ∧
        ∀ y ∈ ((x.1.carrying (.text "secret")).tasks x.2).zip ((x.1.carrying (.text "public")).tasks x.2),
          Sample.passesOn "secret" "public" x.1.fuel (x.1.depth + 1) y.1 y.2 = true := by decide +kernel
  -- the host code that runs in the two publishes is compared by evaluation
  have hsame : AtSamePlaces ((Sample.texts "secret" "public").Tasks p.fuel (p.depth + 1))
      ((p.carrying (.text "secret")).tasks w) ((p.carrying (.text "public")).tasks w) :=
    .of_zip fun y hy => Sample.tasks_of_passesOn _ _ (hcheck y hy)
  exact ⟨s, hs, p, w, hpublished, hname, hrecords, herrors, hsame,
    payload_stays_private (Sample.texts "secret" "public") p w hsame⟩

end EventHub
