import EventHub.Proofs.Session.Handles

/-! # Refused requests

A hub refuses a pattern that cannot be compiled, an actor that cannot be called, an entry that was cleared,
an event name that is no text and, where warnings are taken strictly, to unlisten to a pattern that was
never listened to. `Request.refusal?` says when. All of this is found out before anything is changed.

Main statement: `refused_request_leaves_intact`.
-/

namespace EventHub

open Run

/-! ## Requests and their refusals -/

/-- Whether a fault is a refusal. -/
def Fault.isRefusal : Fault → Bool
  | .invalidPattern .. => true
  | .invalidActor .. => true
  | .staleEntry _ => true
  | .nameNotText _ => true
  | .neverListened _ => true
  | _ => false

/-- A single call on a hub, or on a handle of it, that registers something, looks for a registration or
publishes. -/
inductive Request where
  | listen (p : Pattern)
  | attach (ref : EntryRef) (c : Callable Behaviour)
  | unlisten (p : Pattern)
  | unlistenEntry (ref : EntryRef)
  | look (ps : List Pattern)
  | publish (name : Value)

/-- Why a pattern is refused, if it is. -/
def Pattern.refusal? (p : Pattern) : Option Fault :=
  match p.compile? with
  | .error e => some (.ofPatternError e)
  | .ok _ => none

/-- Why a callable is refused as an actor, if it is. -/
def Callable.refusal? (c : Callable Behaviour) : Option Fault :=
  match c.check with
  | .error f => some f
  | .ok _ => none

namespace World

/-- The hub of a command that may name a hub or a handle. -/
def hubOrHandleNamed? (w : World) (name : String) : Option Nat :=
  (w.hubNamed? name).or ((w.handleNamed? name).map (·.1))

/-- Why a hub refuses to unlisten to a pattern, if it does. -/
def unlistenRefusal? (w : World) (n : Nat) (m : Matcher) : Option Fault :=
  if ((w.registry (w.hub n).registry).byKey? m.key).isNone && (w.hub n).warns && w.strict then
    some (.neverListened m.shown)
  else none

/-- Why a hub refuses to attach a callable to an entry, if it does: the callable is no actor, if the hub
checks that, or the entry is not in its registry. -/
def attachRefusal? (w : World) (n : Nat) (ref : EntryRef) (e : Entry Actor) (c : Callable Behaviour) :
    Option Fault :=
  (if (w.hub n).validates then c.refusal? else none).or
    (if ((w.registry (w.hub n).registry).live? ref).isNone then some (.staleEntry e.matcher.source)
      else none)

/-- A later world with the same registries, counters, hubs, names and log context. -/
structure Intact (w v : World) : Prop where
  registries : v.registries = w.registries
  tallies : v.tallies = w.tallies
  hubs : v.hubs = w.hubs
  kept : v.kept = w.kept
  context : v.context = w.context

end World

/-- The fault with which a hub refuses a request in a world, if it does. -/
def Request.refusal? (w : World) (n : Nat) : Request → Option Fault
  | .listen p => p.refusal?
  | .attach ref c => (w.entryAt? ref).bind fun e => w.attachRefusal? n ref e c
  | .unlisten p => p.refusal?.or (p.compile?.toOption.bind (w.unlistenRefusal? n))
  | .unlistenEntry ref => (w.entryAt? ref).bind fun e => w.unlistenRefusal? n e.matcher
  | .look ps => ps.findSome? Pattern.refusal?
  | .publish (.text _) => none
  | .publish v => some (.nameNotText v.typeName)

/-- The request that a step carries out, with its hub. -/
def Step.request? (s : Step) : Option (Nat × Request) :=
  match s.command with
  | .hub (.listen name p _ []) => (s.world.hubOrHandleNamed? name).map (·, .listen p)
  | .hub (.attach handle c _) =>
    (s.world.handleNamed? handle).map fun (n, ref) => (n, .attach ref c)
  | .hub (.unlisten name p) => (s.world.hubNamed? name).map (·, .unlisten p)
  | .hub (.unlistenHandle handle) =>
    (s.world.handleNamed? handle).map fun (n, ref) => (n, .unlistenEntry ref)
  | .hub (.survey name _ (some ps)) => (s.world.hubNamed? name).map (·, .look ps)
  | .hub (.publish name event _ 1) => (s.world.hubNamed? name).map (·, .publish event)
  | _ => none

/-! ## Worlds that stay intact -/

namespace World.Intact

variable {w v u : World}

theorem refl (w : World) : w.Intact w := ⟨rfl, rfl, rfl, rfl, rfl⟩

/-- Worlds that stay intact one after the other. -/
theorem trans (h : w.Intact v) (h' : v.Intact u) : w.Intact u where
  registries := h'.registries.trans h.registries
  tallies := h'.tallies.trans h.tallies
  hubs := h'.hubs.trans h.hubs
  kept := h'.kept.trans h.kept
  context := h'.context.trans h.context

/-- Logging a record leaves the world intact. -/
theorem afterLog (w : World) (r : Log.Record) : w.Intact (w.afterLog r) := by
  unfold World.afterLog World.logged
  split
  · exact refl w
  · cases w.sink? <;> exact ⟨rfl, rfl, rfl, rfl, rfl⟩

end World.Intact

/-! ## Granting and refusing -/

namespace Run

variable {α β : Type} {w : World}

/-- An action is refused with a fault and leaves the world intact, or, where no fault is given, it does not
end with a refusal. -/
def Answers (f? : Option Fault) (act : Run α) (w : World) : Prop :=
  match f? with
  | some f => f.isRefusal = true ∧ ∃ v, outcome act w = (.error (.fault f), v) ∧ w.Intact v
  | none => ∀ f, (outcome act w).1 = .error (.fault f) → f.isRefusal = false

namespace Answers

theorem refuse {f : Fault} (hf : f.isRefusal = true) : Answers (some f) (raise f : Run α) w :=
  ⟨hf, w, rfl, .refl w⟩

theorem raise {f : Fault} (hf : f.isRefusal = false) : Answers none (raise f : Run α) w := by
  intro g hg
  cases hg
  exact hf

theorem pure (a : α) : Answers none (Pure.pure a : Run α) w := by
  intro f hf
  cases hf

theorem ok {act : Run α} {a : α} {v : World} (h : outcome act w = (.ok a, v)) : Answers none act w := by
  intro f hf
  rw [h] at hf
  cases hf

/-- What follows a refusal is not reached, and what follows anything else refuses nothing. -/
theorem bind {f? : Option Fault} {act : Run α} {g : α → Run β} (h : Answers f? act w)
    (hg : f? = none → ∀ a v, outcome act w = (.ok a, v) → Answers none (g a) v) :
    Answers f? (act >>= g) w := by
  cases f? with
  | some f =>
      obtain ⟨hf, v, hact, hv⟩ := h
      exact ⟨hf, v, outcome_bind_error hact g, hv⟩
  | none =>
      intro f hf
      rcases hact : outcome act w with ⟨s | a, v⟩
      · rw [outcome_bind_error hact] at hf
        exact h f (by rw [hact]; cases hf; rfl)
      · rw [outcome_bind_ok hact] at hf
        exact hg rfl a v hact f hf

/-- A first part that leaves the world intact does not change what is refused. -/
theorem after {f? : Option Fault} {act : Run α} {g : α → Run β} {a : α} {v : World}
    (hact : outcome act w = (.ok a, v)) (hv : w.Intact v) (h : Answers f? (g a) v) :
    Answers f? (act >>= g) w := by
  cases f? with
  | some f =>
      obtain ⟨hf, u, hg, hu⟩ := h
      exact ⟨hf, u, (outcome_bind_ok hact g).trans hg, hv.trans hu⟩
  | none =>
      intro f hf
      rw [outcome_bind_ok hact] at hf
      exact h f hf

theorem hubLog {level : Int} {message : String} {extra : Fields} (hclash : Log.clash? extra = none) :
    Answers none (hubLog level message extra) w :=
  ok (outcome_log hclash w)

end Answers

end Run

/-! ## Requests one by one -/

namespace Hub

variable {w : World}

/-- Compiling refuses what the pattern is refused for. -/
theorem answers_compile (p : Pattern) : Answers p.refusal? (compile p) w := by
  unfold compile Pattern.refusal?
  cases p.compile? with
  | error e => exact .refuse rfl
  | ok m => exact .pure m

/-- A pattern that is compiled changes nothing. -/
theorem outcome_compile_of_ok {p : Pattern} {m : Matcher} (h : p.compile? = .ok m) (w : World) :
    outcome (compile p) w = (.ok m, w) := by
  unfold compile
  rw [h]
  rfl

/-- An entry that is unknown is no refusal. -/
theorem answers_entry (ref : EntryRef) : Answers none (entry ref) w := by
  unfold entry
  refine Answers.after rfl (.refl w) ?_
  cases w.entryAt? ref with
  | none => exact .raise rfl
  | some e => exact .pure e

/-- A pattern is compiled before the registry is touched. -/
theorem answers_listen (n : Nat) (p : Pattern) : Answers p.refusal? (listen n p) w := by
  unfold listen
  refine (answers_compile p).bind fun _ m v _ => ?_
  refine .bind (.ok rfl) fun _ w _ _ => .bind (.ok rfl) fun _ _ _ _ => ?_
  refine .bind (.ok (outcome_noteSizes ..)) fun _ _ _ _ => ?_
  exact .bind (.hubLog rfl) fun _ _ _ _ => .pure _

/-- A callable that fails the check is refused. -/
theorem isRefusal_of_check {c : Callable Behaviour} {f : Fault} (h : c.check = .error f) :
    f.isRefusal = true := by
  unfold Callable.check at h
  split at h
  · cases h
  · cases h
    rfl

/-- The entry is looked for before the registry is touched, and attaching to a live one succeeds. -/
theorem answers_attachTo (registry : Nat) (ref : EntryRef) (source : String) (a : Actor) :
    Answers (if ((w.registry registry).live? ref).isNone then some (.staleEntry source) else none)
      (attachTo registry ref source a) w := by
  unfold attachTo Registry.attach?
  refine Answers.after rfl (.refl w) ?_
  cases (w.registry registry).live? ref with
  | none => exact .refuse rfl
  | some e => exact .ok rfl

/-- An actor is checked before anything else is done. -/
theorem answers_attach {n : Nat} {ref : EntryRef} {e : Entry Actor} (he : w.entryAt? ref = some e)
    (c : Callable Behaviour) (identifier? : Option String) :
    Answers (w.attachRefusal? n ref e c) (attach n ref c identifier?) w := by
  have hentry : outcome (entry ref) w = (.ok e, w) := by rw [outcome_entry, he]; rfl
  -- what is left when the callable is accepted
  have hrest : Answers
      (if ((w.registry (w.hub n).registry).live? ref).isNone then some (.staleEntry e.matcher.source)
        else none)
      (do
        let a ← actorOf e.matcher.shown c identifier?
        let count ← attachTo (w.hub n).registry ref e.matcher.source a
        noteSizes n
        hubLog 10 "Mediator: actor attached"
          [("pattern", .text e.matcher.shown), ("actor_id", .text a.identifier),
            ("actor_count", .int count)]) w := by
    refine Answers.after (v := { w with issued := w.issued + 1 }) rfl ⟨rfl, rfl, rfl, rfl, rfl⟩ ?_
    refine Answers.bind (answers_attachTo (w := { w with issued := w.issued + 1 }) (w.hub n).registry ref
      e.matcher.source _) fun _ _ _ _ => ?_
    exact .bind (.ok (outcome_noteSizes ..)) fun _ _ _ _ => .hubLog rfl
  unfold attach World.attachRefusal? Callable.refusal?
  refine Answers.after rfl (.refl w) (Answers.after hentry (.refl w) ?_)
  cases (w.hub n).validates with
  | false => exact hrest
  | true =>
      cases hcheck : c.check with
      | error f => exact (Answers.refuse (isRefusal_of_check hcheck)).bind fun h => nomatch h
      | ok _ => exact hrest

/-- A warning is a refusal where warnings are taken strictly. -/
theorem answers_warn (source : String) :
    Answers (if w.strict then some (.neverListened source) else none) (warn (.neverListened source)) w := by
  unfold warn
  refine Answers.after rfl (.refl w) ?_
  cases w.strict with
  | false => exact .ok rfl
  | true => exact (Answers.refuse rfl).bind fun h => nomatch h

/-- Logging does not decide how warnings are taken. -/
theorem strict_afterLog (r : Log.Record) : (w.afterLog r).strict = w.strict := by
  unfold World.afterLog World.logged
  split
  · rfl
  · cases w.sink? <;> rfl

/-- Whether the key has an entry is found out before the registry is touched, and a warning that is a fault
ends the call without a change. -/
theorem answers_unlisten_of_ok {p : Pattern} {m : Matcher} (hp : p.compile? = .ok m) (n : Nat) :
    Answers (w.unlistenRefusal? n m) (unlisten n p) w := by
  unfold unlisten
  refine Answers.after (outcome_compile_of_ok hp w) (.refl w) (Answers.after rfl (.refl w) ?_)
  unfold World.unlistenRefusal?
  cases hkey : (w.registry (w.hub n).registry).byKey? m.key with
  | none =>
      simp only [Registry.deactivate, hkey, Option.isNone_none, Bool.true_and]
      refine Answers.after (outcome_log rfl w) (.afterLog w _) ?_
      cases (w.hub n).warns with
      | false => exact .pure _
      | true =>
          rw [Bool.true_and, ← strict_afterLog]
          exact answers_warn m.shown
  | some e =>
      simp only [Registry.deactivate, hkey]
      refine Answers.bind (.ok rfl) fun _ _ _ _ => ?_
      exact .bind (.ok (outcome_noteSizes ..)) fun _ _ _ _ => .hubLog rfl

/-- Unlistening to a pattern compiles it first. -/
theorem answers_unlisten (n : Nat) (p : Pattern) :
    Answers ((Request.unlisten p).refusal? w n) (unlisten n p) w := by
  have hcompile := answers_compile (w := w) p
  simp only [Request.refusal?]
  cases hp : p.compile? with
  | error e =>
      have hrefusal : p.refusal? = some (.ofPatternError e) := by simp [Pattern.refusal?, hp]
      rw [hrefusal] at hcompile ⊢
      exact hcompile.bind fun h => nomatch h
  | ok m =>
      have hrefusal : p.refusal? = none := by simp [Pattern.refusal?, hp]
      rw [hrefusal]
      exact answers_unlisten_of_ok hp n

/-- What is asked of an unknown entry is not refused: there is no such handle. -/
theorem answers_unknown {α : Type} {ref : EntryRef} (he : w.entryAt? ref = none)
    (f : Entry Actor → Run α) : Answers none (entry ref >>= f) w :=
  (answers_entry ref).bind fun _ e v h => by
    rw [outcome_entry, he] at h
    cases h

/-- To attach through a handle is refused only where its entry is known. -/
theorem answers_attachEntry (n : Nat) (ref : EntryRef) (c : Callable Behaviour) (identifier? : Option String) :
    Answers ((Request.attach ref c).refusal? w n) (attach n ref c identifier?) w := by
  simp only [Request.refusal?]
  cases he : w.entryAt? ref with
  | none => exact Answers.after rfl (.refl w) (answers_unknown he _)
  | some e => exact answers_attach he c identifier?

/-- A handle unlistens by the matcher of its entry, which is compiled already. -/
theorem answers_unlistenEntry {α : Type} (n : Nat) (ref : EntryRef) (reply : α) :
    Answers ((Request.unlistenEntry ref).refusal? w n)
      (do
        unlisten n (.matcher (← entry ref).matcher)
        return reply) w := by
  simp only [Request.refusal?]
  cases he : w.entryAt? ref with
  | none => exact answers_unknown he _
  | some e =>
      have hentry : outcome (entry ref) w = (.ok e, w) := by
        rw [outcome_entry, he]
        rfl
      refine Answers.after hentry (.refl w) ?_
      exact (answers_unlisten_of_ok rfl n).bind fun _ _ _ _ => .pure reply

/-- A publish of an event whose name is text refuses nothing, whatever its actors do: only requests to stop
the program get through. -/
theorem answers_publish {n : Nat} (s : Step) (name payload : Value) :
    Answers ((Request.publish name).refusal? w n) (publish s.nested s.depth n name payload) w := by
  cases name with
  | text name =>
      intro f hf
      let p := s.publication n name payload
      have hrun : verdict (p.escape? (p.visits w)) = .error (.fault f) :=
        (congrArg Prod.fst (p.run_eq w)).symm.trans hf
      cases hescape : p.escape? (p.visits w) with
      | none =>
          rw [hescape] at hrun
          cases hrun
      | some stop =>
          rw [hescape] at hrun
          cases hrun
          obtain ⟨x, -, hx⟩ := List.exists_of_findSome?_eq_some hescape
          rcases x.escape?_eq_some _ hx with hdeep | ⟨g, hg, hinterrupt⟩
          · cases hdeep
          · cases hg
            cases f with
            | thrown cls args => rfl
            | _ => cases hinterrupt
  | _ => exact .refuse rfl

/-- Looking for patterns is refused with the first pattern that is. -/
theorem answers_look (r : Registry Actor) (ps : List Pattern) :
    Answers (ps.findSome? Pattern.refusal?) (ps.mapM fun p => do return r.isActive (← compile p)) w := by
  induction ps with
  | nil => exact .pure _
  | cons p ps ih =>
      rw [List.mapM_cons]
      have hcompile := answers_compile (w := w) p
      cases hp : p.compile? with
      | error e =>
          have hrefusal : p.refusal? = some (.ofPatternError e) := by simp [Pattern.refusal?, hp]
          rw [hrefusal] at hcompile
          rw [List.findSome?_cons, hrefusal]
          exact (hcompile.bind fun h => nomatch h).bind fun h => nomatch h
      | ok m =>
          have hrefusal : p.refusal? = none := by simp [Pattern.refusal?, hp]
          have hactive : outcome (do return r.isActive (← compile p)) w = (.ok (r.isActive m), w) :=
            outcome_bind_ok (outcome_compile_of_ok hp w) _
          rw [List.findSome?_cons, hrefusal]
          exact Answers.after hactive (.refl w) (ih.bind fun _ _ _ _ => .pure _)

end Hub

/-! ## Steps -/

namespace Session

variable {w : World}

/-- The hub or the handle under a name. -/
theorem outcome_hubOrHandle {name : String} {n : Nat} (h : w.hubOrHandleNamed? name = some n) :
    outcome (hubOrHandle name) w = (.ok n, w) := by
  unfold World.hubOrHandleNamed? World.hubNamed? World.handleNamed? at h
  unfold hubOrHandle
  rw [outcome_find]
  cases hkept : w.kept.find? name with
  | none => simp [hkept] at h
  | some k =>
      rw [hkept] at h
      cases k <;> simp_all

theorem outcome_hubNamed_of {name : String} {n : Nat} (h : w.hubNamed? name = some n) :
    outcome (hubNamed name) w = (.ok n, w) := by
  rw [outcome_hubNamed, h]
  rfl

theorem outcome_handleNamed_of {name : String} {x : Nat × EntryRef} (h : w.handleNamed? name = some x) :
    outcome (handleNamed name) w = (.ok x, w) := by
  rw [outcome_handleNamed, h]
  rfl

theorem answers_replyHandle (ref : EntryRef) : Answers none (replyHandle ref) w :=
  (Hub.answers_entry ref).bind fun _ _ _ _ => .pure _

end Session

namespace Step

variable {s : Step} {n : Nat} {r : Request}

/-- By cases of the request: its names are known, and what is done besides the call refuses nothing. -/
theorem answers_request (h : s.request? = some (n, r)) :
    Answers (r.refusal? s.world n) (Session.step s.nested s.depth s.command) s.world := by
  unfold request? at h
  split at h
  · -- listen
    rename_i name p handle? hcommand
    obtain ⟨m, hm, hr⟩ := Option.map_eq_some_iff.mp h
    cases hr
    rw [hcommand]
    refine Answers.after (Session.outcome_hubOrHandle hm) (.refl _) ?_
    refine (Hub.answers_listen n p).bind fun _ ref v _ => ?_
    have hreply : ∀ u : World, Answers none (do
        [].forM fun a => Hub.attach n ref a none
        Session.replyHandle ref) u := fun u =>
      .bind (.ok rfl) fun _ _ _ _ => Session.answers_replyHandle ref
    cases handle? with
    | none => exact hreply v
    | some handle => exact .bind (.ok rfl) fun _ _ u _ => hreply u
  · -- attach
    rename_i handle c identifier? hcommand
    obtain ⟨⟨m, ref⟩, hm, hr⟩ := Option.map_eq_some_iff.mp h
    cases hr
    rw [hcommand]
    refine Answers.after (Session.outcome_handleNamed_of hm) (.refl _) ?_
    exact (Hub.answers_attachEntry n ref c identifier?).bind fun _ _ _ _ =>
      Session.answers_replyHandle ref
  · -- unlisten
    rename_i name p hcommand
    obtain ⟨m, hm, hr⟩ := Option.map_eq_some_iff.mp h
    cases hr
    rw [hcommand]
    refine Answers.after (Session.outcome_hubNamed_of hm) (.refl _) ?_
    exact (Hub.answers_unlisten n p).bind fun _ _ _ _ => .pure _
  · -- unlisten by a handle
    rename_i handle hcommand
    obtain ⟨⟨m, ref⟩, hm, hr⟩ := Option.map_eq_some_iff.mp h
    cases hr
    rw [hcommand]
    refine Answers.after (Session.outcome_handleNamed_of hm) (.refl _) ?_
    exact Hub.answers_unlistenEntry n ref Reply.nothing
  · -- look
    rename_i name names? ps hcommand
    obtain ⟨m, hm, hr⟩ := Option.map_eq_some_iff.mp h
    cases hr
    rw [hcommand]
    refine Answers.after (Session.outcome_hubNamed_of hm) (.refl _) (Answers.after rfl (.refl _) ?_)
    refine Answers.bind ?_ fun _ _ _ _ => .pure _
    exact (Hub.answers_look _ ps).bind fun _ _ _ _ => .pure _
  · -- publish
    rename_i name event payload hcommand
    obtain ⟨m, hm, hr⟩ := Option.map_eq_some_iff.mp h
    cases hr
    rw [hcommand]
    refine Answers.after (Session.outcome_hubNamed_of hm) (.refl _) ?_
    refine Answers.bind ?_ fun _ _ _ _ => .pure _
    exact (Hub.answers_publish s event payload).bind fun _ _ _ _ => .pure _
  · cases h

end Step

/-- **A refused request leaves everything as it was.** A step that listens, attaches, unlistens, looks for
patterns or publishes ends with a refusal exactly when its request is refused in the world in which it
begins, and then registries, counters, hubs, names and the log context are as they were. -/
theorem refused_request_leaves_intact (s : Step) {n : Nat} {r : Request}
    (h : s.request? = some (n, r)) :
    (∀ f, r.refusal? s.world n = some f ↔ f.isRefusal = true ∧ s.run.1 = .error (.fault f)) ∧
      ∀ f, f.isRefusal = true → s.run.1 = .error (.fault f) → s.world.Intact s.left := by
  have hanswers := s.answers_request h
  cases hrefusal : r.refusal? s.world n with
  | none =>
      rw [hrefusal] at hanswers
      -- nothing is refused, so that no run ends with a refusal
      have hno : ∀ f, ¬ (f.isRefusal = true ∧ s.run.1 = .error (.fault f)) := by
        rintro f ⟨hf, hrun⟩
        rw [hanswers f hrun] at hf
        cases hf
      exact ⟨fun f => ⟨fun hf => absurd hf nofun, fun hf => absurd hf (hno f)⟩,
        fun f hf hrun => absurd ⟨hf, hrun⟩ (hno f)⟩
  | some g =>
      rw [hrefusal] at hanswers
      obtain ⟨hg, v, hrun, hintact⟩ := hanswers
      have hstep : s.run = (.error (.fault g), v) := hrun
      have hleft : s.left = v := congrArg Prod.snd hstep
      refine ⟨fun f => ?_, fun f hf hrun => hleft ▸ hintact⟩
      rw [hstep]
      constructor
      · intro hf
        cases hf
        exact ⟨hg, rfl⟩
      · rintro ⟨-, hf⟩
        cases hf
        rfl

/-- A session in which the handle of a cleared registry is used to attach a callable. -/
def Sample.staleAttach : List (Command Behaviour) :=
  let idle := actor "idle" fun _ => .finish .none
  [create true, listen "a" "handle" idle, .hub (.clear "hub"), .hub (.attach "handle" idle none)]

/-- The handle is known, its entry is not live any more, and attaching is refused. -/
theorem refused_request_leaves_intact_staleAttach :
    ∃ s ∈ Session.steps (Sample.world 2) Sample.staleAttach, ∃ n r f, s.request? = some (n, r) ∧
      r.refusal? s.world n = some f ∧ f.className = "ChainStateError" ∧
        s.run.1 = .error (.fault f) ∧ s.world.Intact s.left := by
  obtain ⟨s, hs, ⟨n, r⟩, hrequest, f, hrefusal, hclass⟩ :
      ∃ s ∈ Session.steps (Sample.world 2) Sample.staleAttach, ∃ x ∈ s.request?,
        ∃ f ∈ x.2.refusal? s.world x.1, f.className = "ChainStateError" := by decide +kernel
  have hrefused := refused_request_leaves_intact s hrequest
  obtain ⟨hrefusing, hrun⟩ := (hrefused.1 f).mp hrefusal
  exact ⟨s, hs, n, r, f, hrequest, hrefusal, hclass, hrun, hrefused.2 f hrefusing hrun⟩

end EventHub
