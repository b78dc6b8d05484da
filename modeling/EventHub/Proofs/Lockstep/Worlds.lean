import EventHub.Hub.Session
import EventHub.Proofs.Run.Outcome
import EventHub.Proofs.Lockstep.Values

/-! # Worlds with another payload

Two runs are compared that begin alike, but for one payload. `Swap.Worlds` relates two worlds of which
everything is the same, but for the payload in the journal, and for host code that was brought in: of that
everything but the body is the same.

Two actions go in lockstep (`Swap.Runs`) if they end alike whenever they begin in related worlds. This is
closed under sequence, so that it is enough to look at the primitives.
-/

namespace EventHub

/-- Whether a command carries neither host code nor a payload. -/
def Command.isBare {β : Type} : Command β → Bool
  | .hub (.create ..) => false
  | .hub (.listen ..) => false
  | .hub (.attach ..) => false
  | .hub (.setHandler ..) => false
  | .hub (.publish ..) => false
  | .bridge _ => false
  | .registry (.attach ..) => false
  | _ => true

namespace Swap

/-! ## Host code -/

variable (s : Swap)

/-- The same callable, but for its body. -/
inductive Callables : Callable Behaviour → Callable Behaviour → Prop
  | intro {shape : Shape} {name : String} {asynchronous : Bool} {signature : Signature}
      {attributes : OrderedMap Attribute Value} {doc? : Option String} {label : String}
      {showsContext : Bool} {body body' : Nat → Fields → Behaviour}
      (h : ∀ before bound, s.code (body before bound) (body' before bound)) :
      Callables ⟨shape, name, asynchronous, signature, attributes, doc?, label, showsContext, body⟩
        ⟨shape, name, asynchronous, signature, attributes, doc?, label, showsContext, body'⟩

/-- The same error handler, but for its body. -/
inductive Handlers : Handler Behaviour → Handler Behaviour → Prop
  | intro {showsContext : Bool} {body body' : Nat → Fault → Behaviour}
      (h : ∀ before f, s.code (body before f) (body' before f)) :
      Handlers ⟨showsContext, body⟩ ⟨showsContext, body'⟩

/-- The same command, but for the payload that it hands on and for the bodies of host code that it brings in.
-/
inductive Commands : Command Behaviour → Command Behaviour → Prop
  | bare (c : Command Behaviour) (h : c.isBare = true) : Commands c c
  | create (hub : String) (registryName? tallyName? : Option String)
      {handler? handler?' : Option (Handler Behaviour)} (h : Option.Rel s.Handlers handler? handler?')
      (metrics validates warns : Value) :
      Commands (.hub (.create hub ⟨registryName?, tallyName?, handler?, metrics, validates, warns⟩))
        (.hub (.create hub ⟨registryName?, tallyName?, handler?', metrics, validates, warns⟩))
  | listen (hubOrHandle : String) (p : Pattern) (handle? : Option String)
      {actors actors' : List (Callable Behaviour)} (h : List.Forall₂ s.Callables actors actors') :
      Commands (.hub (.listen hubOrHandle p handle? actors)) (.hub (.listen hubOrHandle p handle? actors'))
  | attach (handle : String) {c c' : Callable Behaviour} (h : s.Callables c c')
      (identifier? : Option String) :
      Commands (.hub (.attach handle c identifier?)) (.hub (.attach handle c' identifier?))
  | setHandler (hub : String) {handler? handler?' : Option (Handler Behaviour)}
      (h : Option.Rel s.Handlers handler? handler?') :
      Commands (.hub (.setHandler hub handler?)) (.hub (.setHandler hub handler?'))
  | publish (hub : String) (name : Value) {payload payload' : Value} (h : s.Values payload payload')
      (times : Nat) :
      Commands (.hub (.publish hub name payload times)) (.hub (.publish hub name payload' times))
  | install (bridge hub : String) {c c' : Callable Behaviour} (h : s.Callables c c') :
      Commands (.bridge (.install bridge hub c)) (.bridge (.install bridge hub c'))
  | emit (bridge : String) (name : Value) {args args' : List Value} (h : List.Forall₂ s.Values args args')
      {named named' : Fields} (hnamed : s.Named named named') :
      Commands (.bridge (.emit bridge name args named)) (.bridge (.emit bridge name args' named'))
  | attachTo (registry entry : String) {c c' : Callable Behaviour} (h : s.Callables c c')
      (pattern : String) (identifier? : Option String) :
      Commands (.registry (.attach registry entry c pattern identifier?))
        (.registry (.attach registry entry c' pattern identifier?))

/-- The same reply, but for a payload that an emitter gives back. -/
inductive Replies : Reply → Reply → Prop
  | same (r : Reply) : Replies r r
  | value {v v' : Value} (h : s.Values v v') : Replies (.value v) (.value v')

/-! ## Worlds -/

/-- The same actor, but for its body. -/
structure Actors (a a' : Actor) : Prop where
  callable : s.Callables a.callable a'.callable
  serial : a.serial = a'.serial
  identifier : a.identifier = a'.identifier

/-- The same entry, with the same actors. -/
structure Entries (e e' : Entry Actor) : Prop where
  ref : e.ref = e'.ref
  matcher : e.matcher = e'.matcher
  active : e.active = e'.active
  actors : List.Forall₂ s.Actors e.actors e'.actors

/-- The same registry, with the same entries in the same order. -/
structure Registries (r r' : Registry Actor) : Prop where
  id : r.id = r'.id
  issued : r.issued = r'.issued
  live : List.Forall₂ s.Entries r.live r'.live
  retired : List.Forall₂ s.Entries r.retired r'.retired

/-- The same error handler of a hub. -/
structure Installed (h h' : InstalledHandler) : Prop where
  handler : s.Handlers h.handler h'.handler
  serial : h.serial = h'.serial

/-- The same hub. -/
structure Hubs (h h' : Hub) : Prop where
  registry : h.registry = h'.registry
  tally : h.tally = h'.tally
  handler : Option.Rel s.Installed h.handler? h'.handler?
  metrics : h.metrics = h'.metrics
  validates : h.validates = h'.validates
  warns : h.warns = h'.warns

/-- The same bridge. -/
structure Bridges (b b' : Bridge) : Prop where
  hub : b.hub = b'.hub
  emitter : s.Callables b.emitter b'.emitter
  serial : b.serial = b'.serial
  name : b.name = b'.name
  qualifiedName : b.qualifiedName = b'.qualifiedName
  doc : b.doc = b'.doc
  asynchronous : b.asynchronous = b'.asynchronous

/-- The same is kept under a name. -/
inductive Keeps : Kept → Kept → Prop
  | same (k : Kept) : Keeps k k
  | bridge {b b' : Bridge} (h : s.Bridges b b') : Keeps (.bridge b) (.bridge b')

/-- The same happened, but for the payload: records, errors, contexts and warnings are the same, and so are
the calls with their actors. -/
inductive Occurrences : Occurrence → Occurrence → Prop
  | same (o : Occurrence) : Occurrences o o
  | called (depth hub : Nat) (event : Event) {payload payload' : Value} (h : s.Values payload payload')
      {a a' : Actor} (ha : s.Actors a a') (context : Fields) :
      Occurrences (.called depth hub event payload a context) (.called depth hub event payload' a' context)
  | failed (depth hub : Nat) (event : Event) {a a' : Actor} (ha : s.Actors a a') (f : Fault) :
      Occurrences (.failed depth hub event a f) (.failed depth hub event a' f)
  | ran (label : String) {bound bound' : Fields} (h : s.Named bound bound') (context : Fields)
      (shows : Bool) : Occurrences (.ran label bound context shows) (.ran label bound' context shows)
  | answered {r r' : Except Fault Reply} (h : Agree s.Replies r r') :
      Occurrences (.answered r) (.answered r')

/-- The same world, but for the payload inside host code and in the journal. -/
structure Worlds (w w' : World) : Prop where
  issued : w.issued = w'.issued
  registries : OrderedMap.Rel s.Registries w.registries w'.registries
  tallies : w.tallies = w'.tallies
  hubs : OrderedMap.Rel s.Hubs w.hubs w'.hubs
  kept : OrderedMap.Rel s.Keeps w.kept w'.kept
  runs : w.runs = w'.runs
  context : w.context = w'.context
  correlations : w.correlations = w'.correlations
  configuration : w.configuration = w'.configuration
  machine : w.machine = w'.machine
  logLevel : w.logLevel = w'.logLevel
  sink : w.sink? = w'.sink?
  strict : w.strict = w'.strict
  journal : List.Forall₂ s.Occurrences w.journal w'.journal

variable {s}

/-! ### The same world -/

theorem Callables.refl (c : Callable Behaviour) : s.Callables c c := ⟨fun _ _ => s.code_refl _⟩

theorem Handlers.refl (h : Handler Behaviour) : s.Handlers h h := ⟨fun _ _ => s.code_refl _⟩

theorem Actors.refl (a : Actor) : s.Actors a a := ⟨.refl _, rfl, rfl⟩

theorem Entries.refl (e : Entry Actor) : s.Entries e e :=
  ⟨rfl, rfl, rfl, List.forall₂_same.mpr fun _ _ => .refl _⟩

theorem Registries.refl (r : Registry Actor) : s.Registries r r :=
  ⟨rfl, rfl, List.forall₂_same.mpr fun _ _ => .refl _, List.forall₂_same.mpr fun _ _ => .refl _⟩

theorem Installed.refl (h : InstalledHandler) : s.Installed h h := ⟨.refl _, rfl⟩

theorem Bridges.refl (b : Bridge) : s.Bridges b b := ⟨rfl, .refl _, rfl, rfl, rfl, rfl, rfl⟩

/-- A hub is related to itself, with an error handler or without. -/
theorem Hubs.refl (h : Hub) : s.Hubs h h := by
  refine ⟨rfl, rfl, ?_, rfl, rfl, rfl⟩
  cases h.handler? with
  | none => exact .none
  | some h => exact .some (.refl h)

/-- A world is related to itself. -/
theorem Worlds.refl (w : World) : s.Worlds w w where
  issued := rfl
  registries := .of_refl .refl _
  tallies := rfl
  hubs := .of_refl .refl _
  kept := .of_refl .same _
  runs := rfl
  context := rfl
  correlations := rfl
  configuration := rfl
  machine := rfl
  logLevel := rfl
  sink := rfl
  strict := rfl
  journal := List.forall₂_same.mpr fun o _ => .same o

/-! ### Callables -/

namespace Callables

variable {c c' : Callable Behaviour}

theorem check_eq (h : s.Callables c c') : c.check = c'.check := by
  cases h
  rfl

theorem identifier_eq (h : s.Callables c c') (pattern : String) :
    c.identifier pattern = c'.identifier pattern := by
  cases h
  rfl

theorem attribute?_eq (h : s.Callables c c') (a : Attribute) : c.attribute? a = c'.attribute? a := by
  cases h
  rfl

theorem literal_eq (h : s.Callables c c') : c.literal = c'.literal := by
  cases h
  rfl

theorem documentation?_eq (h : s.Callables c c') : c.documentation? = c'.documentation? := by
  cases h
  rfl

theorem isAsynchronous_eq (h : s.Callables c c') : c.isAsynchronous = c'.isAsynchronous := by
  cases h
  rfl

theorem shape_eq (h : s.Callables c c') : c.shape = c'.shape := by
  cases h
  rfl

theorem label_eq (h : s.Callables c c') : c.label = c'.label := by
  cases h
  rfl

theorem showsContext_eq (h : s.Callables c c') : c.showsContext = c'.showsContext := by
  cases h
  rfl

/-- An actor starts alike with either payload. -/
theorem starts_actor (h : s.Callables c c') (event : Event) {v v' : Value} (hv : s.Values v v') :
    Agree s.Starts (c.start [.event event, v] []) (c'.start [.event event, v'] []) := by
  cases h
  refine starts _ _ _ _ (fun b _ stored => builtin_after_event b stored event hv) ?_ .nil
  exact .cons (.same _) (.cons hv .nil)

/-- A callable that is not built into the host language starts alike. -/
theorem starts_of_not_builtin (h : s.Callables c c') (hbuiltin : c.shape.builtin? = none)
    {args args' : List Value} (hargs : List.Forall₂ s.Values args args') {named named' : Fields}
    (hnamed : s.Named named named') : Agree s.Starts (c.start args named) (c'.start args' named') := by
  cases h
  refine starts _ _ _ _ (fun b hb => ?_) hargs hnamed
  rw [show Shape.builtin? _ = none from hbuiltin] at hb
  cases hb

end Callables

theorem Handlers.showsContext_eq {h h' : Handler Behaviour} (hh : s.Handlers h h') :
    h.showsContext = h'.showsContext := by
  cases hh
  rfl

/-! ### Parts of worlds -/

namespace Worlds

variable {w w' : World}

/-- Registries of the same number are related. -/
theorem registry (h : s.Worlds w w') (n : Nat) : s.Registries (w.registry n) (w'.registry n) := by
  unfold World.registry
  rcases related_options (h.registries.find? n) with ⟨hr, hr'⟩ | ⟨r, r', hr, hr', hrel⟩
  · rw [hr, hr']
    exact ⟨rfl, rfl, .nil, .nil⟩
  · rw [hr, hr']
    exact hrel

/-- Hubs of the same number are related. -/
theorem hub (h : s.Worlds w w') (n : Nat) : s.Hubs (w.hub n) (w'.hub n) := by
  unfold World.hub
  rcases related_options (h.hubs.find? n) with ⟨hn, hn'⟩ | ⟨a, a', hn, hn', hrel⟩
  · rw [hn, hn']
    exact ⟨rfl, rfl, .none, rfl, rfl, rfl⟩
  · rw [hn, hn']
    exact hrel

theorem tally (h : s.Worlds w w') (n : Nat) : w.tally n = w'.tally n := by
  unfold World.tally
  rw [h.tallies]

theorem note (h : s.Worlds w w') {o o' : Occurrence} (ho : s.Occurrences o o') :
    s.Worlds (w.note o) (w'.note o') := { h with journal := .cons ho h.journal }

theorem setRegistry (h : s.Worlds w w') (n : Nat) {r r' : Registry Actor} (hr : s.Registries r r') :
    s.Worlds (w.setRegistry n r) (w'.setRegistry n r') := { h with registries := h.registries.insert n hr }

theorem setTally (h : s.Worlds w w') (n : Nat) (t : Tally) : s.Worlds (w.setTally n t) (w'.setTally n t) :=
  { h with tallies := congrArg (OrderedMap.insert · n t) h.tallies }

theorem setHub (h : s.Worlds w w') (n : Nat) {a a' : Hub} (ha : s.Hubs a a') :
    s.Worlds (w.setHub n a) (w'.setHub n a') := { h with hubs := h.hubs.insert n ha }

/-- Scopes are entered alike. -/
theorem inside (h : s.Worlds w w') (fields : Fields) : s.Worlds (w.inside fields) (w'.inside fields) :=
  { h with
    correlations := congrArg (· + 1) h.correlations
    context := by simp only [World.inside, h.context, h.correlations] }

/-- Scopes are left alike. -/
theorem leave (h : s.Worlds w w') (context : Fields) :
    s.Worlds { w with context := context } { w' with context := context } := { h with context := rfl }

/-- A record is logged alike. -/
theorem afterLog (h : s.Worlds w w') (r : Log.Record) : s.Worlds (w.afterLog r) (w'.afterLog r) := by
  unfold World.afterLog World.logged
  rw [h.logLevel, h.context, h.sink, h.machine]
  split
  · exact h
  · split
    · exact h.note (.same _)
    · exact { h.note (.same _) with sink := rfl, machine := rfl }

theorem keep (h : s.Worlds w w') (name : String) {k k' : Kept} (hk : s.Keeps k k') :
    s.Worlds { w with kept := w.kept.insert name k } { w' with kept := w'.kept.insert name k' } :=
  { h with kept := h.kept.insert name hk }

end Worlds

end Swap

/-! ## Runs in lockstep -/

namespace Swap

variable {s : Swap} {α β γ δ : Type} {R : α → β → Prop} {S : γ → δ → Prop}

/-- Two runs end alike: with related results or with the same stop, in related worlds. -/
inductive Ends (s : Swap) (R : α → β → Prop) : Except Stop α × World → Except Stop β × World → Prop
  | ok {a : α} {b : β} {w w' : World} (h : R a b) (hw : s.Worlds w w') : Ends s R (.ok a, w) (.ok b, w')
  | error (stop : Stop) {w w' : World} (hw : s.Worlds w w') : Ends s R (.error stop, w) (.error stop, w')

/-- Runs that end alike leave related worlds. -/
theorem Ends.worlds {r : Except Stop α × World} {r' : Except Stop β × World} (h : s.Ends R r r') :
    s.Worlds r.2 r'.2 := by
  cases h with
  | ok _ hw => exact hw
  | error _ hw => exact hw

/-- A sequence ends alike, if its first part does, and the rest that goes on from there. -/
theorem Ends.bind {act : Run α} {act' : Run β} {f : α → Run γ} {f' : β → Run δ} {w w' : World}
    (h : s.Ends R (Run.outcome act w) (Run.outcome act' w'))
    (hf : ∀ a b v v', R a b → s.Worlds v v' → s.Ends S (Run.outcome (f a) v) (Run.outcome (f' b) v')) :
    s.Ends S (Run.outcome (act >>= f) w) (Run.outcome (act' >>= f') w') := by
  rw [Run.outcome_bind, Run.outcome_bind]
  generalize Run.outcome act w = r at h ⊢
  generalize Run.outcome act' w' = r' at h ⊢
  cases h with
  | ok hab hv => exact hf _ _ _ _ hab hv
  | error stop hv => exact .error stop hv

/-- Two actions go in lockstep: beginning in related worlds, they end alike. -/
structure Runs (s : Swap) (R : α → β → Prop) (act : Run α) (act' : Run β) : Prop where
  ends : ∀ w w', s.Worlds w w' → s.Ends R (Run.outcome act w) (Run.outcome act' w')

namespace Runs

open Run

theorem pure {a : α} {b : β} (h : R a b) : s.Runs R (Pure.pure a) (Pure.pure b) := ⟨fun _ _ hw => .ok h hw⟩

theorem throw (stop : Stop) : s.Runs R (throw stop) (throw stop) := ⟨fun _ _ hw => .error stop hw⟩

theorem raise (f : Fault) : s.Runs R (raise f) (raise f) := throw _

theorem bind {act : Run α} {act' : Run β} {f : α → Run γ} {f' : β → Run δ} (h : s.Runs R act act')
    (hf : ∀ a b, R a b → s.Runs S (f a) (f' b)) : s.Runs S (act >>= f) (act' >>= f') :=
  ⟨fun w w' hw => (h.ends w w' hw).bind fun a b _ _ hab hv => (hf a b hab).ends _ _ hv⟩

/-- One action after another, where the first one has the same result in both runs. -/
theorem bind_same {act act' : Run α} {f : α → Run γ} {f' : α → Run δ} (h : s.Runs Eq act act')
    (hf : ∀ a, s.Runs S (f a) (f' a)) : s.Runs S (act >>= f) (act' >>= f') := by
  refine bind h ?_
  rintro a _ rfl
  exact hf a

/-- What follows a fault is not reached. -/
theorem raise_bind (f : Fault) (g : α → Run γ) (g' : β → Run δ) :
    s.Runs S (Run.raise f >>= g) (Run.raise f >>= g') := ⟨fun _ _ hw => .error _ hw⟩

/-- The world may be looked at, if what follows treats related worlds alike. -/
theorem get_bind {f : World → Run γ} {f' : World → Run δ}
    (h : ∀ w w', s.Worlds w w' → s.Runs S (f w) (f' w')) : s.Runs S (get >>= f) (get >>= f') :=
  ⟨fun w w' hw => (h w w' hw).ends w w' hw⟩

theorem set {v v' : World} (h : s.Worlds v v') : s.Runs Eq (set v : Run PUnit) (set v') :=
  ⟨fun _ _ _ => .ok rfl h⟩

theorem modify {f f' : World → World} (h : ∀ w w', s.Worlds w w' → s.Worlds (f w) (f' w')) :
    s.Runs Eq (modify f : Run PUnit) (modify f') := ⟨fun w w' hw => .ok rfl (h w w' hw)⟩

/-- A fault that is held back is the same one in both runs. -/
theorem attempt {act : Run α} {act' : Run β} (h : s.Runs R act act') :
    s.Runs (Agree R) (attempt act) (attempt act') := by
  refine ⟨fun w w' hw => ?_⟩
  have hends := h.ends w w' hw
  rw [outcome_attempt, outcome_attempt]
  generalize outcome act w = r at hends ⊢
  generalize outcome act' w' = r' at hends ⊢
  cases hends with
  | ok hab hv => exact .ok (.ok hab) hv
  | error stop hv =>
      -- a fault is given to what follows
      cases stop with
      | fault f => exact .ok (.error f) hv
      -- the limit of nested calls is not held back
      | tooDeep => exact .error _ hv

/-- An action for each of two lists of related items. -/
theorem forM {xs : List α} {ys : List β} {f : α → Run PUnit} {f' : β → Run PUnit}
    (hxs : List.Forall₂ R xs ys) (h : ∀ x y, R x y → s.Runs Eq (f x) (f' y)) :
    s.Runs Eq (xs.forM f) (ys.forM f') := by
  induction hxs with
  | nil => exact pure rfl
  | cons hxy _ ih => exact bind (h _ _ hxy) fun _ _ _ => ih

/-- An action for each item of one list, with the same results. -/
theorem mapM {f f' : α → Run β} (xs : List α) (h : ∀ x, s.Runs Eq (f x) (f' x)) :
    s.Runs Eq (xs.mapM f) (xs.mapM f') := by
  induction xs with
  | nil =>
      rw [List.mapM_nil, List.mapM_nil]
      exact pure rfl
  | cons x xs ih =>
      rw [List.mapM_cons, List.mapM_cons]
      refine bind (h x) fun b b' hb => bind ih fun bs bs' hbs => pure ?_
      rw [hb, hbs]

theorem note {o o' : Occurrence} (h : s.Occurrences o o') : s.Runs Eq (note o) (note o') :=
  modify fun _ _ hw => hw.note h

end Runs

end Swap

end EventHub
