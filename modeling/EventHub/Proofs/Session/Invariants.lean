import EventHub.Proofs.Session.Plain

/-! # Invariants of whole sessions

What every move keeps, and every report of a failure, is kept by a step with all the host code that runs
during it, however deeply commands are nested. This is shown once for paths. A path leads from a sound world to
a later one, with the steps that are carried out on the way, and what holds of paths is put together from parts
(`World.Paths`). An invariant (`R w v` says that what holds of `w` holds of `v`) and a comparison with
the world at the beginning are instances of it (`World.paths_leads`), and so is a comparison of each step
without host code with what comes after it (`World.paths_leadsOn`).

The report of a failure is apart from the moves because it answers for the whole call: what it does to the
counts may be judged against the world in which the call began.

Main statements: `Step.path` and `Session.path` for paths; `Visit.leads_of_steps` for the call of a visit,
`Session.leads` for a session, and `Session.leads_on` for the steps after a step of a session.
-/

namespace EventHub

open Run

/-! ## Paths -/

/-- A visit begins in a sound world, on a hub that exists, after the event was published. -/
structure Visit.Sound (p : Publication) (x : Visit) : Prop where
  world : x.before.Sound
  hub : x.before.hasHub p.hub = true
  published : (.publish, x.event.name) ∈ x.before.eventsOf p.hub

/-- What `K` says of paths is put together from parts: `K` holds where hubs, names, registries and counters are
left alone, of two paths one after the other, and of a step if it holds of what happens during the step. -/
structure World.Paths (K : World → List Step → World → Prop) : Prop where
  sound : ∀ {w v : World} {ss : List Step}, K w ss v → v.Sound
  later : ∀ {w v : World} {ss : List Step}, K w ss v → w.Later v
  alike : ∀ {w v : World}, w.Sound → w.Alike v → K w [] v
  trans : ∀ {w v u : World} {ss ss' : List Step}, K w ss v → K v ss' u → K w (ss ++ ss') u
  step : ∀ {s : Step}, s.world.Sound →
    K s.world (s.tasks.flatMap (Task.steps s.fuel (s.depth + 1))) s.left → K s.world s.trace s.left

/-- `K` holds of what a step does by itself: of each move, and of each report of a failure if it holds of the
call. -/
structure Step.Paves (K : World → List Step → World → Prop) (s : Step) : Prop where
  move : ∀ {w v : World}, w.Sound → s.Move w v → K w [] v
  failed : ∀ {p : Publication} {x : Visit} {f : Fault} {ss : List Step}, (p, x) ∈ s.visits → x.Sound p →
    x.failure? p = some f → K x.before ss (x.call p).2 → K (x.start p) ss (x.call p).2 →
    K x.before ss (x.failed p f)

variable {K : World → List Step → World → Prop}

namespace World.Paths

variable {w v u : World} {ss : List Step}

/-- Nothing is done. -/
theorem refl (hK : Paths K) (hw : w.Sound) : K w [] w := hK.alike hw (.refl w)

theorem nil_trans (hK : Paths K) (h : K w [] v) (h' : K v ss u) : K w ss u := hK.trans h h'

theorem trans_nil (hK : Paths K) (h : K w ss v) (h' : K v [] u) : K w ss u :=
  List.append_nil ss ▸ hK.trans h h'

theorem then_alike (hK : Paths K) (h : K w ss v) (h' : v.Alike u) : K w ss u :=
  hK.trans_nil h (hK.alike (hK.sound h) h')

theorem hasHub (hK : Paths K) (h : K w ss v) {n : Nat} (hn : w.hasHub n = true) : v.hasHub n = true :=
  (hK.later h).hubs n hn

/-- The moves of a step lead along a path without further steps. -/
theorem moves {s : Step} (hK : Paths K) (hs : s.Paves K) (hw : w.Sound)
    (h : Relation.ReflTransGen s.Move w v) : K w [] v := by
  induction h with
  | refl => exact hK.refl hw
  | tail _ hmove ih => exact hK.trans_nil ih (hs.move (hK.sound ih) hmove)

end World.Paths

/-! ## Host code -/

/-- `K` holds of host code, from its beginning to its end. -/
def Task.HasPath (K : World → List Step → World → Prop) (fuel depth : Nat) (t : Task) : Prop :=
  K t.world (t.steps fuel depth) (outcome (t.code.run (Session.perform depth fuel)) t.world).2

/-- A behaviour goes from command to command, and the answers leave everything alone. -/
theorem Behaviour.path (hK : World.Paths K) (nested : Perform) (listed : Command Behaviour × World → List Step)
    (b : Behaviour) {w : World} (hw : w.Sound)
    (h : ∀ x ∈ b.requests nested w, x.2.Sound → K x.2 (listed x) (outcome (nested x.1) x.2).2) :
    K w ((b.requests nested w).flatMap listed) (outcome (b.run nested) w).2 :=
  Behaviour.run_along (R := fun w ss v => w.Sound → K w ss v) (fun _ hw => hK.refl hw)
    (fun h h' hw => hK.trans (h hw) (h' (hK.sound (h hw)))) (fun w _ hw => hK.alike hw (.note rfl w)) nested
    listed b w (fun x hx _ hsound => h x hx hsound) hw

/-- A body begins when its run is counted and in the journal. -/
theorem Hub.alike_of_callTask {c : Callable Behaviour} {serial : Nat} {awaited : Bool} {args : List Value}
    {named : Fields} {w : World} {t : Task} (h : callTask? c serial awaited args named w = some t) :
    w.Alike t.world := by
  have hbody : ∀ bound, w.Alike (bodyTask c serial bound w).world := fun bound =>
    (World.Alike.of_effect (e := .countRun serial) (by simp) w).trans (.note rfl _)
  -- only a body that runs begins a world of its own
  unfold callTask? at h
  split at h
  · cases h
    exact hbody _
  · split at h
    · cases h
      exact hbody _
    · cases h
  · cases h

/-- The call of a callable, with the steps of the body that it runs. -/
theorem Hub.path_call (hK : World.Paths K) {c : Callable Behaviour} {serial : Nat} {awaited : Bool}
    {args : List Value} {named : Fields} {w : World} {fuel depth : Nat} (hw : w.Sound)
    (htask : ∀ t ∈ callTask? c serial awaited args named w, t.world.Sound → t.HasPath K fuel depth) :
    K w ((callTask? c serial awaited args named w).toList.flatMap (Task.steps fuel depth))
      (outcome (call (Session.perform depth fuel) c serial awaited args named) w).2 := by
  cases hbody : callTask? c serial awaited args named w with
  | none =>
      -- no body runs, and nothing changes
      rw [left_call_of_no_task hbody]
      exact hK.refl hw
  | some t =>
      have ht := hK.alike hw (alike_of_callTask hbody)
      rw [outcome_call_of_task hbody, Option.toList_some, List.flatMap_singleton]
      exact hK.nil_trans ht (htask t hbody (hK.sound ht))

/-! ## Visits -/

namespace Visit

variable {s : Step} {p : Publication} {x : Visit} {ss : List Step}

/-- The steps of the host code that a visit runs. -/
def trace (p : Publication) (x : Visit) : List Step := (x.tasks p).flatMap (Task.steps p.fuel (p.depth + 1))

/-- In the world in which the callable is called, the call is entered and counted. -/
theorem alike_start (p : Publication) (x : Visit) :
    (x.before.entered (.called p.depth p.hub x.event p.payload x.actor (x.inside p).context)).Alike
      (x.start p) := by
  have hentered : x.before.entered
      (.called p.depth p.hub x.event p.payload x.actor (x.inside p).context) =
      (x.before.counted p.hub .call x.event.name).note
        (.called p.depth p.hub x.event p.payload x.actor (x.inside p).context) :=
    World.counted_note ..
  rw [hentered]
  exact .of_fields (Nat.le_refl _) rfl rfl rfl rfl rfl

theorem Sound.start (hx : x.Sound p) : (x.start p).Sound := by
  refine (hx.world.entered fun e he => ?_).alike (x.alike_start p)
  cases he
  exact hx.hub

/-- The call, with the steps of the body that it runs. -/
theorem path_call (hK : World.Paths K) (hx : x.Sound p)
    (htask : ∀ t ∈ x.bodyTask? p, t.world.Sound → t.HasPath K p.fuel (p.depth + 1)) :
    K (x.start p) (x.steps p) (x.call p).2 :=
  Hub.path_call hK hx.start htask

section

variable (hK : World.Paths K) (hs : s.Paves K) (hx : x.Sound p)
include hK hs hx

theorem path_start : K x.before [] (x.start p) :=
  hK.then_alike (hs.move hx.world (.enterCall hx.hub hx.published ..)) (x.alike_start p)

theorem path_reported (hmem : (p, x) ∈ s.visits) {f : Fault} (hfailure : x.failure? p = some f)
    (hcall : K (x.start p) ss (x.call p).2) : K x.before ss (x.reported p f) :=
  hK.then_alike (hs.failed hmem hx hfailure (hK.nil_trans (path_start hK hs hx) hcall) hcall) (.afterLog _ _)

omit hs hx in
/-- The handler begins when its run is counted and in the journal. -/
theorem path_told {f : Fault} {h : InstalledHandler} (hreported : K x.before ss (x.reported p f))
    (htask : (x.handlerTask p f h).world.Sound → (x.handlerTask p f h).HasPath K p.fuel (p.depth + 1)) :
    K x.before (ss ++ (x.handlerTask p f h).steps p.fuel (p.depth + 1)) (x.told p f h) := by
  have hbegin : K x.before ss (x.handlerTask p f h).world :=
    hK.then_alike (hK.then_alike hreported (.of_effect (e := .countRun h.serial) (by simp) _)) (.note rfl _)
  have hhandling : K x.before (ss ++ (x.handlerTask p f h).steps p.fuel (p.depth + 1)) (x.handling p f h).2 :=
    hK.trans hbegin (htask (hK.sound hbegin))
  unfold told
  split
  · exact hhandling
  · exact hK.then_alike hhandling (.afterLog _ _)

/-- What follows the call: a failure is reported, and the error handler is told. -/
theorem path_settled (hmem : (p, x) ∈ s.visits) (hcall : K (x.start p) ss (x.call p).2)
    (htask : ∀ t ∈ x.handlerTask? p, t.world.Sound → t.HasPath K p.fuel (p.depth + 1)) :
    K x.before (ss ++ (x.handlerTask? p).toList.flatMap (Task.steps p.fuel (p.depth + 1))) (x.settled p) := by
  cases hfailure : x.failure? p with
  | none =>
      -- no failure, and the call is all
      have hsettled : x.settled p = (x.call p).2 := by simp [settled, hfailure]
      have htold : x.handlerTask? p = none := by simp [handlerTask?, hfailure]
      rw [hsettled, htold, Option.toList_none, List.flatMap_nil, List.append_nil]
      exact hK.nil_trans (path_start hK hs hx) hcall
  | some f =>
      have hreported := path_reported hK hs hx hmem hfailure hcall
      -- no error handler is told
      cases hhandler : x.handler? p with
      | none =>
          have hsettled : x.settled p = x.reported p f := by simp [settled, hfailure, hhandler]
          have htold : x.handlerTask? p = none := by simp [handlerTask?, hhandler]
          rw [hsettled, htold, Option.toList_none, List.flatMap_nil, List.append_nil]
          exact hreported
      | some h =>
          have hsettled : x.settled p = x.told p f h := by simp [settled, hfailure, hhandler]
          have htold : x.handlerTask? p = some (x.handlerTask p f h) := by
            simp [handlerTask?, hfailure, hhandler]
          rw [hsettled, htold, Option.toList_some, List.flatMap_singleton]
          exact path_told hK hreported (htask _ htold)

/-- A visit, with the host code that it runs. -/
theorem path (hmem : (p, x) ∈ s.visits)
    (htasks : ∀ t ∈ x.tasks p, t.world.Sound → t.HasPath K p.fuel (p.depth + 1)) :
    K x.before (x.trace p) (x.left p) := by
  have hcall := path_call hK hx fun t ht => htasks t (List.mem_append_left _ (Option.mem_toList.mpr ht))
  have hsettled := path_settled hK hs hx hmem hcall fun t ht =>
    htasks t (List.mem_append_right _ (Option.mem_toList.mpr ht))
  unfold trace tasks
  rw [List.flatMap_append]
  -- leaving the scope changes the context only
  exact hK.then_alike hsettled (.of_fields (Nat.le_refl _) rfl rfl rfl rfl rfl)

end

end Visit

/-! ## Publishes -/

namespace Publication

variable {s : Step} {p : Publication}

/-- By induction on the targets: each visit goes on from the world that the one before leaves. -/
theorem path_visitsTo (hK : World.Paths K) (hs : s.Paves K) (ts : List (Event × Actor)) {w : World}
    (hw : w.Sound) (hn : w.hasHub p.hub = true) (hpublished : (.publish, p.name) ∈ w.eventsOf p.hub)
    (hnames : ∀ t ∈ ts, t.1.name = p.name) (hmem : ∀ x ∈ p.visitsTo ts w, (p, x) ∈ s.visits)
    (htasks : ∀ x ∈ p.visitsTo ts w, ∀ t ∈ x.tasks p, t.world.Sound → t.HasPath K p.fuel (p.depth + 1)) :
    K w ((p.visitsTo ts w).flatMap (Visit.trace p)) (p.leftBy (p.visitsTo ts w) w) := by
  induction ts generalizing w with
  | nil => exact hK.refl hw
  | cons t ts ih =>
      -- the first visit is of the first target, and the others begin in the world that it leaves
      have hname : t.1.name = p.name := hnames t (by simp)
      have hvisits : ∃ rest, p.visitsTo (t :: ts) w = Visit.of t w :: rest := by
        unfold visitsTo
        split <;> exact ⟨_, rfl⟩
      obtain ⟨rest, hrest⟩ := hvisits
      have hsound : (Visit.of t w).Sound p := ⟨hw, hn, by rw [Visit.of, hname]; exact hpublished⟩
      have hfirst : K w ((Visit.of t w).trace p) ((Visit.of t w).left p) :=
        Visit.path hK hs hsound (hmem _ (by simp [hrest])) (htasks _ (by simp [hrest]))
      cases hescape : (Visit.of t w).escape? p with
      | none =>
          rw [visitsTo_cons_held hescape] at hmem htasks ⊢
          rw [List.flatMap_cons]
          exact hK.trans hfirst (ih (hK.sound hfirst) (hK.hasHub hfirst hn)
            ((hK.later hfirst).eventsOf hpublished) (fun u hu => hnames u (List.mem_cons_of_mem t hu))
            (fun x hx => hmem x (List.mem_cons_of_mem _ hx))
            fun x hx => htasks x (List.mem_cons_of_mem _ hx))
      | some stop =>
          rw [visitsTo_cons_escaped hescape, List.flatMap_singleton]
          exact hfirst

/-- The targets of a publish have its event name. -/
theorem name_of_listeners {w : World} : ∀ t ∈ p.listeners w, t.1.name = p.name := by
  intro t ht
  obtain ⟨e, -, ht⟩ := List.mem_flatMap.mp ht
  obtain ⟨a, -, rfl⟩ := List.mem_map.mp ht
  rfl

/-- The publish is entered, and its scope after that. -/
theorem path_opened (hK : World.Paths K) (hs : s.Paves K) {w : World} (hw : w.Sound)
    (hn : w.hasHub p.hub = true) :
    K w [] (p.opened w) ∧ (.publish, p.name) ∈ (p.opened w).eventsOf p.hub := by
  have hentered : K w [] (w.entered (.published p.depth p.hub p.name)) :=
    hs.move hw (.publish hn p.depth p.name)
  have hopened : (w.entered (.published p.depth p.hub p.name)).Alike (p.opened w) := by
    refine .trans ?_ (.afterLog (p.inside w) _)
    exact .of_fields (Nat.le_refl _) rfl rfl rfl rfl rfl
  refine ⟨hK.then_alike hentered hopened, ?_⟩
  rw [hopened.eventsOf]
  have hhappened := w.happened_entered (.published p.depth p.hub p.name)
  refine List.mem_filterMap.mpr ⟨(p.hub, .publish, p.name), ?_, by simp⟩
  rw [hhappened]
  simp [Occurrence.counted?]

/-- A publish, with the host code that it runs. -/
theorem path (hK : World.Paths K) (hs : s.Paves K) {w : World} (hw : w.Sound)
    (hn : w.hasHub p.hub = true) (hmem : ∀ x ∈ p.visits w, (p, x) ∈ s.visits)
    (htasks : ∀ x ∈ p.visits w, ∀ t ∈ x.tasks p, t.world.Sound → t.HasPath K p.fuel (p.depth + 1)) :
    K w ((p.visits w).flatMap (Visit.trace p)) (p.run w).2 := by
  obtain ⟨hopened, hpublished⟩ := path_opened (p := p) hK hs hw hn
  have hall := path_visitsTo hK hs (p.listeners w) (hK.sound hopened) (hK.hasHub hopened hn) hpublished
    name_of_listeners hmem htasks
  rw [p.run_eq w]
  exact hK.then_alike (hK.nil_trans hopened hall) (.of_fields (Nat.le_refl _) rfl rfl rfl rfl rfl)

/-- By induction on the number of publishes that are left. -/
theorem path_repeats (hK : World.Paths K) (hs : s.Paves K) (times : Nat) {w : World} (hw : w.Sound)
    (hn : w.hasHub p.hub = true)
    (hmem : ∀ v ∈ p.repeats times w, ∀ x ∈ p.visits v, (p, x) ∈ s.visits)
    (htasks : ∀ v ∈ p.repeats times w, ∀ x ∈ p.visits v, ∀ t ∈ x.tasks p, t.world.Sound →
      t.HasPath K p.fuel (p.depth + 1)) :
    K w ((p.repeats times w).flatMap fun v => (p.visits v).flatMap (Visit.trace p))
      (outcome (Hub.publishTimes p.nested p.depth p.hub (.text p.name) p.payload times) w).2 := by
  induction times generalizing w with
  | zero => exact hK.refl hw
  | succ times ih =>
      unfold repeats at hmem htasks ⊢
      unfold Hub.publishTimes
      have hfirst := path hK hs hw hn (hmem w (by simp)) (htasks w (by simp))
      rw [List.flatMap_cons]
      rcases hrun : p.run w with ⟨stop | _, v⟩
      · -- the publish does not return
        rw [outcome_bind_error hrun, List.flatMap_nil, List.append_nil]
        rw [hrun] at hfirst
        exact hfirst
      · rw [outcome_bind_ok hrun]
        rw [hrun] at hfirst hmem htasks
        exact hK.trans hfirst (ih (hK.sound hfirst) (hK.hasHub hfirst hn)
          (fun u hu => hmem u (List.mem_cons_of_mem _ hu)) fun u hu => htasks u (List.mem_cons_of_mem _ hu))

end Publication

/-! ## Steps -/

/-- The hub under a name, or the fault of an unknown name. -/
theorem Run.outcome_hubNamed (name : String) (w : World) :
    outcome (hubNamed name) w =
      ((w.hubNamed? name).elim (.error (.fault (unknownName name))) .ok, w) := by
  unfold hubNamed World.hubNamed?
  rw [outcome_find]
  cases w.kept.find? name with
  | none => rfl
  | some k => cases k <;> rfl

/-- The handle under a name, or the fault of an unknown name. -/
theorem Run.outcome_handleNamed (name : String) (w : World) :
    outcome (handleNamed name) w =
      ((w.handleNamed? name).elim (.error (.fault (unknownName name))) .ok, w) := by
  unfold handleNamed World.handleNamed?
  rw [outcome_find]
  cases w.kept.find? name with
  | none => rfl
  | some k => cases k <;> rfl

/-- The bridge under a name, or the fault of an unknown name. -/
theorem Run.outcome_bridgeNamed (name : String) (w : World) :
    outcome (bridgeNamed name) w =
      ((w.bridgeNamed? name).elim (.error (.fault (unknownName name))) .ok, w) := by
  unfold bridgeNamed World.bridgeNamed?
  rw [outcome_find]
  cases w.kept.find? name with
  | none => rfl
  | some k => cases k <;> rfl

namespace World.Sound

variable {w : World}

/-- A hub that has a name exists. -/
theorem hubNamed (hw : w.Sound) {name : String} {n : Nat} (h : w.hubNamed? name = some n) :
    w.hasHub n = true := by
  unfold World.hubNamed? at h
  split at h
  · rename_i m hk
    cases h
    exact hw.kept name _ hk
  · cases h

/-- The hub of a bridge that has a name exists. -/
theorem bridgeNamed (hw : w.Sound) {name : String} {b : Bridge} (h : w.bridgeNamed? name = some b) :
    w.hasHub b.hub = true := by
  unfold World.bridgeNamed? at h
  split at h
  · rename_i m hk
    cases h
    exact hw.kept name _ hk
  · cases h

end World.Sound

namespace Step

variable {s : Step}

theorem tasks_eq_nil (hpublications : s.publications = []) (hemitter : s.emitterTask? = none) :
    s.tasks = [] := by
  simp [tasks, visits, hpublications, hemitter]

theorem emitterTask?_plain (h : s.command.isPlain = true) : s.emitterTask? = none := by
  unfold emitterTask?
  split <;> simp_all [Command.isPlain]

theorem tasks_plain (h : s.command.isPlain = true) : s.tasks = [] := by
  refine tasks_eq_nil ?_ (emitterTask?_plain h)
  unfold publications
  split <;> simp_all [Command.isPlain]

/-- Only publishing and emitting run host code. -/
theorem plain_or_publishes (s : Step) : s.command.isPlain = true ∨
    (∃ name event payload times, s.command = .hub (.publish name event payload times)) ∨
      ∃ name event args named, s.command = .bridge (.emit name event args named) := by
  cases hcommand : s.command with
  | hub c =>
      cases c with
      | publish name event payload times => exact .inr (.inl ⟨name, event, payload, times, rfl⟩)
      | _ => exact .inl rfl
  | bridge c =>
      cases c with
      | emit name event args named => exact .inr (.inr ⟨name, event, args, named, rfl⟩)
      | install name hub emitter => exact .inl rfl
  | _ => exact .inl rfl

/-- **What a publishing step does**: nothing, or it publishes an event on a hub time after time. -/
theorem publish_cases {name : String} {event payload : Value} {times : Nat}
    (hcommand : s.command = .hub (.publish name event payload times)) : s.emitterTask? = none ∧
      ((s.left = s.world ∧ s.publications = []) ∨ ∃ n text, s.world.hubNamed? name = some n ∧
        s.publications = ((s.publication n text payload).repeats times s.world).map
          (s.publication n text payload, ·) ∧
        s.left = (outcome (Hub.publishTimes s.nested s.depth n (.text text) payload times) s.world).2) := by
  refine ⟨by simp [emitterTask?, hcommand], ?_⟩
  have hleft : s.left = (outcome (do
      Hub.publishTimes s.nested s.depth (← hubNamed name) event payload times
      return Reply.nothing) s.world).2 := by
    unfold left run
    rw [hcommand]
    rfl
  have hnamed := Run.outcome_hubNamed name s.world
  cases hhub : s.world.hubNamed? name with
  | none =>
      -- no hub has the name
      rw [hhub] at hnamed
      rw [outcome_bind_error hnamed] at hleft
      refine .inl ⟨hleft, ?_⟩
      unfold publications
      rw [hcommand]
      cases event <;> simp [hhub]
  | some n =>
      rw [hhub] at hnamed
      rw [outcome_bind_ok hnamed, left_bind_pure] at hleft
      cases event with
      | text text => exact .inr ⟨n, text, rfl, by simp [publications, hcommand, hhub], hleft⟩
      | _ =>
          -- the name is no text, and the publish is refused
          refine .inl ⟨hleft.trans ?_, by simp [publications, hcommand]⟩
          cases times <;> rfl

/-- **What an emitting step does**: nothing, or it publishes an event on the hub of a bridge. If this returns,
it then calls the emitter. -/
theorem emit_cases {name : String} {event : Value} {args : List Value} {named : Fields}
    (hcommand : s.command = .bridge (.emit name event args named)) :
    (s.left = s.world ∧ s.publications = [] ∧ s.emitterTask? = none) ∨
      ∃ b text, s.world.bridgeNamed? name = some b ∧
        s.publications = [(s.publication b.hub text (args.head?.getD .none), s.world)] ∧
        ((∃ stop, (s.publication b.hub text (args.head?.getD .none)).run s.world = (.error stop, s.left) ∧
            s.emitterTask? = none) ∨
          ∃ v, (s.publication b.hub text (args.head?.getD .none)).run s.world = (.ok ⟨⟩, v) ∧
            s.emitterTask? = Hub.callTask? b.emitter b.serial b.asynchronous (.text text :: args) named v ∧
            s.left = (outcome
              (Hub.call s.nested b.emitter b.serial b.asynchronous (.text text :: args) named) v).2) := by
  have hleft : s.left = (outcome (do
      let b ← bridgeNamed name
      return Reply.value (← Hub.emit s.nested s.depth b event args named)) s.world).2 := by
    unfold left run
    rw [hcommand]
    rfl
  have hbridged := Run.outcome_bridgeNamed name s.world
  cases hbridge : s.world.bridgeNamed? name with
  | none =>
      -- no bridge has the name
      rw [hbridge] at hbridged
      rw [outcome_bind_error hbridged] at hleft
      refine .inl ⟨hleft, ?_, by simp [emitterTask?, hcommand, hbridge]⟩
      unfold publications
      rw [hcommand]
      cases event <;> simp [hbridge]
  | some b =>
      rw [hbridge] at hbridged
      rw [outcome_bind_ok hbridged, left_bind_pure] at hleft
      unfold Hub.emit at hleft
      cases hnamed : named.contains "name" with
      | true =>
          -- the name is given twice
          rw [hnamed] at hleft
          refine .inl ⟨hleft, ?_, by simp [emitterTask?, hcommand, hbridge, hnamed]⟩
          unfold publications
          rw [hcommand]
          cases event <;> simp [hbridge, hnamed]
      | false =>
          rw [hnamed] at hleft
          simp only [Bool.false_eq_true, if_false] at hleft
          cases event with
          | text text =>
              refine .inr ⟨b, text, rfl, by simp [publications, hcommand, hbridge, hnamed], ?_⟩
              rcases hrun : outcome (Hub.publish s.nested s.depth b.hub (.text text)
                (args.head?.getD .none)) s.world with ⟨stop | _, v⟩
              · -- the publish does not return, and the emitter is not called
                rw [outcome_bind_error hrun] at hleft
                exact .inl ⟨stop, hleft ▸ hrun, by simp [emitterTask?, hcommand, hbridge, hnamed, hrun]⟩
              · rw [outcome_bind_ok hrun] at hleft
                exact .inr ⟨v, hrun, by simp [emitterTask?, hcommand, hbridge, hnamed, hrun], hleft⟩
          | _ =>
              -- the name is no text, and the publish is refused
              refine .inl ⟨hleft, by simp [publications, hcommand], ?_⟩
              simp [emitterTask?, hcommand, hbridge, hnamed, Hub.publish]

/-- The steps during a step are those of the host code of its visits and of its emitter. -/
theorem flatMap_tasks (s : Step) :
    s.tasks.flatMap (Task.steps s.fuel (s.depth + 1)) =
      (s.publications.flatMap fun y => (y.1.visits y.2).flatMap (Visit.trace y.1)) ++
        s.emitterTask?.toList.flatMap (Task.steps s.fuel (s.depth + 1)) := by
  have hvisits : (s.visits.flatMap fun y => y.2.tasks y.1).flatMap (Task.steps s.fuel (s.depth + 1)) =
      s.visits.flatMap fun y => y.2.trace y.1 := by
    rw [List.flatMap_assoc]
    refine List.flatMap_congr fun y hy => ?_
    obtain ⟨hfuel, hdepth⟩ := level_of_mem_visits hy
    rw [Visit.trace, hfuel, hdepth]
  have htasks : s.tasks = (s.visits.flatMap fun y => y.2.tasks y.1) ++ s.emitterTask?.toList := rfl
  have hlisted : s.visits = s.publications.flatMap fun y => (y.1.visits y.2).map (y.1, ·) := rfl
  rw [htasks, List.flatMap_append, hvisits, hlisted, List.flatMap_assoc]
  simp only [List.flatMap_map]

/-- Nothing is done. -/
theorem path_nothing (hK : World.Paths K) (hw : s.world.Sound) (hleft : s.left = s.world)
    (hpublications : s.publications = []) (hemitter : s.emitterTask? = none) :
    K s.world (s.tasks.flatMap (Task.steps s.fuel (s.depth + 1))) s.left := by
  rw [hleft, tasks_eq_nil hpublications hemitter]
  exact hK.refl hw

section

variable (hK : World.Paths K) (hs : s.Paves K) (hw : s.world.Sound)
  (htasks : ∀ t ∈ s.tasks, t.world.Sound → t.HasPath K s.fuel (s.depth + 1))
include hK hs hw htasks

/-- A publishing step, with the host code of its visits. -/
theorem path_publish {name : String} {event payload : Value} {times : Nat}
    (hcommand : s.command = .hub (.publish name event payload times)) :
    K s.world (s.tasks.flatMap (Task.steps s.fuel (s.depth + 1))) s.left := by
  obtain ⟨hemitter, ⟨hleft, hnone⟩ | ⟨n, text, hhub, hpublications, hleft⟩⟩ := publish_cases hcommand
  · exact path_nothing hK hw hleft hnone hemitter
  · have hvisits : ∀ v ∈ (s.publication n text payload).repeats times s.world,
        ∀ x ∈ (s.publication n text payload).visits v, (s.publication n text payload, x) ∈ s.visits := by
      intro v hv x hx
      refine mem_visits.mpr ⟨v, ?_, hx⟩
      rw [hpublications]
      exact List.mem_map_of_mem hv
    have hall := Publication.path_repeats hK hs times hw (hw.hubNamed hhub) hvisits
      fun v hv x hx t ht => htasks t (mem_tasks.mpr (.inl ⟨_, x, hvisits v hv x hx, ht⟩))
    rw [hleft, flatMap_tasks, hpublications, hemitter, List.flatMap_map, Option.toList_none, List.flatMap_nil,
      List.append_nil]
    exact hall

/-- A bridge publishes and then calls its emitter, in the world that the publish leaves. -/
theorem path_emit {name : String} {event : Value} {args : List Value} {named : Fields}
    (hcommand : s.command = .bridge (.emit name event args named)) :
    K s.world (s.tasks.flatMap (Task.steps s.fuel (s.depth + 1))) s.left := by
  obtain ⟨hleft, hnone, hemitter⟩ | ⟨b, text, hbridge, hpublications, hruns⟩ := emit_cases hcommand
  · exact path_nothing hK hw hleft hnone hemitter
  · have hvisits : ∀ x ∈ (s.publication b.hub text (args.head?.getD .none)).visits s.world,
        (s.publication b.hub text (args.head?.getD .none), x) ∈ s.visits := fun x hx =>
      mem_visits.mpr ⟨s.world, by simp [hpublications], hx⟩
    have hpublish := Publication.path hK hs hw (hw.bridgeNamed hbridge) hvisits
      fun x hx t ht => htasks t (mem_tasks.mpr (.inl ⟨_, x, hvisits x hx, ht⟩))
    rw [flatMap_tasks, hpublications, List.flatMap_singleton]
    rcases hruns with ⟨stop, hrun, hemitter⟩ | ⟨v, hrun, hemitter, hleft⟩
    · -- the publish does not return, and nothing follows
      rw [hrun] at hpublish
      rw [hemitter, Option.toList_none, List.flatMap_nil, List.append_nil]
      exact hpublish
    · -- the emitter is called in the world that the publish leaves
      rw [hrun] at hpublish
      have hcall := Hub.path_call hK (hK.sound hpublish) fun t ht =>
        htasks t (mem_tasks.mpr (.inr (hemitter.trans ht)))
      rw [hemitter, hleft]
      exact hK.trans hpublish hcall

/-- A step, with the host code that it runs. -/
theorem path_of_tasks : K s.world s.trace s.left := by
  refine hK.step hw ?_
  rcases s.plain_or_publishes with hplain | ⟨name, event, payload, times, hcommand⟩ |
    ⟨name, event, args, named, hcommand⟩
  · rw [tasks_plain hplain]
    exact hK.moves hs hw (takes_plain hplain hw)
  · exact path_publish hK hs hw htasks hcommand
  · exact path_emit hK hs hw htasks hcommand

end

end Step

/-! ## Whole runs -/

/-- By induction on the levels that are left: the steps of host code have one level less. -/
theorem Task.path (hK : World.Paths K) (fuel depth : Nat) (t : Task) (ht : t.world.Sound)
    (hsteps : ∀ s ∈ t.steps fuel depth, s.Paves K) : t.HasPath K fuel depth := by
  induction fuel generalizing depth t with
  | zero =>
      -- no command is carried out
      have hrun := t.code.path hK (Session.perform depth 0) (fun _ => []) ht fun x _ hx => hK.refl hx
      rw [List.flatMap_eq_nil_iff.mpr fun _ _ => rfl] at hrun
      exact hrun
  | succ fuel ih =>
      unfold HasPath
      unfold steps at hsteps ⊢
      refine t.code.path hK (Session.perform depth (fuel + 1)) _ ht fun x hmem hv => ?_
      obtain ⟨c, v⟩ := x
      refine Step.path_of_tasks (s := ⟨depth, fuel, c, v⟩) hK
        (hsteps _ (List.mem_flatMap.mpr ⟨(c, v), hmem, by simp⟩)) hv fun u hu hsound => ?_
      refine ih (depth + 1) u hsound fun s hs => hsteps s ?_
      exact List.mem_flatMap.mpr ⟨(c, v), hmem, List.mem_cons_of_mem _ (List.mem_flatMap.mpr ⟨u, hu, hs⟩)⟩

/-- **What holds of every move and every report of a failure holds of a step**, with all that happens during
it. -/
theorem Step.path (hK : World.Paths K) {s : Step} (hw : s.world.Sound) (hsteps : ∀ s' ∈ s.trace, s'.Paves K) :
    K s.world s.trace s.left := by
  refine path_of_tasks hK (hsteps s (by simp [trace])) hw fun t ht hsound => ?_
  refine t.path hK s.fuel (s.depth + 1) hsound fun s' hs' => hsteps s' ?_
  exact List.mem_cons_of_mem _ (List.mem_flatMap.mpr ⟨t, ht, hs'⟩)

/-- By induction on the commands: each step begins in the world that the one before leaves. -/
theorem Session.path (hK : World.Paths K) (cs : List (Command Behaviour)) {w : World} (hw : w.Sound)
    (hsteps : ∀ s ∈ Session.steps w cs, s.Paves K) : K w (Session.steps w cs) (Session.left w cs) := by
  induction cs generalizing w with
  | nil => exact hK.refl hw
  | cons c cs ih =>
      unfold steps at hsteps ⊢
      have hfirst := Step.path hK (s := outermost c w) hw fun s hs => hsteps s (List.mem_append_left _ hs)
      exact hK.trans hfirst (ih (hK.sound hfirst) fun s hs => hsteps s (List.mem_append_right _ hs))

/-! ## Relations to carry along -/

/-- A transitive relation that holds where hubs, names, registries and counters are left alone. -/
structure World.Frames (R : World → World → Prop) : Prop where
  alike : ∀ {w v : World}, w.Sound → w.Alike v → R w v
  trans : ∀ {w v u : World}, R w v → R v u → R w u

/-- A later sound world that is related to an earlier one. -/
structure World.Leads (R : World → World → Prop) (w v : World) : Prop where
  sound : v.Sound
  later : w.Later v
  rel : R w v

variable {R : World → World → Prop}

namespace World.Leads

variable {w v u : World}

theorem trans (hR : Frames R) (h : w.Leads R v) (h' : v.Leads R u) : w.Leads R u where
  sound := h'.sound
  later := h.later.trans h'.later
  rel := hR.trans h.rel h'.rel

theorem alike (hR : Frames R) (hw : w.Sound) (h : w.Alike v) : w.Leads R v where
  sound := hw.alike h
  later := .of_alike h
  rel := hR.alike hw h

theorem refl (hR : Frames R) (hw : w.Sound) : w.Leads R w := alike hR hw (.refl w)

theorem hasHub (h : w.Leads R v) {n : Nat} (hn : w.hasHub n = true) : v.hasHub n = true :=
  h.later.hubs n hn

end World.Leads

/-- What a report of a failure adds to the world that the call leaves. -/
theorem World.Leads.failed {p : Publication} {x : Visit} (hx : x.Sound p) (h : x.before.Leads R (x.call p).2)
    (f : Fault) (hrel : R x.before (x.failed p f)) : x.before.Leads R (x.failed p f) where
  sound := h.sound.entered (o := .failed p.depth p.hub x.event x.actor f) (by
    rintro e ⟨⟩
    exact h.hasHub hx.hub)
  later := h.later.trans (.entered _ (.failed p.depth p.hub x.event x.actor f))
  rel := hrel

/-! ### Since the beginning -/

/-- What a step does by itself is related: each move, and each report of a failure, for which the call is
related already. -/
structure Step.Respects (R : World → World → Prop) (s : Step) : Prop where
  move : ∀ {w v : World}, w.Sound → s.Move w v → R w v
  failed : ∀ {p : Publication} {x : Visit} {f : Fault}, (p, x) ∈ s.visits → x.Sound p →
    x.failure? p = some f → x.before.Leads R (x.call p).2 → (x.start p).Leads R (x.call p).2 →
    R x.before (x.failed p f)

/-- The end of a path is related to its beginning, and so are all the worlds in which its steps begin and
end. -/
def World.LeadsAlong (R : World → World → Prop) (w : World) (ss : List Step) (v : World) : Prop :=
  w.Leads R v ∧ ∀ s ∈ ss, w.Leads R s.world ∧ w.Leads R s.left

/-- Worlds that lead on from the beginning form paths. -/
theorem World.paths_leads (hR : Frames R) : Paths (LeadsAlong R) where
  sound := fun h => h.1.sound
  later := fun h => h.1.later
  alike := fun hw h => ⟨.alike hR hw h, by simp⟩
  trans := fun h h' => ⟨h.1.trans hR h'.1, fun s hs => by
    rcases List.mem_append.mp hs with hs | hs
    · exact h.2 s hs
    · exact ⟨h.1.trans hR (h'.2 s hs).1, h.1.trans hR (h'.2 s hs).2⟩⟩
  step := fun hw h => ⟨h.1, fun s hs => by
    rcases List.mem_cons.mp hs with rfl | hs
    · exact ⟨.refl hR hw, h.1⟩
    · exact h.2 s hs⟩

theorem Step.Respects.paves {s : Step} (hs : s.Respects R) : s.Paves (World.LeadsAlong R) where
  move := fun hw h => ⟨⟨h.sound hw, h.later, hs.move hw h⟩, by simp⟩
  failed := fun hmem hx hfailure hcalled hcall =>
    ⟨hcalled.1.failed hx _ (hs.failed hmem hx hfailure hcalled.1 hcall.1), hcalled.2⟩

/-- A call keeps what the steps during it keep. -/
theorem Visit.leads_of_steps (hR : World.Frames R) {p : Publication} {x : Visit} (hx : x.Sound p)
    (hsteps : ∀ s ∈ x.steps p, s.Respects R) : (x.start p).Leads R (x.call p).2 := by
  have hK := World.paths_leads hR
  refine (path_call hK hx fun t ht hsound => ?_).1
  refine t.path hK p.fuel (p.depth + 1) hsound fun s hs => (hsteps s ?_).paves
  exact List.mem_flatMap.mpr ⟨t, Option.mem_toList.mpr ht, hs⟩

/-- **What every move and every report of a failure keeps, a session keeps.** The worlds in which its steps
begin and end are related to that in which the session begins. -/
theorem Session.leads (hR : World.Frames R) (cs : List (Command Behaviour)) {w : World} (hw : w.Sound)
    (hsteps : ∀ s ∈ Session.steps w cs, s.Respects R) :
    ∀ s ∈ Session.steps w cs, ∀ v, v = s.world ∨ v = s.left → w.Leads R v := by
  rintro s hs v (rfl | rfl)
  · exact ((path (World.paths_leads hR) cs hw fun s hs => (hsteps s hs).paves).2 s hs).1
  · exact ((path (World.paths_leads hR) cs hw fun s hs => (hsteps s hs).paves).2 s hs).2

/-- Every step of a session begins and ends in a sound world. -/
theorem Session.sound (cs : List (Command Behaviour)) {w : World} (hw : w.Sound) :
    ∀ s ∈ Session.steps w cs, ∀ v, v = s.world ∨ v = s.left → v.Sound := fun s hs v hv =>
  (Session.leads (R := fun _ _ => True) ⟨fun _ _ => trivial, fun _ _ => trivial⟩ cs hw
    (fun _ _ => ⟨fun _ _ => trivial, fun _ _ _ _ _ => trivial⟩) s hs v hv).sound

/-! ### Since a step -/

/-- What a step does by itself is related, also a report of a failure by itself. -/
structure Step.Holds (R : World → World → Prop) (s : Step) : Prop where
  move : ∀ {w v : World}, w.Sound → s.Move w v → R w v
  failed : ∀ {w : World} {n : Nat} {event : Event}, w.Sound → w.hasHub n = true →
    (.publish, event.name) ∈ w.eventsOf n →
    ∀ depth actor f, R w (w.entered (.failed depth n event actor f))

/-- The end of a path is related to its beginning, and so are the worlds in which its steps begin. Whatever
comes after a step without host code is related to the world that this step leaves. -/
structure World.LeadsOn (R : World → World → Prop) (w : World) (ss : List Step) (v : World) : Prop where
  left : w.Leads R v
  begun : ∀ s ∈ ss, w.Leads R s.world
  after : ss.Pairwise fun c s => c.command.isPlain = true → c.left.Leads R s.world
  ended : ∀ c ∈ ss, c.command.isPlain = true → c.left.Leads R v

/-- Worlds that lead on from each step form paths. -/
theorem World.paths_leadsOn (hR : Frames R) : Paths (LeadsOn R) where
  sound := fun h => h.left.sound
  later := fun h => h.left.later
  alike := fun hw h => ⟨.alike hR hw h, by simp, .nil, by simp⟩
  trans := fun h h' =>
    { left := h.left.trans hR h'.left
      begun := fun s hs => by
        rcases List.mem_append.mp hs with hs | hs
        · exact h.begun s hs
        · exact h.left.trans hR (h'.begun s hs)
      after := List.pairwise_append.mpr ⟨h.after, h'.after, fun c hc s hs hplain =>
        (h.ended c hc hplain).trans hR (h'.begun s hs)⟩
      ended := fun c hc hplain => by
        rcases List.mem_append.mp hc with hc | hc
        · exact (h.ended c hc hplain).trans hR h'.left
        · exact h'.ended c hc hplain }
  step := fun {s} hw h =>
    { left := h.left
      begun := fun s' hs' => by
        rcases List.mem_cons.mp hs' with rfl | hs'
        · exact .refl hR hw
        · exact h.begun s' hs'
      after := by
        -- a step without host code has no steps during it
        refine List.pairwise_cons.mpr ⟨fun s' hs' hplain => ?_, h.after⟩
        rw [Step.tasks_plain hplain] at hs'
        cases hs'
      ended := fun c hc hplain => by
        rcases List.mem_cons.mp hc with rfl | hc
        · exact .refl hR h.left.sound
        · exact h.ended c hc hplain }

/-- A step that holds the relation paves such paths. -/
theorem Step.Holds.paves {s : Step} (hR : World.Frames R) (hs : s.Holds R) : s.Paves (World.LeadsOn R) where
  move := fun hw h => ⟨⟨h.sound hw, h.later, hs.move hw h⟩, by simp, .nil, by simp⟩
  failed := fun {p x f ss} _ hx _ hcalled _ => by
    have hhub := hcalled.left.hasHub hx.hub
    have hreport : (x.call p).2.Leads R (x.failed p f) :=
      { sound := hcalled.left.sound.entered (o := .failed p.depth p.hub x.event x.actor f) (by
          rintro e ⟨⟩
          exact hhub)
        later := .entered _ (.failed p.depth p.hub x.event x.actor f)
        rel := hs.failed hcalled.left.sound hhub (hcalled.left.later.eventsOf hx.published) .. }
    have hreported : World.LeadsOn R (x.call p).2 [] (x.failed p f) := ⟨hreport, by simp, .nil, by simp⟩
    exact (World.paths_leadsOn hR).trans_nil hcalled hreported

/-- **What every move and every report of a failure keeps is kept since a step.** The worlds in which later
steps of a session begin are related to that which a step without host code leaves. -/
theorem Session.leads_on (hR : World.Frames R) (cs : List (Command Behaviour)) {w : World} (hw : w.Sound)
    (hsteps : ∀ s ∈ Session.steps w cs, s.Holds R) {before after : List Step} {c : Step}
    (hlist : Session.steps w cs = before ++ c :: after) (hplain : c.command.isPlain = true) :
    ∀ s ∈ after, c.left.Leads R s.world := by
  have hpath := (path (World.paths_leadsOn hR) cs hw fun s hs => (hsteps s hs).paves hR).after
  rw [hlist] at hpath
  exact fun s hs => (List.pairwise_cons.mp (List.pairwise_append.mp hpath).2.1).1 s hs hplain

end EventHub
