import EventHub.Proofs.Lockstep.Worlds

/-! # Registration in lockstep

Registering and looking keep related worlds related, and tell the same of them: nothing that is told of a
registry depends on what the bodies of its actors do. One lemma for each operation says so.
-/

namespace EventHub

namespace Swap

variable {s : Swap}

/-! ## Registries -/

/-- Searching related lists for something that related items agree on. -/
theorem related_find? {α β : Type} {R : α → β → Prop} {p : α → Bool} {q : β → Bool} {xs : List α}
    {ys : List β} (h : List.Forall₂ R xs ys) (hpq : ∀ x y, R x y → p x = q y) :
    Option.Rel R (xs.find? p) (ys.find? q) := by
  induction h with
  | nil => exact .none
  | @cons x y _ _ hxy _ ih =>
      rw [List.find?_cons, List.find?_cons, ← hpq x y hxy]
      cases p x with
      | true => exact .some hxy
      | false => exact ih

/-- Something that related items agree on is the same all along related lists. -/
theorem map_eq_of_related {α β γ : Type} {R : α → β → Prop} {f : α → γ} {g : β → γ} {xs : List α}
    {ys : List β} (h : List.Forall₂ R xs ys) (hfg : ∀ x y, R x y → f x = g y) : xs.map f = ys.map g := by
  induction h with
  | nil => rfl
  | cons hxy _ ih => rw [List.map_cons, List.map_cons, hfg _ _ hxy, ih]

/-- Likewise for what related items may leave out. -/
theorem filterMap_eq_of_related {α β γ : Type} {R : α → β → Prop} {f : α → Option γ} {g : β → Option γ}
    {xs : List α} {ys : List β} (h : List.Forall₂ R xs ys) (hfg : ∀ x y, R x y → f x = g y) :
    xs.filterMap f = ys.filterMap g := by
  induction h with
  | nil => rfl
  | cons hxy _ ih => rw [List.filterMap_cons, List.filterMap_cons, hfg _ _ hxy, ih]

theorem related_filter {α β : Type} {R : α → β → Prop} {p : α → Bool} {q : β → Bool} {xs : List α}
    {ys : List β} (h : List.Forall₂ R xs ys) (hpq : ∀ x y, R x y → p x = q y) :
    List.Forall₂ R (xs.filter p) (ys.filter q) :=
  List.rel_filter (fun x y hxy => Bool.eq_iff_iff.mp (hpq x y hxy)) h

namespace Registries

variable {r r' : Registry Actor} (h : s.Registries r r')
include h

theorem byKey? (key : String) : Option.Rel s.Entries (r.byKey? key) (r'.byKey? key) :=
  related_find? h.live fun _ _ he => by rw [he.matcher]

theorem live? (ref : EntryRef) : Option.Rel s.Entries (r.live? ref) (r'.live? ref) :=
  related_find? h.live fun _ _ he => by rw [he.ref]

theorem entryAt? (ref : EntryRef) : Option.Rel s.Entries (r.entryAt? ref) (r'.entryAt? ref) :=
  related_find? (List.rel_append h.live h.retired) fun _ _ he => by rw [he.ref]

/-- Related actors match a name, under the same patterns and in the same order. -/
theorem matching (name : String) :
    List.Forall₂ (fun x y => x.1 = y.1 ∧ List.Forall₂ s.Actors x.2 y.2) (r.matching name)
      (r'.matching name) := by
  refine List.rel_map (R := s.Entries) (fun e e' he => ⟨he.matcher, he.actors⟩)
    (related_filter h.live fun e e' he => ?_)
  have hempty : e.actors.isEmpty = e'.actors.isEmpty := by
    rw [Bool.eq_iff_iff, List.isEmpty_iff_length_eq_zero, List.isEmpty_iff_length_eq_zero,
      he.actors.length_eq]
  rw [he.active, he.matcher, hempty]

/-- The same patterns are listened to. -/
theorem isActive_eq (m : Matcher) : r.isActive m = r'.isActive m := by
  unfold Registry.isActive
  rcases related_options (h.byKey? m.key) with ⟨he, he'⟩ | ⟨e, e', he, he', hrel⟩
  · rw [he, he']
  · rw [he, he']
    exact hrel.active

theorem patterns_eq (activeOnly : Bool) : r.patterns activeOnly = r'.patterns activeOnly :=
  map_eq_of_related (related_filter h.live fun _ _ he => by rw [he.active]) fun _ _ he => by rw [he.matcher]

theorem actorCountFor_eq (name : String) : r.actorCountFor name = r'.actorCountFor name :=
  (List.rel_flatMap (h.matching name) fun _ _ hx => hx.2).length_eq

theorem actorCount_eq : r.actorCount = r'.actorCount :=
  (List.rel_flatMap h.live fun _ _ he => he.actors).length_eq

theorem activeCount_eq : r.activeCount = r'.activeCount :=
  (related_filter h.live fun _ _ he => he.active).length_eq

theorem size_eq : r.size = r'.size := h.live.length_eq

/-- Changing the live entry of a key. -/
theorem modifyKey (key : String) {f : Entry Actor → Entry Actor}
    (hf : ∀ e e', s.Entries e e' → s.Entries (f e) (f e')) :
    s.Registries (r.modifyKey key f) (r'.modifyKey key f) := by
  refine { h with live := List.rel_map (fun e e' he => ?_) h.live }
  rw [he.matcher]
  split
  · exact hf e e' he
  · exact he

/-- Related registries activate alike, and tell the same of it. -/
theorem activate (m : Matcher) :
    s.Registries (r.activate m).1 (r'.activate m).1 ∧ (r.activate m).2 = (r'.activate m).2 := by
  unfold Registry.activate
  rcases related_options (h.byKey? m.key) with ⟨he, he'⟩ | ⟨e, e', he, he', hrel⟩
  · rw [he, he']
    -- neither has an entry of the key, and a new one comes last
    have hnew : s.Entries ⟨⟨r.id, r.issued⟩, m, true, []⟩ ⟨⟨r'.id, r'.issued⟩, m, true, []⟩ :=
      ⟨by rw [h.id, h.issued], rfl, rfl, .nil⟩
    exact ⟨{ h with
      issued := congrArg (· + 1) h.issued
      live := List.rel_append h.live (.cons hnew .nil) }, by rw [h.id, h.issued]⟩
  · rw [he, he']
    dsimp only
    rw [hrel.active]
    split
    · -- an entry that is on stays as it is; one that is off is switched on
      exact ⟨h, by rw [hrel.ref]⟩
    · exact ⟨h.modifyKey _ fun _ _ he => { he with active := rfl }, by rw [hrel.ref]⟩

/-- Related registries deactivate alike. -/
theorem deactivate (m : Matcher) :
    s.Registries (r.deactivate m).1 (r'.deactivate m).1 ∧ (r.deactivate m).2 = (r'.deactivate m).2 := by
  unfold Registry.deactivate
  rcases related_options (h.byKey? m.key) with ⟨he, he'⟩ | ⟨e, e', he, he', hrel⟩
  · rw [he, he']
    exact ⟨h, rfl⟩
  · rw [he, he']
    exact ⟨h.modifyKey _ fun _ _ he => { he with active := rfl }, congrArg some hrel.ref⟩

/-- Related registries attach alike, or both refuse. -/
theorem attach? (ref : EntryRef) {a a' : Actor} (ha : s.Actors a a') :
    Option.Rel (fun x y => s.Registries x.1 y.1 ∧ x.2 = y.2) (r.attach? ref a) (r'.attach? ref a') := by
  refine related_options_map (h.live? ref) fun e e' he => ⟨?_, by rw [he.actors.length_eq]⟩
  refine { h with live := List.rel_map (fun e e' he => ?_) h.live }
  rw [he.ref]
  split
  · exact { he with ref := rfl, actors := List.rel_append he.actors (.cons ha .nil) }
  · exact he

/-- How many actors an entry has. -/
theorem attached_eq (ref : EntryRef) :
    (r.entryAt? ref).elim (0 : Int) (fun e => e.actors.length) =
      (r'.entryAt? ref).elim (0 : Int) (fun e => e.actors.length) := by
  rcases related_options (h.entryAt? ref) with ⟨he, he'⟩ | ⟨e, e', he, he', hrel⟩
  · rw [he, he']
  · rw [he, he']
    exact congrArg Nat.cast hrel.actors.length_eq

theorem clear : s.Registries r.clear.1 r'.clear.1 ∧ r.clear.2 = r'.clear.2 :=
  ⟨{ h with live := .nil, retired := List.rel_append h.retired h.live }, h.actorCount_eq⟩

end Registries

theorem Worlds.entryAt? {w w' : World} (h : s.Worlds w w') (ref : EntryRef) :
    Option.Rel s.Entries (w.entryAt? ref) (w'.entryAt? ref) := (h.registry _).entryAt? ref

/-! ## Parts of runs -/

namespace Runs

open Run

variable {α β : Type} {R : α → β → Prop}

/-- The same identifier is fresh. -/
theorem fresh : s.Runs Eq fresh fresh := by
  unfold Run.fresh
  refine .get_bind fun w w' hw => ?_
  dsimp only
  rw [hw.issued]
  refine .bind (.modify fun v v' hv => { hv with issued := rfl }) fun _ _ _ => .pure rfl

/-- The same correlation identifier is drawn. -/
theorem correlation : s.Runs Eq correlation correlation := by
  unfold Run.correlation
  refine .get_bind fun w w' hw => ?_
  dsimp only
  rw [hw.correlations]
  exact .bind (.modify fun v v' hv => { hv with correlations := rfl }) fun _ _ _ => .pure rfl

theorem keep (name : String) {k k' : Kept} (h : s.Keeps k k') : s.Runs Eq (keep name k) (keep name k') :=
  .modify fun _ _ hw => hw.keep name h

/-- What is found under a name is related. -/
theorem find (name : String) {f : Kept → Option α} {f' : Kept → Option β}
    (h : ∀ k k', s.Keeps k k' → Option.Rel R (f k) (f' k')) : s.Runs R (find name f) (find name f') := by
  unfold Run.find
  refine .get_bind fun w w' hw => ?_
  -- the name is unknown to both, or related things are kept under it
  have hfound : Option.Rel R ((w.kept.find? name).bind f) ((w'.kept.find? name).bind f') := by
    rcases related_options (hw.kept.find? name) with ⟨hk, hk'⟩ | ⟨k, k', hk, hk', hrel⟩
    · rw [hk, hk']
      exact .none
    · rw [hk, hk']
      exact h k k' hrel
  rcases related_options hfound with ⟨ha, hb⟩ | ⟨a, b, ha, hb, hrel⟩
  · rw [ha, hb]
    exact .raise _
  · rw [ha, hb]
    exact .pure hrel

/-- What is found is the same, unless it is a bridge. -/
theorem find_same (name : String) (f : Kept → Option α) (h : ∀ b, f (.bridge b) = none) :
    s.Runs Eq (Run.find name f) (Run.find name f) := by
  refine find name fun k k' hk => ?_
  cases hk with
  | same k =>
      cases f k with
      | none => exact .none
      | some a => exact .some rfl
  | bridge hb =>
      rw [h, h]
      exact .none

/-! ### Logging and settings -/

/-- Records are made of what is the same in both worlds. -/
theorem log (logger : String) (level : Int) (message : Value) (args : List Value) (extra : Fields)
    (fault? : Option Fault) :
    s.Runs Eq (log logger level message args extra fault?) (log logger level message args extra fault?) := by
  refine ⟨fun w w' hw => ?_⟩
  cases hclash : Log.clash? extra with
  | none =>
      rw [outcome_log hclash, outcome_log hclash]
      exact .ok rfl (hw.afterLog _)
  | some name =>
      rw [outcome_log_clash hclash, outcome_log_clash hclash, hw.logLevel]
      split
      · -- a clash of names is looked at only if the record would be written
        exact .ok rfl hw
      · exact .error _ hw

theorem hubLog (level : Int) (message : String) (extra : Fields) :
    s.Runs Eq (hubLog level message extra) (hubLog level message extra) := .log ..

/-- A warning is noted, and raised where warnings are errors. -/
theorem warn (f : Fault) : s.Runs Eq (warn f) (warn f) := by
  unfold Run.warn
  refine .get_bind fun w w' hw => ?_
  rw [hw.strict]
  split
  · exact .raise_bind _ _ _
  · exact .note (.same _)

/-- Settings and machine are the same, and so is what a step of the settings leaves. -/
theorem settings (act : Settings.Load α) : s.Runs Eq (settings act) (settings act) := by
  unfold Run.settings
  refine .get_bind fun w w' hw => ?_
  rw [hw.machine, hw.configuration]
  refine .bind (.set { hw with machine := rfl, configuration := rfl }) fun _ _ _ => ?_
  refine .bind (.forM (List.forall₂_same.mpr fun _ _ => rfl) ?_) fun _ _ _ => ?_
  · rintro message _ rfl
    exact .log ..
  · split
    · exact .pure rfl
    · exact .raise _

end Runs

/-! ## Operations of hubs -/

open Run Hub

/-- A flag is chosen alike. -/
theorem runs_flag (key : String) (given : Value) : s.Runs Eq (flag key given) (flag key given) := by
  unfold flag
  split
  · refine .bind (.attempt (.settings _)) fun r r' hr => ?_
    cases hr with
    | ok h => exact .pure (by rw [h])
    | error f =>
        dsimp only
        split
        · exact .bind (.hubLog ..) fun _ _ _ => .pure rfl
        · exact .raise _
  · exact .pure rfl

/-- The limit of new counters is chosen alike. -/
theorem runs_nameLimit : s.Runs Eq nameLimit nameLimit := by
  unfold nameLimit
  refine .bind (.attempt (.settings _)) fun r r' hr => ?_
  cases hr with
  | ok h =>
      subst h
      split
      · exact .pure rfl
      · exact .pure rfl
      · rename_i hr
        cases hr
  | error f =>
      dsimp only
      split
      · exact .bind (.hubLog ..) fun _ _ _ => .pure rfl
      · exact .raise _

/-- The registry of a new hub is chosen alike. -/
theorem runs_chooseRegistry (given? : Option Nat) :
    s.Runs Eq (chooseRegistry given?) (chooseRegistry given?) := by
  unfold chooseRegistry
  split
  · exact .pure rfl
  · exact .fresh

/-- So are its counters. -/
theorem runs_chooseTally (given? : Option Nat) : s.Runs Eq (chooseTally given?) (chooseTally given?) := by
  unfold chooseTally
  split
  · exact .pure rfl
  · refine .bind runs_nameLimit fun limit _ hlimit => .bind .fresh fun n _ hn => ?_
    subst hlimit hn
    exact .bind (.modify fun w w' hw => hw.setTally n _) fun _ _ _ => .pure rfl

/-- The handler of failing actors is installed alike, under the same identifier. -/
theorem runs_install {handler? handler?' : Option (Handler Behaviour)}
    (h : Option.Rel s.Handlers handler? handler?') :
    s.Runs (Option.Rel s.Installed) (install handler?) (install handler?') := by
  cases h with
  | none => exact .pure .none
  | some h => exact .bind .fresh fun _ _ hserial => .pure (.some ⟨h, hserial⟩)

/-- Making a hub goes in lockstep. -/
theorem runs_create (givenRegistry givenTally : Option Nat) {handler? handler?' : Option (Handler Behaviour)}
    (h : Option.Rel s.Handlers handler? handler?') (metrics validates warns : Value) :
    s.Runs Eq (create givenRegistry givenTally handler? metrics validates warns)
      (create givenRegistry givenTally handler?' metrics validates warns) := by
  unfold create
  refine .bind (runs_chooseRegistry _) fun registry _ hregistry => ?_
  refine .bind (runs_chooseTally _) fun tally _ htally => ?_
  refine .bind (runs_install h) fun handler? handler?' hhandler => ?_
  refine .bind (runs_flag ..) fun metrics _ hmetrics => ?_
  refine .bind (runs_flag ..) fun validates _ hvalidates => ?_
  refine .bind (runs_flag ..) fun warns _ hwarns => ?_
  refine .bind .fresh fun n _ hn => ?_
  subst hregistry htally hmetrics hvalidates hwarns hn
  refine .bind (.modify fun w w' hw => hw.setHub n ⟨rfl, rfl, hhandler, rfl, rfl, rfl⟩) fun _ _ _ => ?_
  exact .bind (.hubLog ..) fun _ _ _ => .pure rfl

/-- The sizes of related registries are the same. -/
theorem runs_noteSizes (n : Nat) : s.Runs Eq (noteSizes n) (noteSizes n) := by
  unfold noteSizes
  refine .get_bind fun w w' hw => ?_
  have hhub := hw.hub n
  have hregistry := hw.registry (w'.hub n).registry
  dsimp only
  rw [hhub.metrics, hhub.registry, hhub.tally, hw.tally, hregistry.size_eq, hregistry.activeCount_eq,
    hregistry.actorCount_eq]
  split
  · exact .set (hw.setTally _ _)
  · exact .pure rfl

/-- Patterns are compiled alike, without a look at the world. -/
theorem runs_compile (p : Pattern) : s.Runs Eq (compile p) (compile p) := by
  unfold compile
  split
  · exact .pure rfl
  · exact .raise _

/-- An entry that is looked up is related. -/
theorem runs_entry (ref : EntryRef) : s.Runs s.Entries (entry ref) (entry ref) := by
  unfold entry
  refine .get_bind fun w w' hw => ?_
  rcases related_options (hw.entryAt? ref) with ⟨he, he'⟩ | ⟨e, e', he, he', hrel⟩
  · rw [he, he']
    exact .raise _
  · rw [he, he']
    exact .pure hrel

/-- Listening goes in lockstep. -/
theorem runs_listen (n : Nat) (p : Pattern) : s.Runs Eq (Hub.listen n p) (Hub.listen n p) := by
  unfold Hub.listen
  refine .bind (runs_compile p) fun m _ hm => .get_bind fun w w' hw => ?_
  subst hm
  have hhub := hw.hub n
  -- the registries activate alike, and the entry is the same
  obtain ⟨hactivated, hsame⟩ := (hw.registry (w'.hub n).registry).activate m
  rcases hr : (w.registry (w'.hub n).registry).activate m with ⟨r, ref, activation⟩
  rcases hr' : (w'.registry (w'.hub n).registry).activate m with ⟨r', ref', activation'⟩
  rw [hr, hr'] at hactivated hsame
  cases hsame
  simp only [hhub.registry, hr, hr']
  refine .bind (.set (hw.setRegistry _ hactivated)) fun _ _ _ => .bind (runs_noteSizes n) fun _ _ _ => ?_
  rw [hactivated.attached_eq]
  exact .bind (.hubLog ..) fun _ _ _ => .pure rfl

/-- The entry that is attached to has the actors of either run, as many in both. -/
theorem runs_actorOf (pattern : String) {c c' : Callable Behaviour} (h : s.Callables c c')
    (identifier? : Option String) :
    s.Runs s.Actors (actorOf pattern c identifier?) (actorOf pattern c' identifier?) := by
  unfold actorOf
  refine .bind .fresh fun serial _ hserial => .pure ⟨h, hserial, ?_⟩
  dsimp only
  rw [h.identifier_eq]

/-- An actor is put on an entry in lockstep. -/
theorem runs_attachTo (registry : Nat) (ref : EntryRef) (source : String) {a a' : Actor}
    (h : s.Actors a a') : s.Runs Eq (attachTo registry ref source a) (attachTo registry ref source a') := by
  unfold attachTo
  refine .get_bind fun w w' hw => ?_
  rcases related_options ((hw.registry registry).attach? ref h) with ⟨hr, hr'⟩ | ⟨x, x', hr, hr', hrel⟩
  · rw [hr, hr']
    exact .raise _
  · rw [hr, hr']
    exact .bind (.set (hw.setRegistry _ hrel.1)) fun _ _ _ => .pure hrel.2

/-- Attaching an actor goes in lockstep. -/
theorem runs_attach (n : Nat) (ref : EntryRef) {c c' : Callable Behaviour}
    (h : s.Callables c c') (identifier? : Option String) :
    s.Runs Eq (attach n ref c identifier?) (attach n ref c' identifier?) := by
  unfold attach
  refine .get_bind fun w w' hw => .bind (runs_entry ref) fun e e' he => ?_
  have hhub := hw.hub n
  dsimp only
  rw [hhub.validates, hhub.registry, he.matcher, h.check_eq]
  split
  on_goal 1 => split
  on_goal 2 => exact .raise_bind _ _ _
  -- with or without a check, what is left is the attachment itself
  all_goals
    refine .bind (runs_actorOf _ h identifier?) fun a a' ha => ?_
    refine .bind (runs_attachTo _ ref _ ha) fun count _ hcount => .bind (runs_noteSizes n) fun _ _ _ => ?_
    rw [ha.identifier, hcount]
    exact .hubLog ..

/-- Unlistening goes in lockstep. -/
theorem runs_unlisten (n : Nat) (p : Pattern) : s.Runs Eq (unlisten n p) (unlisten n p) := by
  unfold unlisten
  refine .bind (runs_compile p) fun m _ hm => .get_bind fun w w' hw => ?_
  subst hm
  have hhub := hw.hub n
  obtain ⟨hdeactivated, hsame⟩ := (hw.registry (w'.hub n).registry).deactivate m
  dsimp only
  rw [hhub.registry, hhub.warns, hsame]
  split
  · -- the key has no entry
    refine .bind (.hubLog ..) fun _ _ _ => ?_
    split
    · exact .warn _
    · exact .pure rfl
  · refine .bind (.set (hw.setRegistry _ hdeactivated)) fun _ _ _ => .bind (runs_noteSizes n) fun _ _ _ => ?_
    rw [hdeactivated.attached_eq]
    exact .hubLog ..

/-- Clearing goes in lockstep. -/
theorem runs_clear (n : Nat) : s.Runs Eq (clear n) (clear n) := by
  unfold clear
  refine .get_bind fun w w' hw => ?_
  have hhub := hw.hub n
  obtain ⟨hcleared, hsame⟩ := (hw.registry (w'.hub n).registry).clear
  dsimp only
  rw [hhub.registry, hhub.metrics, hhub.tally, (hw.setRegistry _ hcleared).tally, hsame]
  refine .bind (.set ?_) fun _ _ _ => .hubLog ..
  split
  · exact (hw.setRegistry _ hcleared).setTally _ _
  · exact hw.setRegistry _ hcleared

/-- Setting the error handler goes in lockstep. -/
theorem runs_setHandler (n : Nat) {handler? handler?' : Option (Handler Behaviour)}
    (h : Option.Rel s.Handlers handler? handler?') :
    s.Runs Eq (setHandler n handler?) (setHandler n handler?') := by
  unfold setHandler
  refine .bind (runs_install h) fun handler? handler?' hhandler => ?_
  exact .modify fun w w' hw => hw.setHub n { hw.hub n with handler := hhandler }

theorem runs_setMetrics (n : Nat) (on : Bool) : s.Runs Eq (setMetrics n on) (setMetrics n on) := by
  unfold setMetrics
  refine .bind (.modify fun w w' hw => hw.setHub n { hw.hub n with metrics := rfl }) fun _ _ _ => ?_
  exact .bind (runs_noteSizes n) fun _ _ _ => .hubLog ..

/-- Counting goes in lockstep. -/
theorem runs_count (n : Nat) (what : Counted) (name : String) :
    s.Runs Eq (count n what name) (count n what name) := by
  unfold count
  refine .get_bind fun w w' hw => ?_
  have hhub := hw.hub n
  dsimp only
  rw [hhub.metrics, hhub.tally, hw.tally]
  split
  · exact .set (hw.setTally _ _)
  · exact .pure rfl

/-- The name of an emitter is taken from it alike. -/
theorem runs_takenName {c c' : Callable Behaviour} (h : s.Callables c c') (a : Attribute)
    (label : String) (default : Value) :
    s.Runs Eq (takenName c a label default) (takenName c' a label default) := by
  unfold takenName
  rw [h.attribute?_eq]
  split
  · exact .pure rfl
  · exact .pure rfl
  · exact .raise _

/-- Making a bridge goes in lockstep. -/
theorem runs_bridge (n : Nat) {c c' : Callable Behaviour} (h : s.Callables c c') :
    s.Runs s.Bridges (bridge n c) (bridge n c') := by
  unfold bridge
  rw [h.shape_eq, h.isAsynchronous_eq, h.attribute?_eq, h.literal_eq, h.documentation?_eq]
  dsimp only
  split
  · -- what cannot be called is refused
    exact .raise_bind _ _ _
  · refine .bind (runs_takenName h ..) fun name _ hname => ?_
    refine .bind (runs_takenName h ..) fun qualifiedName _ hqualified => ?_
    refine .bind (.log ..) fun _ _ _ => .bind .fresh fun serial _ hserial => .pure ?_
    exact ⟨rfl, h, hserial, hname, hqualified, rfl, rfl⟩

theorem snapshot?_eq {w w' : World} (h : s.Worlds w w') (n : Nat) : snapshot? w n = snapshot? w' n := by
  have hhub := h.hub n
  unfold snapshot?
  rw [hhub.metrics, hhub.tally, h.tally]

end Swap

end EventHub
