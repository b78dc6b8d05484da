import EventHub.Proofs.Session.Moves

/-! # Steps without host code

`Step.Takes` says that an action takes moves of a step only. One lemma for each command shows what moves
it takes; publishing and emitting run host code and have a module of their own.

Main statement: `Step.takes_plain`.
-/

namespace EventHub

open Run

variable {α β : Type} {s : Step} {w : World}

/-! ## Actions made of moves -/

namespace Step

theorem moves_later {v : World} (h : Relation.ReflTransGen s.Move w v) : w.Later v := by
  induction h with
  | refl => exact .refl w
  | tail _ hmove ih => exact ih.trans hmove.later

/-- Beginning in a world, an action takes moves of the step only. -/
def Takes (s : Step) (act : Run α) (w : World) : Prop :=
  Relation.ReflTransGen s.Move w (outcome act w).2

namespace Takes

/-- An action that leaves hubs, names, registries and counters alone is one move. -/
theorem quiet {act : Run α} (h : w.Alike (outcome act w).2) : s.Takes act w := .single (.quiet h)

theorem does {act : Run α} {ks : List Effect.Kind} (h : Does ks act w)
    (hks : ks.all World.Alike.quietKinds.contains = true) : s.Takes act w :=
  quiet (.of_does h hks)

theorem pure (a : α) : s.Takes (Pure.pure a) w := .refl

theorem raise (f : Fault) : s.Takes (Run.raise f : Run α) w := .refl

/-- What follows a fault is not reached. -/
theorem raise_bind (f : Fault) (g : α → Run β) : s.Takes (Run.raise f >>= g) w := .refl

theorem get_bind {f : World → Run β} (h : s.Takes (f w) w) : s.Takes (get >>= f) w := h

/-- The rest of a sequence goes on from the world that the first part leaves. -/
theorem after {act : Run α} {f : α → Run β} {a : α} {v : World} (hact : outcome act w = (.ok a, v))
    (h : Relation.ReflTransGen s.Move w v) (hf : s.Takes (f a) v) : s.Takes (act >>= f) w := by
  unfold Takes
  rw [outcome_bind_ok hact]
  exact h.trans hf

/-- One action after another. -/
theorem bind {act : Run α} {f : α → Run β} (h : s.Takes act w)
    (hf : ∀ a v, outcome act w = (.ok a, v) → s.Takes (f a) v) : s.Takes (act >>= f) w := by
  unfold Takes at h
  rcases hact : outcome act w with ⟨stop | a, v⟩
  · -- the second part is not reached
    unfold Takes
    rw [outcome_bind_error hact]
    rwa [hact] at h
  · rw [hact] at h
    exact after hact h (hf a v hact)

/-- A first part that leaves hubs, names, registries and counters alone. -/
theorem quiet_bind {act : Run α} {f : α → Run β} {ks : List Effect.Kind} (h : Does ks act w)
    (hks : ks.all World.Alike.quietKinds.contains = true)
    (hf : ∀ a v, outcome act w = (.ok a, v) → w.Alike v → s.Takes (f a) v) : s.Takes (act >>= f) w :=
  bind (does h hks) fun a v hv => hf a v hv (.of_outcome h hks hv)

/-- By induction on the list: hubs stay. -/
theorem forM {xs : List β} {f : β → Run PUnit} {n : Nat} (hn : w.hasHub n = true)
    (h : ∀ x v, v.hasHub n = true → s.Takes (f x) v) : s.Takes (xs.forM f) w := by
  induction xs generalizing w with
  | nil => exact pure _
  | cons x xs ih =>
      have hx := h x w hn
      refine bind hx fun _ v hv => ih ?_
      have hlater := (moves_later hx).hubs n hn
      rwa [hv] at hlater

end Takes

end Step

/-! ## Names -/

/-- Looking up a name changes nothing. -/
theorem Run.outcome_find (name : String) (f : Kept → Option α) (w : World) :
    outcome (find name f) w =
      (((w.kept.find? name).bind f).elim (.error (.fault (unknownName name))) .ok, w) := by
  unfold find
  rw [outcome_get_bind]
  cases (w.kept.find? name).bind f <;> rfl

namespace Step.Takes

/-- What is found under a name is handed on; a name that is unknown ends the sequence. -/
theorem find_bind {name : String} {f : Kept → Option α} {g : α → Run β}
    (h : ∀ k a, w.kept.find? name = some k → f k = some a → s.Takes (g a) w) :
    s.Takes (find name f >>= g) w := by
  have hfind := Run.outcome_find name f w
  cases ha : (w.kept.find? name).bind f with
  | none =>
      rw [ha] at hfind
      unfold Takes
      rw [outcome_bind_error hfind]
  | some a =>
      rw [ha] at hfind
      obtain ⟨k, hk, hka⟩ := Option.bind_eq_some_iff.mp ha
      exact after hfind .refl (h k a hk hka)

/-- The hub under a name exists. -/
theorem hubNamed_bind {name : String} {g : Nat → Run β} (hw : w.Sound)
    (h : ∀ n, w.hubNamed? name = some n → w.hasHub n = true → s.Takes (g n) w) :
    s.Takes (hubNamed name >>= g) w := by
  refine find_bind fun k n hk hn => ?_
  have hknown := hw.kept name k hk
  cases k with
  | hub m =>
      obtain rfl : m = n := by simpa using hn
      exact h m (by simp [World.hubNamed?, hk]) hknown
  | _ => simp at hn

/-- The hub of the handle under a name exists. -/
theorem handleNamed_bind {name : String} {g : Nat × EntryRef → Run β} (hw : w.Sound)
    (h : ∀ n ref, w.hasHub n = true → s.Takes (g (n, ref)) w) : s.Takes (handleNamed name >>= g) w := by
  refine find_bind fun k x hk hx => ?_
  have hknown := hw.kept name k hk
  cases k with
  | handle n ref =>
      obtain rfl : (n, ref) = x := by simpa using hx
      exact h n ref hknown
  | _ => simp at hx

/-- A hub, or a handle of it, under a name. -/
theorem hubOrHandle_bind {name : String} {g : Nat → Run β} (hw : w.Sound)
    (h : ∀ n, w.hasHub n = true → s.Takes (g n) w) : s.Takes (Session.hubOrHandle name >>= g) w := by
  refine find_bind fun k n hk hn => ?_
  have hknown := hw.kept name k hk
  cases k with
  | hub m =>
      obtain rfl : m = n := by simpa using hn
      exact h m hknown
  | handle m ref =>
      obtain rfl : m = n := by simpa using hn
      exact h m hknown
  | _ => simp at hn

/-- The registry under a name. -/
theorem registryNamed_bind {name : String} {g : Nat → Run β}
    (h : ∀ n, w.kept.find? name = some (.registry n) → s.Takes (g n) w) :
    s.Takes (registryNamed name >>= g) w := by
  refine find_bind fun k n hk hn => ?_
  cases k with
  | registry m =>
      obtain rfl : m = n := by simpa using hn
      exact h m hk
  | _ => simp at hn

/-- The counters under a name. -/
theorem tallyNamed_bind {name : String} {g : Nat → Run β}
    (h : ∀ n, w.kept.find? name = some (.tally n) → s.Takes (g n) w) :
    s.Takes (tallyNamed name >>= g) w := by
  refine find_bind fun k n hk hn => ?_
  cases k with
  | tally m =>
      obtain rfl : m = n := by simpa using hn
      exact h m hk
  | _ => simp at hn

theorem keep {name : String} {k : Kept} (hknown : k.Known w) (hshared : k.isShared = false) :
    s.Takes (Run.keep name k) w :=
  .single (.keep name hknown hshared)

end Step.Takes

/-! ## Registration -/

namespace Hub

/-- Noting the sizes changes counters only. -/
theorem outcome_noteSizes (n : Nat) (w : World) : outcome (noteSizes n) w = (.ok ⟨⟩, w.sized n) := by
  unfold noteSizes
  rw [outcome_get_bind, outcome_ite]
  unfold World.sized
  split <;> rfl

/-- Attaching to an entry that is no live entry of the registry changes nothing. -/
theorem outcome_attachTo (registry : Nat) (ref : EntryRef) (source : String) (a : Actor) (w : World) :
    (∃ stop, outcome (attachTo registry ref source a) w = (.error stop, w)) ∨
      ∃ count, outcome (attachTo registry ref source a) w =
        (.ok count, (Effect.registry registry (.attach ref a)).apply w) := by
  unfold attachTo
  rw [outcome_get_bind]
  cases hattach : (w.registry registry).attach? ref a with
  | none => exact .inl ⟨_, rfl⟩
  | some x =>
      refine .inr ⟨x.2, ?_⟩
      simp only [outcome_set_bind, outcome_pure, Effect.apply, Registry.carryOut, hattach]

end Hub

namespace Step.Takes

open Hub

/-- A call on the registry of a hub, whose sizes are noted then. -/
theorem change_bind {v : World} {n : Nat} {f : PUnit → Run β} (hn : w.hasHub n = true)
    (op : Registry.Operation Actor) (hv : v = (Effect.registry (w.hub n).registry op).apply w)
    (hf : s.Takes (f ⟨⟩) (w.changed n op)) : s.Takes (set v >>= fun _ => noteSizes n >>= f) w := by
  have hset : outcome (set v >>= fun _ => noteSizes n >>= f) w = outcome (f ⟨⟩) (w.changed n op) := by
    rw [outcome_set_bind, outcome_bind_ok (outcome_noteSizes n v), hv]
    rfl
  unfold Takes
  rw [hset]
  exact hf.head (.change hn op)

/-- Listening is made of moves: a call on the registry, and the log. -/
theorem listen {n : Nat} (hn : w.hasHub n = true) (p : Pattern) : s.Takes (Hub.listen n p) w := by
  unfold Hub.listen
  refine quiet_bind (compile_does p) rfl fun m v _ halike => get_bind ?_
  refine change_bind ((halike.hasHub n).trans hn) (.activate m) rfl ?_
  exact quiet_bind (hubLog_does ..) rfl fun _ _ _ _ => pure _

/-- Attaching is made of moves. -/
theorem attach {n : Nat} (hn : w.hasHub n = true) (ref : EntryRef) (c : Callable Behaviour)
    (identifier? : Option String) : s.Takes (Hub.attach n ref c identifier?) w := by
  have hattach : ∀ (m : Matcher) (v : World), w.Alike v → s.Takes (do
      let a ← actorOf m.shown c identifier?
      let count ← attachTo (w.hub n).registry ref m.source a
      noteSizes n
      hubLog 10 "Mediator: actor attached"
        [("pattern", .text m.shown), ("actor_id", .text a.identifier), ("actor_count", .int count)]) v := by
    intro m v hv
    refine quiet_bind (actorOf_does ..) rfl fun a u _ hu => ?_
    have halike := hv.trans hu
    have hhub : (w.hub n).registry = (u.hub n).registry := by rw [halike.hub n]
    rcases outcome_attachTo (w.hub n).registry ref m.source a u with ⟨stop, hstop⟩ | ⟨count, hcount⟩
    · unfold Takes
      rw [outcome_bind_error hstop]
    · -- the attachment and the sizes are one move
      unfold Takes
      rw [outcome_bind_ok hcount, outcome_bind_ok (outcome_noteSizes ..), hhub]
      refine .head (.change ((halike.hasHub n).trans hn) (.attach ref a)) ?_
      exact does (hubLog_does ..) rfl
  unfold Hub.attach
  refine get_bind (quiet_bind (entry_does ref) rfl fun e v _ hv => ?_)
  split
  on_goal 1 => split
  on_goal 2 => exact raise_bind _ _
  -- with or without a check, what is left is the attachment itself
  all_goals exact hattach e.matcher v hv

/-- Unlistening is made of moves. -/
theorem unlisten {n : Nat} (hn : w.hasHub n = true) (p : Pattern) : s.Takes (Hub.unlisten n p) w := by
  unfold Hub.unlisten
  refine quiet_bind (compile_does p) rfl fun m v _ halike => get_bind ?_
  dsimp only
  split
  · -- the key has no entry
    refine quiet_bind (hubLog_does ..) rfl fun _ _ _ _ => ?_
    split
    · exact does (warn_does _) rfl
    · exact pure _
  · -- the entry is switched off, and the sizes are noted
    refine change_bind ((halike.hasHub n).trans hn) (.deactivate m) rfl ?_
    exact does (hubLog_does ..) rfl

/-- Clearing is made of moves, if the step clears the hub. -/
theorem clear {n : Nat} (hn : w.hasHub n = true) (hclears : s.clears n = true) :
    s.Takes (Hub.clear n) w := by
  unfold Hub.clear
  refine get_bind (after (outcome_set (w.cleared n) w) (.single (.clear hn hclears)) ?_)
  exact does (hubLog_does ..) rfl

/-- Setting the error handler is made of moves. -/
theorem setHandler {n : Nat} (hn : w.hasHub n = true) (handler? : Option (Handler Behaviour)) :
    s.Takes (Hub.setHandler n handler?) w := by
  unfold Hub.setHandler
  refine quiet_bind (install_does _) rfl fun handler? v _ halike => ?_
  exact .single (.handle ((halike.hasHub n).trans hn) handler?)

/-- Turning counting on or off is made of moves, if the step does so. -/
theorem setMetrics {n : Nat} {on : Bool} (hn : w.hasHub n = true) (hturns : s.turns n on = true) :
    s.Takes (Hub.setMetrics n on) w := by
  unfold Hub.setMetrics Takes
  rw [outcome_modify_bind, outcome_bind_ok (outcome_noteSizes ..)]
  refine .head (.switch hn hturns) ?_
  exact does (hubLog_does ..) rfl

end Step.Takes

/-! ## Setting up -/

theorem Run.outcome_fresh (w : World) : outcome fresh w = (.ok w.issued, (Effect.issue).apply w) := rfl

/-- A sequence whose first part leaves hubs, names, registries and counters alone. -/
theorem Run.outcome_bind_alike {w₀ : World} {act : Run α} {f : α → Run β}
    {ks : List Effect.Kind} {P : Except Stop β × World → Prop} (hw : w₀.Alike w) (h : Does ks act w)
    (hks : ks.all World.Alike.quietKinds.contains = true)
    (herror : ∀ stop v, w₀.Alike v → P (.error stop, v))
    (hok : ∀ a v, outcome act w = (.ok a, v) → w₀.Alike v → P (outcome (f a) v)) :
    P (outcome (act >>= f) w) := by
  rcases hact : outcome act w with ⟨stop | a, v⟩
  · rw [outcome_bind_error hact]
    exact herror stop v (hw.trans (.of_outcome h hks hact))
  · rw [outcome_bind_ok hact]
    exact hok a v hact (hw.trans (.of_outcome h hks hact))

/-- A part that is given by name, if it is given. -/
def World.Given (w : World) (kind : Nat → Kept) (name? : Option String) (given? : Option Nat) : Prop :=
  match name?, given? with
  | none, none => True
  | some name, some n => w.kept.find? name = some (kind n)
  | _, _ => False

/-- A name that is given is that of what was found. -/
theorem Session.given_of_optionally {kind : Nat → Kept} {f : String → Run Nat} {name? : Option String}
    {given? : Option Nat} {v : World}
    (hf : ∀ name n v, outcome (f name) w = (.ok n, v) → w.kept.find? name = some (kind n))
    (h : outcome (Session.optionally f name?) w = (.ok given?, v)) : w.Given kind name? given? := by
  unfold Session.optionally at h
  cases name? with
  | none =>
      cases h
      trivial
  | some name =>
      change outcome (f name >>= fun n => pure (some n)) w = _ at h
      rcases hname : outcome (f name) w with ⟨stop | n, u⟩
      · rw [outcome_bind_error hname] at h
        cases h
      · rw [outcome_bind_ok hname] at h
        cases h
        exact hf name n _ hname

/-- A registry that is found has the name. -/
theorem Run.registryNamed_ok {name : String} {n : Nat} {v : World}
    (h : outcome (registryNamed name) w = (.ok n, v)) : w.kept.find? name = some (.registry n) := by
  unfold registryNamed at h
  rw [outcome_find] at h
  cases hk : w.kept.find? name with
  | none => simp [hk] at h
  | some k => cases k <;> simp_all

/-- Counters that are found have the name. -/
theorem Run.tallyNamed_ok {name : String} {n : Nat} {v : World}
    (h : outcome (tallyNamed name) w = (.ok n, v)) : w.kept.find? name = some (.tally n) := by
  unfold tallyNamed at h
  rw [outcome_find] at h
  cases hk : w.kept.find? name with
  | none => simp [hk] at h
  | some k => cases k <;> simp_all

namespace Hub

/-- The registry of a new hub. -/
theorem outcome_chooseRegistry {name? : Option String} {given? : Option Nat} (hw : w.Sound)
    (hgiven : w.Given .registry name? given?) :
    ∃ n v, outcome (chooseRegistry given?) w = (.ok n, v) ∧ w.Alike v ∧ w.Chosen .registry name? n ∧
      n < v.issued := by
  cases given? with
  | some n =>
      cases name? with
      | none => exact hgiven.elim
      | some name => exact ⟨n, w, rfl, .refl w, hgiven, hw.kept name _ hgiven⟩
  | none =>
      cases name? with
      | none =>
          have hissue : w.Alike ((Effect.issue).apply w) := .of_effect (by simp) w
          exact ⟨w.issued, _, rfl, hissue, Nat.le_refl _, Nat.lt_succ_self _⟩
      | some name => exact hgiven.elim

/-- The counters of a new hub, unless the settings stop. -/
theorem outcome_chooseTally {name? : Option String} {given? : Option Nat} (hw : w.Sound)
    (hgiven : w.Given .tally name? given?) :
    (∃ stop v, outcome (chooseTally given?) w = (.error stop, v) ∧ w.Alike v) ∨
      ∃ n v, outcome (chooseTally given?) w = (.ok n, v) ∧ w.Alike v ∧ w.Chosen .tally name? n ∧
        n < v.issued ∧ (name? = none → ∃ limit, v.tally n = { limit := limit }) := by
  cases given? with
  | some n =>
      cases name? with
      | none => exact hgiven.elim
      | some name => exact .inr ⟨n, w, rfl, .refl w, hgiven, hw.kept name _ hgiven, by simp⟩
  | none =>
      cases name? with
      | some name => exact hgiven.elim
      | none =>
          unfold chooseTally
          rcases hlimit : outcome nameLimit w with ⟨stop | limit, u⟩
          · exact .inl ⟨stop, u, outcome_bind_error hlimit _, .of_outcome nameLimit_does rfl hlimit⟩
          · have hu : w.Alike u := .of_outcome nameLimit_does rfl hlimit
            have hissue : u.Alike ((Effect.issue).apply u) := .of_effect (by simp) u
            -- the new counters have the number that was issued last
            refine .inr ⟨u.issued, ((Effect.issue).apply u).setTally u.issued { limit := limit }, ?_, ?_, ?_,
              Nat.lt_succ_self _, fun _ => ⟨limit, ?_⟩⟩
            · exact outcome_bind_ok hlimit _
            · refine hu.trans ⟨hissue.issued, rfl, rfl, rfl, rfl, fun m hm => ?_⟩
              rw [World.tally_setTally, if_neg (Nat.ne_of_lt hm)]
              rfl
            · exact hu.issued
            · rw [World.tally_setTally, if_pos rfl]

end Hub

namespace World

/-- A part that is chosen in a world that is alike was chosen before. -/
theorem Chosen.of_alike {v : World} {kind : Nat → Kept} {name? : Option String} {n : Nat}
    (hv : w.Alike v) (h : v.Chosen kind name? n) : w.Chosen kind name? n := by
  unfold Chosen at h ⊢
  cases name? with
  | none => exact hv.issued.trans h
  | some name => exact hv.kept ▸ h

/-- A founded hub stays so. -/
theorem Founded.alike {v u : World} {options : HubOptions Behaviour} {n : Nat}
    (h : w.Founded v options n) (hu : v.Alike u) : w.Founded u options n where
  new := h.new
  issued := h.issued.trans_le hu.issued
  hubs := hu.hubs ▸ h.hubs
  kept := hu.kept.trans h.kept
  registries := hu.registries.trans h.registries
  happened := hu.happened.trans h.happened
  tally := fun m hm => (hu.tally m (hm.trans_le (h.new.trans h.issued.le))).trans (h.tally m hm)
  parts := by
    rw [hu.hub n]
    exact ⟨h.parts.registry.trans_le hu.issued, h.parts.tally.trans_le hu.issued⟩
  registryChosen := hu.hub n ▸ h.registryChosen
  tallyChosen := hu.hub n ▸ h.tallyChosen
  blank := fun hname => by
    rw [hu.hub n, hu.tally _ h.parts.tally]
    exact h.blank hname

/-- A hub with the next number is founded, of parts that were chosen before. -/
theorem founded_setHub {v u : World} {options : HubOptions Behaviour} {h : Hub} (hw : w.Alike v)
    (hv : v.Alike u) (hissued : h.Issued v) (hregistry : w.Chosen .registry options.registryName? h.registry)
    (htally : w.Chosen .tally options.tallyName? h.tally)
    (hblank : options.tallyName? = none → ∃ limit, v.tally h.tally = { limit := limit }) :
    w.Founded (((Effect.issue).apply u).setHub u.issued h) options u.issued := by
  have halike := hw.trans hv
  have hhub : (((Effect.issue).apply u).setHub u.issued h).hub u.issued = h := by
    rw [hub_setHub, if_pos rfl]
  exact
    { new := halike.issued
      issued := Nat.lt_succ_self _
      hubs := ⟨h, by rw [← halike.hubs]; rfl⟩
      kept := halike.kept
      registries := halike.registries
      happened := halike.happened
      tally := halike.tally
      parts := by
        rw [hhub]
        exact ⟨(hissued.registry.trans_le hv.issued).trans (Nat.lt_succ_self _),
          (hissued.tally.trans_le hv.issued).trans (Nat.lt_succ_self _)⟩
      registryChosen := hhub.symm ▸ hregistry
      tallyChosen := hhub.symm ▸ htally
      blank := fun hname => by
        obtain ⟨limit, hlimit⟩ := hblank hname
        rw [hhub]
        exact ⟨limit, (hv.tally _ hissued.tally).trans hlimit⟩ }

end World

/-- How making a hub ends: it changes nothing but counters that are not used, or founds the hub. -/
def World.Makes (w : World) (options : HubOptions Behaviour) : Except Stop Nat × World → Prop
  | (.error _, v) => w.Alike v
  | (.ok n, v) => w.Founded v options n

namespace Hub

/-- **Making a hub founds it**, or changes nothing but counters that are not used. -/
theorem makes_create {options : HubOptions Behaviour} {givenRegistry givenTally : Option Nat} (hw : w.Sound)
    (hregistry : w.Given .registry options.registryName? givenRegistry)
    (htally : w.Given .tally options.tallyName? givenTally) :
    w.Makes options (outcome (create givenRegistry givenTally options.handler? options.metrics options.validates
      options.warns) w) := by
  unfold create
  obtain ⟨registry, u, hu, halike, hchosen, hissued⟩ := outcome_chooseRegistry hw hregistry
  rw [outcome_bind_ok hu]
  have htally' : u.Given .tally options.tallyName? givenTally := by
    unfold World.Given at htally ⊢
    rw [halike.kept]
    exact htally
  rcases outcome_chooseTally (hw.alike halike) htally' with
    ⟨stop, v, hv, hv'⟩ | ⟨tally, v, hv, hv', hchosen', hissued', hblank⟩
  · rw [outcome_bind_error hv]
    exact halike.trans hv'
  rw [outcome_bind_ok hv]
  have hall : w.Alike v := halike.trans hv'
  have herror : ∀ stop u, v.Alike u → w.Makes options (.error stop, u) := fun _ _ hu => hall.trans hu
  -- what follows does not touch the chosen parts, up to the hub itself
  refine outcome_bind_alike (.refl v) (install_does _) rfl herror fun handler? u _ hu => ?_
  refine outcome_bind_alike hu (flag_does ..) rfl herror fun metrics u _ hu => ?_
  refine outcome_bind_alike hu (flag_does ..) rfl herror fun validates u _ hu => ?_
  refine outcome_bind_alike hu (flag_does ..) rfl herror fun warns u _ hu => ?_
  have hfounded : w.Founded (((Effect.issue).apply u).setHub u.issued
      ⟨registry, tally, handler?, metrics, validates, warns⟩) options u.issued :=
    World.founded_setHub hall hu ⟨hissued.trans_le hv'.issued, hissued'⟩ hchosen
      (hchosen'.of_alike halike) hblank
  rw [outcome_bind_ok (outcome_fresh u), outcome_modify_bind, hubLog, outcome_bind_ok (outcome_log rfl _)]
  exact hfounded.alike (.afterLog _ _)

end Hub

/-- The command that sets up a hub changes nothing but counters that are not used, or founds the hub and
keeps it under its name. -/
theorem Session.left_create (hw : w.Sound) (nested : Perform) (depth : Nat) (name : String)
    (options : HubOptions Behaviour) :
    w.Alike (outcome (Session.hub nested depth (.create name options)) w).2 ∨
      ∃ n v, w.Founded v options n ∧
        (outcome (Session.hub nested depth (.create name options)) w).2 =
          { v with kept := v.kept.insert name (.hub n) } := by
  have hregistry : (outcome (optionally registryNamed options.registryName?) w).2 = w :=
    (optionally_does (fun _ _ => find_does ..) options.registryName?).left_eq
  have htally : (outcome (optionally tallyNamed options.tallyName?) w).2 = w :=
    (optionally_does (fun _ _ => find_does ..) options.tallyName?).left_eq
  unfold Session.hub
  rcases hr : outcome (optionally registryNamed options.registryName?) w with ⟨stop | givenRegistry, v⟩
  · rw [hr] at hregistry
    rw [outcome_bind_error hr, show v = w from hregistry]
    exact .inl (.refl w)
  obtain rfl : v = w := by simpa [hr] using hregistry
  rw [outcome_bind_ok hr]
  rcases ht : outcome (optionally tallyNamed options.tallyName?) v with ⟨stop | givenTally, u⟩
  · rw [ht] at htally
    rw [outcome_bind_error ht, show u = v from htally]
    exact .inl (.refl v)
  obtain rfl : u = v := by simpa [ht] using htally
  rw [outcome_bind_ok ht]
  have hmakes := Hub.makes_create hw (given_of_optionally (fun _ _ _ => registryNamed_ok) hr)
    (given_of_optionally (fun _ _ _ => tallyNamed_ok) ht)
  rcases hc : outcome (Hub.create givenRegistry givenTally options.handler? options.metrics options.validates
      options.warns) u with ⟨stop | n, v⟩
  · rw [hc] at hmakes
    rw [outcome_bind_error hc]
    exact .inl hmakes
  · rw [hc] at hmakes
    rw [outcome_bind_ok hc]
    exact .inr ⟨n, v, hmakes, rfl⟩

/-! ## Commands -/

/-- Whether a command runs no host code. -/
def Command.isPlain {β : Type} : Command β → Bool
  | .hub (.publish ..) => false
  | .bridge (.emit ..) => false
  | _ => true

namespace Step

open Session

/-- The command that makes a hub is made of moves: the hub is founded, and then its name entered. -/
theorem takes_create {name : String} {options : HubOptions Behaviour}
    (hcommand : s.command = .hub (.create name options)) (hw : s.world.Sound) :
    s.Takes (hub s.nested s.depth (.create name options)) s.world := by
  have hleft : s.left = (outcome (hub s.nested s.depth (.create name options)) s.world).2 := by
    unfold left run
    rw [hcommand]
    rfl
  unfold Takes
  rcases left_create hw s.nested s.depth name options with halike | ⟨n, v, hfounded, hv⟩
  · exact .single (.quiet halike)
  · -- the hub is new, and its name is entered last
    have hnew : s.world.hasHub n = false := hfounded.isNew hw
    have hn : v.hasHub n = true := hfounded.hasHub
    have hhubs : s.left.hubs = v.hubs := by rw [hleft, hv]
    have hoptions : s.setsUp? n = some options := by
      simp [setsUp?, hcommand, hnew, World.hasHub_congr hhubs, hn]
    rw [hv]
    refine .head (.found hfounded hoptions (World.hub_congr hhubs n)) ?_
    exact .single (.keep name (k := .hub n) hn rfl)

/-- Commands on hubs are made of moves, if they run no host code. -/
theorem takes_hub {c : HubCommand Behaviour} (hcommand : s.command = .hub c)
    (hplain : s.command.isPlain = true) (hw : s.world.Sound) :
    s.Takes (hub s.nested s.depth c) s.world := by
  cases c with
  | create name options => exact takes_create hcommand hw
  | listen name pattern handle? actors =>
      refine .hubOrHandle_bind hw fun n hn => ?_
      have hlisten := Takes.listen (s := s) hn pattern
      refine .bind hlisten fun ref v hv => ?_
      have hn' : v.hasHub n = true := by
        -- the hub is still there when the actors are attached
        have hlater := (moves_later hlisten).hubs n hn
        rwa [hv] at hlater
      have hattach : ∀ u : World, u.hasHub n = true → s.Takes (do
          actors.forM fun a => Hub.attach n ref a none
          replyHandle ref) u := fun u hu =>
        .bind (.forM hu fun a _ hn => .attach hn ref a none) fun _ _ _ => .does (replyHandle_does ref) rfl
      cases handle? with
      | none => exact hattach v hn'
      | some handle =>
          refine .after (outcome_modify _ v) (.single (.keep handle (k := .handle n ref) hn' rfl)) ?_
          exact hattach _ hn'
  | attach handle a identifier? =>
      refine .handleNamed_bind hw fun n ref hn => ?_
      exact .bind (.attach hn ref a identifier?) fun _ _ _ => .does (replyHandle_does ref) rfl
  | describe handle =>
      refine .handleNamed_bind hw fun n ref hn => ?_
      exact .quiet_bind (Hub.entry_does ref) rfl fun _ _ _ _ => .pure _
  | unlistenHandle handle =>
      refine .handleNamed_bind hw fun n ref hn => ?_
      refine .quiet_bind (Hub.entry_does ref) rfl fun e v _ halike => ?_
      exact .bind (.unlisten ((halike.hasHub n).trans hn) _) fun _ _ _ => .pure _
  | unlisten name pattern =>
      refine .hubNamed_bind hw fun n hname hn => ?_
      exact .bind (.unlisten hn pattern) fun _ _ _ => .pure _
  | clear name =>
      refine .hubNamed_bind hw fun n hname hn => ?_
      have hclears : s.clears n = true := by simp [clears, hcommand, hname]
      exact .bind (.clear hn hclears) fun _ _ _ => .pure _
  | setHandler name handler? =>
      refine .hubNamed_bind hw fun n hname hn => ?_
      exact .bind (.setHandler hn handler?) fun _ _ _ => .pure _
  | setMetrics name on =>
      refine .hubNamed_bind hw fun n hname hn => ?_
      have hturns : s.turns n on = true := by simp [turns, hcommand, hname]
      exact .bind (.setMetrics hn hturns) fun _ _ _ => .pure _
  | publish name event payload times => simp [hcommand, Command.isPlain] at hplain
  | snapshot name => exact .hubNamed_bind hw fun n _ _ => .get_bind (.pure _)
  | summary name =>
      refine .hubNamed_bind hw fun n _ _ => .get_bind ?_
      split
      · exact .pure _
      · split
        · exact .pure _
        · exact .raise _
  | survey name names? patterns? =>
      refine .hubNamed_bind hw fun n _ _ => .get_bind ?_
      refine .bind ?_ fun _ _ _ => .pure _
      cases patterns? with
      | none => exact .pure _
      | some ps => exact .quiet_bind (isActive_does _ ps) rfl fun _ _ _ _ => .pure _

/-- A bridge refers to the hub that it is made for. -/
theorem hub_of_bridge {n : Nat} {emitter : Callable Behaviour} {b : Bridge} {v : World}
    (h : outcome (Hub.bridge n emitter) w = (.ok b, v)) : b.hub = n := by
  unfold Hub.bridge at h
  dsimp only at h
  split at h
  · simp [outcome_bind_error (outcome_raise ..)] at h
  · obtain ⟨name, _, _, h⟩ := exists_of_outcome_bind h
    obtain ⟨qualifiedName, _, _, h⟩ := exists_of_outcome_bind h
    obtain ⟨_, _, _, h⟩ := exists_of_outcome_bind h
    obtain ⟨serial, _, _, h⟩ := exists_of_outcome_bind h
    simp only [outcome_pure, Prod.mk.injEq, Except.ok.injEq] at h
    rw [← h.1]

/-- Making a bridge is made of moves. -/
theorem takes_install {name hub : String} {emitter : Callable Behaviour} (hw : s.world.Sound) :
    s.Takes (bridge s.nested s.depth (.install name hub emitter)) s.world := by
  refine .hubNamed_bind hw fun n _ hn => ?_
  refine .quiet_bind (Hub.bridge_does n emitter) rfl fun b v hb halike => ?_
  have hknown : v.hasHub b.hub = true := by
    rw [hub_of_bridge hb, halike.hasHub n]
    exact hn
  exact .bind (.keep (k := .bridge b) hknown rfl) fun _ _ _ => .pure _

/-- Commands on registries are made of moves. -/
theorem takes_registry (c : RegistryCommand Behaviour) : s.Takes (registry c) w := by
  cases c with
  | create name =>
      have hcreate : outcome (registry (.create name)) w = (.ok .nothing, w.withRegistry name) := rfl
      unfold Takes
      rw [hcreate]
      exact .single (.newRegistry name)
  | activate name entry pattern =>
      refine .registryNamed_bind fun n hn => ?_
      refine .quiet_bind (Hub.compile_does pattern) rfl fun m v _ halike => .get_bind ?_
      refine .after (outcome_set _ v) (.single (.call (halike.kept ▸ hn) (.activate m))) ?_
      refine .bind (.keep trivial rfl) fun _ _ _ => ?_
      exact .quiet_bind (Hub.entry_does _) rfl fun _ _ _ _ => .pure _
  | deactivate name pattern =>
      refine .registryNamed_bind fun n hn => ?_
      refine .quiet_bind (Hub.compile_does pattern) rfl fun m v _ halike => .get_bind ?_
      refine .after (outcome_set _ v) (.single (.call (halike.kept ▸ hn) (.deactivate m))) ?_
      split
      · exact .pure _
      · exact .quiet_bind (Hub.entry_does _) rfl fun _ _ _ _ => .pure _
  | attach name entry a pattern identifier? =>
      refine .registryNamed_bind fun n hn => ?_
      refine .find_bind fun _ ref _ _ => ?_
      refine .quiet_bind (Hub.entry_does ref) rfl fun e v _ hv => ?_
      refine .quiet_bind (Hub.actorOf_does ..) rfl fun a u _ hu => ?_
      refine .bind ?_ fun _ _ _ => .pure _
      rcases Hub.outcome_attachTo n ref e.matcher.source a u with ⟨stop, hstop⟩ | ⟨count, hcount⟩
      · unfold Takes
        rw [hstop]
      · unfold Takes
        rw [hcount]
        exact .single (.call ((hv.trans hu).kept ▸ hn) (.attach ref a))
  | matching name event => exact .registryNamed_bind fun n _ => .get_bind (.pure _)
  | survey name patterns =>
      refine .registryNamed_bind fun n _ => .get_bind ?_
      exact .quiet_bind (isActive_does ..) rfl fun _ _ _ _ => .pure _
  | clear name =>
      refine .registryNamed_bind fun n hn => .get_bind ?_
      exact .after (outcome_set _ w) (.single (.call hn .clear)) (.pure _)

theorem takes_changeTally (name : String) (f : Tally → Tally) : s.Takes (changeTally name f) w := by
  unfold changeTally
  refine .tallyNamed_bind fun n hn => ?_
  exact .after (outcome_modify _ w) (.single (.count hn (f (w.tally n)))) (.get_bind (.pure _))

/-- Commands on counters are made of moves. -/
theorem takes_tally (c : TallyCommand) : s.Takes (tally c) w := by
  cases c with
  | create name limit? =>
      unfold tally
      dsimp only
      split
      · exact .raise _
      · rename_i t _
        -- the number, the counters and the name are one move
        exact .single (.newTally name t)
  | record name events =>
      unfold tally
      exact takes_changeTally name _
  | noteSizes name entries active actors =>
      unfold tally
      exact takes_changeTally name _
  | reset name =>
      unfold tally
      exact takes_changeTally name _
  | summary name =>
      refine .tallyNamed_bind fun n _ => .get_bind ?_
      split
      · exact .pure _
      · exact .raise _

/-- Commands on the log context are made of moves. -/
theorem takes_context (c : ContextCommand) : s.Takes (context c) w := by
  cases c with
  | enter name fields =>
      refine .get_bind (.get_bind (.quiet_bind correlation_does rfl fun _ _ _ _ => ?_))
      refine .bind (.keep trivial rfl) fun _ _ _ => ?_
      exact .does (changeContext_does _) rfl
  | leave name =>
      refine .find_bind fun _ sc _ _ => .get_bind ?_
      refine .bind (.keep trivial rfl) fun _ _ _ => ?_
      exact .does (changeContext_does _) rfl
  | set fields => exact .does (changeContext_does _) rfl
  | clear => exact .does (changeContext_does _) rfl
  | get => exact .does (changeContext_does _) rfl

/-- **A step without host code is made of moves.** -/
theorem takes_plain (hplain : s.command.isPlain = true) (hw : s.world.Sound) :
    Relation.ReflTransGen s.Move s.world s.left := by
  change s.Takes (step s.nested s.depth s.command) s.world
  cases hcommand : s.command with
  | hub c => exact takes_hub hcommand hplain hw
  | bridge c =>
      cases c with
      | install name hub emitter => exact takes_install hw
      | emit name event args named => simp [hcommand, Command.isPlain] at hplain
  | registry c => exact takes_registry c
  | tally c => exact takes_tally c
  | settings c => exact .does (settingsCommand_does c) rfl
  | machine c => exact .does (machine_does c) rfl
  | context c => exact takes_context c
  | log c => exact .does (logging_does c) rfl

end Step

end EventHub
