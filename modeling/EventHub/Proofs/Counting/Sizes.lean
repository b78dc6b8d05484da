import EventHub.Proofs.Counting.Accounts

/-! # The sizes that counters show

The counters of a hub keep a copy of the sizes of its registry. The copy is made anew after a change of the
registry and when counting is turned on, and clearing the hub forgets it. While counting is off the copy is
left behind, but then it is not shown either. `World.UpToDate` is the invariant: the copy of a hub that
counts is right. It takes a hub that shares neither its registry nor its counters, since the copy of another
hub is not made anew when a shared registry changes.

Main statement: `sizes_upToDate`.
-/

namespace EventHub

open Run

/-! ## Sizes of registries -/

namespace Registry

variable {α : Type}

/-- The sizes of a registry. -/
def sizes (r : Registry α) : Sizes := ⟨r.size, r.activeCount, r.actorCount⟩

theorem length_patterns_active (r : Registry α) : (r.patterns true).length = r.activeCount := by
  simp [patterns, activeCount]

end Registry

theorem Tally.sizes_record (t : Tally) (what : Counted) (name : String) :
    (t.record what name).sizes = t.sizes := by
  unfold record
  cases what <;> rfl

theorem Tally.sizes_noteSizes (t : Tally) (r : Registry Actor) :
    (t.noteSizes r.size r.activeCount r.actorCount).sizes = r.sizes := rfl

/-! ## The invariant -/

namespace World

variable {w v : World} {n m k : Nat}

/-- If a hub exists and counts, its counters show the sizes of its registry. -/
def UpToDate (w : World) (n : Nat) : Prop :=
  w.hasHub n = true → (w.hub n).metrics = true →
    (w.tally (w.hub n).tally).sizes = (w.registry (w.hub n).registry).sizes

/-- Counting leaves sizes alone. -/
theorem sizes_counted (w : World) (m : Nat) (what : Counted) (name : String) (k : Nat) :
    ((w.counted m what name).tally k).sizes = (w.tally k).sizes := by
  by_cases hk : k = (w.hub m).tally
  · rw [hk, tally_counted_self]
    split
    · exact Tally.sizes_record ..
    · rfl
  · rw [tally_counted_ne hk]

/-- After a clearing the registry of the hub is the cleared one. -/
theorem registry_cleared (w : World) (n : Nat) : (w.cleared n).registry (w.hub n).registry =
    ((w.registry (w.hub n).registry).carryOut .clear).1 := by
  obtain ⟨tallies, hcleared⟩ := w.cleared_cases n
  rw [hcleared]
  exact (w.registry_setRegistry ..).trans (if_pos rfl)

namespace UpToDate

/-- Neither the hub nor the sizes of its parts change. -/
theorem of_same (h : w.UpToDate n) (hhubs : v.hasHub n = w.hasHub n)
    (hmetrics : (v.hub n).metrics = (w.hub n).metrics)
    (htally : w.hasHub n = true →
      (v.tally (v.hub n).tally).sizes = (w.tally (w.hub n).tally).sizes)
    (hregistry : w.hasHub n = true →
      v.registry (v.hub n).registry = w.registry (w.hub n).registry) : v.UpToDate n := by
  intro hn hon
  rw [hhubs] at hn
  rw [hmetrics] at hon
  rw [htally hn, hregistry hn]
  exact h hn hon

/-- Hubs do not change, and neither do the sizes of the parts of the hub. -/
theorem of_hubs (h : w.UpToDate n) (hhubs : v.hubs = w.hubs)
    (htally : w.hasHub n = true → (v.tally (w.hub n).tally).sizes = (w.tally (w.hub n).tally).sizes)
    (hregistry : w.hasHub n = true → v.registry (w.hub n).registry = w.registry (w.hub n).registry) :
    v.UpToDate n := by
  have hhub := hub_congr hhubs n
  exact h.of_same (hasHub_congr hhubs n) (by rw [hhub]) (by rwa [hhub]) (by rwa [hhub])

/-- A call on the registry of somebody else. -/
theorem operate (h : w.UpToDate n) (op : Registry.Operation Actor)
    (hk : w.hasHub n = true → (w.hub n).registry ≠ k) : ((Effect.registry k op).apply w).UpToDate n :=
  h.of_hubs rfl (fun _ => rfl) fun hn => (w.registry_setRegistry k _ _).trans (if_neg (hk hn))

/-- A change of the counters of somebody else. -/
theorem setTally (h : w.UpToDate n) (t : Tally) (hk : w.hasHub n = true → (w.hub n).tally ≠ k) :
    (w.setTally k t).UpToDate n := by
  refine h.of_hubs rfl (fun hn => ?_) fun _ => rfl
  rw [tally_setTally, if_neg (hk hn)]

/-- Noting the sizes makes the copy right. -/
theorem sized_self (w : World) (n : Nat) : (w.sized n).UpToDate n := by
  obtain ⟨tallies, hsized⟩ := w.sized_cases n
  intro _ hon
  have hhub : (w.sized n).hub n = w.hub n := hub_congr (by rw [hsized]) n
  have hregistry : ∀ k, (w.sized n).registry k = w.registry k := fun k => by rw [hsized]; rfl
  rw [hhub] at hon
  have htally : (w.sized n).tally (w.hub n).tally =
      (w.tally (w.hub n).tally).noteSizes (w.registry (w.hub n).registry).size
        (w.registry (w.hub n).registry).activeCount (w.registry (w.hub n).registry).actorCount := by
    unfold sized
    rw [if_pos hon]
    exact (tally_setTally ..).trans (if_pos rfl)
  rw [hhub, hregistry, htally, Tally.sizes_noteSizes]

/-- Noting the sizes of another hub's registry. -/
theorem sized_ne (h : w.UpToDate n) (hm : w.hasHub n = true → (w.hub n).tally ≠ (w.hub m).tally) :
    (w.sized m).UpToDate n := by
  unfold sized
  split
  · exact h.setTally _ hm
  · exact h

/-- Occurrences do not change sizes. -/
theorem entered (h : w.UpToDate n) (o : Occurrence) : (w.entered o).UpToDate n := by
  obtain ⟨tallies, hentered⟩ := w.entered_cases o
  refine h.of_hubs (by rw [hentered]; rfl) (fun _ => ?_) fun _ => by rw [hentered]; rfl
  unfold World.entered
  split
  · exact sizes_counted ..
  · rfl

/-- A new registry and new counters have nothing in them. -/
theorem founded (hw : w.Sound) {options : HubOptions Behaviour} (h : w.Founded v options n)
    (hown : ∀ p : Part, p.given? options = none) : v.UpToDate n := by
  intro _ _
  obtain ⟨limit, htally⟩ := h.blank (hown .tally)
  have hnew : w.issued ≤ (v.hub n).registry := by
    have hchosen := h.registryChosen
    rwa [show options.registryName? = none from hown .registry] at hchosen
  have hregistry : v.registry (v.hub n).registry = ⟨(v.hub n).registry, 0, [], []⟩ := by
    rw [← hw.blank _ hnew]
    unfold World.registry
    rw [h.registries]
  rw [htally, hregistry]
  rfl

/-- A clearing resets the counters of a hub that counts, which then show that nothing is there. -/
theorem cleared_self (w : World) (n : Nat) : (w.cleared n).UpToDate n := by
  intro _ hon
  have hhub := hub_congr (w.hubs_cleared n) n
  rw [hhub] at hon
  rw [hhub, registry_cleared, tally_cleared, if_pos ⟨hon, rfl⟩]
  rfl

/-- A clearing of another hub. -/
theorem cleared_ne (h : w.UpToDate n) (hregistry : w.hasHub n = true → (w.hub n).registry ≠ (w.hub m).registry)
    (htally : w.hasHub n = true → (w.hub n).tally ≠ (w.hub m).tally) : (w.cleared m).UpToDate n := by
  have hoperated := h.operate .clear hregistry
  unfold cleared
  dsimp only
  split
  · exact hoperated.setTally _ htally
  · exact hoperated

/-- Another hub, or the flags and the handler of the hub, change. -/
theorem setHub (h : w.UpToDate n) {hub : Hub} (hm : w.hasHub m = true)
    (hsame : m = n → hub.metrics = (w.hub m).metrics ∧ hub.tally = (w.hub m).tally ∧
      hub.registry = (w.hub m).registry) : (w.setHub m hub).UpToDate n := by
  have hthere : (w.setHub m hub).hasHub n = w.hasHub n := hasHub_insert_eq rfl fun _ => hm
  -- the flags and the handler of the hub itself change, or another hub
  by_cases hmn : m = n
  · subst hmn
    obtain ⟨hmetrics, htally, hregistry⟩ := hsame rfl
    have hhub : (w.setHub m hub).hub m = hub := (w.hub_setHub m m hub).trans (if_pos rfl)
    refine h.of_same hthere (by rw [hhub, hmetrics]) (fun _ => ?_) fun _ => ?_
    · rw [hhub, htally]
      rfl
    · rw [hhub, hregistry]
      rfl
  · have hhub : (w.setHub m hub).hub n = w.hub n :=
      (w.hub_setHub m n hub).trans (if_neg fun e => hmn e.symm)
    exact h.of_same hthere (by rw [hhub]) (fun _ => by rw [hhub]; rfl) fun _ => by rw [hhub]; rfl

end UpToDate

/-- A hub with parts of its own keeps them, and the sizes that its counters show stay right. -/
def Refreshes (n : Nat) (w v : World) : Prop :=
  (∀ p, w.Owns p n) → (∀ p, v.Owns p n) ∧ (w.UpToDate n → v.UpToDate n)

/-- The relation holds where hubs, registries and counters are left alone, and is transitive. -/
theorem frames_refreshes (n : Nat) : Frames (Refreshes n) where
  alike := fun hw h ho => ⟨fun p => (ho p).of_kept h.hubs h.kept, fun hsizes => by
    refine hsizes.of_hubs h.hubs (fun hn => ?_) fun _ => h.registry _
    rw [h.tally _ (hw.hub n hn).tally]⟩
  trans := fun h h' ho => ⟨(h' (h ho).1).1, fun hsizes => (h' (h ho).1).2 ((h ho).2 hsizes)⟩

end World

/-! ## Steps and sessions -/

/-- **Sizes stay right** through every move, if the hub is set up without given parts. -/
theorem Step.Move.upToDate {s : Step} {w v : World} {n : Nat} (h : s.Move w v) (hw : w.Sound)
    (ho : ∀ p, w.Owns p n) (hown : ∀ options ∈ s.setsUp? n, ∀ p : Part, p.given? options = none)
    (hsizes : w.UpToDate n) : v.UpToDate n := by
  -- another hub has other parts
  have hne : ∀ {m : Nat}, w.hasHub m = true → m ≠ n → ∀ p : Part, w.hasHub n = true →
      p.number (w.hub n) ≠ p.number (w.hub m) := fun hm hmn p hn => ((ho p).hub _ hn hm hmn).symm
  cases h with
  | quiet h => exact ((World.frames_refreshes n).alike hw h ho).2 hsizes
  -- a name is given to something, or a new part is made
  | keep name hknown hshared => exact hsizes.of_hubs rfl (fun _ => rfl) fun _ => rfl
  | newRegistry name => exact hsizes.of_hubs rfl (fun _ => rfl) fun _ => rfl
  | newTally name t =>
      have hissued : ((w.setTally w.issued t)).UpToDate n :=
        hsizes.setTally t fun hn => Nat.ne_of_lt (hw.hub n hn).tally
      exact hissued.of_hubs rfl (fun _ => rfl) fun _ => rfl
  | @call name k h op =>
      -- a call on a registry by its name, or a change of counters by theirs: the parts of the hub have no names
      refine hsizes.operate op fun hn heq => ?_
      subst heq
      exact (ho .registry).name name hn h
  | @count name k h t =>
      refine hsizes.setTally t fun hn heq => ?_
      subst heq
      exact (ho .tally).name name hn h
  | @found _ options m h hoptions hleft =>
      -- the hub is set up, or another one, which leaves the parts of the hub alone
      by_cases hmn : m = n
      · subst hmn
        exact .founded hw h (hown options hoptions)
      · obtain ⟨hthere, hhub⟩ := h.others (Ne.symm hmn)
        refine hsizes.of_same hthere (by rw [hhub]) (fun hn => ?_) fun _ => ?_
        · rw [hhub, h.tally _ (hw.hub n hn).tally]
        · rw [hhub, World.registry, h.registries, World.registry]
  | @change m hm op =>
      -- a change of a registry is followed by its sizes
      by_cases hmn : m = n
      · subst hmn
        exact .sized_self _ m
      · have hoperated : ((Effect.registry (w.hub m).registry op).apply w).UpToDate n :=
          hsizes.operate op (hne hm hmn .registry)
        exact hoperated.sized_ne (hne hm hmn .tally)
  | @clear m hm hclears =>
      -- a clearing resets counters
      by_cases hmn : m = n
      · subst hmn
        exact .cleared_self w m
      · exact hsizes.cleared_ne (hne hm hmn .registry) (hne hm hmn .tally)
  | handle hm handler? => exact hsizes.setHub hm fun _ => ⟨rfl, rfl, rfl⟩
  | @switch m on hm hturns =>
      -- the sizes are noted whenever counting is turned on or off
      by_cases hmn : m = n
      · subst hmn
        exact .sized_self _ m
      · have hset : (w.setHub m { w.hub m with metrics := on }).UpToDate n :=
          hsizes.setHub hm fun e => absurd e hmn
        have hhub : ∀ k, ((w.setHub m { w.hub m with metrics := on }).hub k).tally = (w.hub k).tally := by
          intro k
          rw [World.hub_setHub]
          split
          · rename_i hk
            rw [hk]
          · rfl
        have hthere : (w.setHub m { w.hub m with metrics := on }).hasHub n = w.hasHub n :=
          World.hasHub_insert_eq rfl fun _ => hm
        refine hset.sized_ne fun hn => ?_
        rw [hhub, hhub]
        exact hne hm hmn .tally (hthere ▸ hn)
  | publish hm depth name => exact hsizes.entered _
  | enterCall hm hpublished depth payload actor context => exact hsizes.entered _

/-- What a step does by itself keeps the parts of a hub its own, and its sizes right. -/
theorem Step.respects_refreshes {s : Step} {n : Nat}
    (hown : ∀ options ∈ s.setsUp? n, ∀ p : Part, p.given? options = none) :
    s.Respects (World.Refreshes n) where
  move := fun hw h ho =>
    ⟨fun p => h.owns hw (ho p) fun options hoptions => hown options hoptions p, h.upToDate hw ho hown⟩
  failed := fun {p x f} _ _ _ hcalled _ ho => by
    obtain ⟨hleft, hsizes⟩ := hcalled.rel ho
    exact ⟨fun part => (hleft part).entered (.failed p.depth p.hub x.event x.actor f),
      fun h => (hsizes h).entered (.failed p.depth p.hub x.event x.actor f)⟩

/-- What a snapshot of the hub shows. -/
theorem World.UpToDate.snapshot {w : World} {n : Nat} (h : w.UpToDate n) (hn : w.hasHub n = true)
    {snapshot : Snapshot} (hsnapshot : snapshot ∈ Hub.snapshot? w n) :
    snapshot.entries = (w.registry (w.hub n).registry).size ∧
      snapshot.active = (w.registry (w.hub n).registry).activeCount ∧
      snapshot.actors = (w.registry (w.hub n).registry).actorCount := by
  obtain ⟨hon, rfl⟩ := Hub.mem_snapshot?.mp hsnapshot
  unfold Tally.snapshot
  rw [h hn hon]
  exact ⟨rfl, rfl, rfl⟩

/-- Whenever a step begins or ends, a hub that is set up without given parts has parts of its own, and the
sizes that its counters show are right. -/
theorem Session.upToDate {w : World} (hw : w.Fresh) (cs : List (Command Behaviour)) {n : Nat}
    (hfound : ∀ s ∈ Session.steps w cs, ∀ options ∈ s.setsUp? n,
      options.registryName? = none ∧ options.tallyName? = none) :
    ∀ s ∈ Session.steps w cs, ∀ v, v = s.world ∨ v = s.left → (∀ p, v.Owns p n) ∧ v.UpToDate n := by
  intro s hs v hv
  -- the run lemma, with the parts of the hub and the sizes carried along together
  have hrun := Session.leads (World.frames_refreshes n) cs hw.sound fun s hs =>
    s.respects_refreshes fun options hoptions p => by
      obtain ⟨hregistry, htally⟩ := hfound s hs options hoptions
      cases p with
      | registry => exact hregistry
      | tally => exact htally
  have hbefore : w.UpToDate n := fun hn => absurd hn (by simp [hw.hasHub n])
  obtain ⟨howns, hsizes⟩ := (hrun s hs v hv).rel fun p => hw.owns p n
  exact ⟨howns, hsizes hbefore⟩

/-- **Sizes are never stale.** Take a session that begins in a fresh world, and a hub that is set up in it
with a registry and counters of its own. Whenever a step begins or ends after that, be it nested in calls of
actors however deeply and however it ends, a snapshot of the hub shows how many entries its registry has,
how many active patterns it lists, and how many actors are attached. -/
theorem sizes_upToDate {w : World} (hw : w.Fresh) (cs : List (Command Behaviour)) (n : Nat)
    (hfound : ∀ s ∈ Session.steps w cs, ∀ options ∈ s.setsUp? n,
      options.registryName? = none ∧ options.tallyName? = none) :
    ∀ s ∈ Session.steps w cs, ∀ v, v = s.world ∨ v = s.left → v.hasHub n = true →
      ∀ snapshot ∈ Hub.snapshot? v n,
        snapshot.entries = (v.registry (v.hub n).registry).size ∧
          snapshot.active = ((v.registry (v.hub n).registry).patterns true).length ∧
          snapshot.actors = (v.registry (v.hub n).registry).actorCount := by
  intro s hs v hv hn snapshot hsnapshot
  rw [Registry.length_patterns_active]
  exact (Session.upToDate hw cs hfound s hs v hv).2.snapshot hn hsnapshot

/-- A session in which an actor listens, unlistens, attaches to a stale handle, turns counting off and on
and clears its own hub, and fails in the end; counting is off for a while, and the hub changes meanwhile. -/
def Sample.reentrant : List (Command Behaviour) :=
  let silent := actor "silent" fun _ => .finish .none
  let inner : List (Command Behaviour) :=
    [listen "b" "inner" silent, .hub (.setMetrics "hub" false), .hub (.unlisten "hub" (.plain (.text "b"))),
      .hub (.setMetrics "hub" true), .hub (.unlisten "hub" (.plain (.text "never")))]
  let body : Behaviour := inner.foldr (fun c rest => .perform c true fun _ => rest)
    (.perform (.hub (.clear "hub")) true fun _ =>
      .perform (.hub (.attach "outer" silent none)) true fun _ =>
        .perform (listen "c" "last" silent) true fun _ => failure)
  [create true, listen "a" "outer" (actor "outer" fun _ => body), .hub (.setMetrics "hub" false),
    listen "d" "more" silent, .hub (.setMetrics "hub" true), publish "a"]

/-- After the reentrant session the counters show three entries, two of them active, and three actors. -/
theorem sizes_upToDate_reentrant :
    (∀ s ∈ Session.steps (Sample.world 2) Sample.reentrant, ∀ options ∈ s.setsUp? 2,
        options.registryName? = none ∧ options.tallyName? = none) ∧
      ∃ s ∈ Session.steps (Sample.world 2) Sample.reentrant, s.left.hasHub 2 = true ∧
        ∃ snapshot ∈ Hub.snapshot? s.left 2,
          snapshot.entries = 3 ∧ snapshot.active = 2 ∧ snapshot.actors = 3 := by
  have hfound : ∀ s ∈ Session.steps (Sample.world 2) Sample.reentrant, ∀ options ∈ s.setsUp? 2,
      options.registryName? = none ∧ options.tallyName? = none := by decide +kernel
  obtain ⟨s, hs, hhub, snapshot, hsnapshot, hentries, hactive, hactors⟩ :
      ∃ s ∈ Session.steps (Sample.world 2) Sample.reentrant, s.left.hasHub 2 = true ∧
        ∃ snapshot ∈ Hub.snapshot? s.left 2, (s.left.registry (s.left.hub 2).registry).size = 3 ∧
          ((s.left.registry (s.left.hub 2).registry).patterns true).length = 2 ∧
          (s.left.registry (s.left.hub 2).registry).actorCount = 3 := by
    decide +kernel
  obtain ⟨h₁, h₂, h₃⟩ := sizes_upToDate ⟨rfl, rfl, rfl, rfl⟩ Sample.reentrant 2 hfound s hs s.left
    (.inr rfl) hhub snapshot hsnapshot
  refine ⟨hfound, s, hs, hhub, snapshot, hsnapshot, ?_, ?_, ?_⟩
  · rw [h₁, hentries]
    rfl
  · rw [h₂, hactive]
    rfl
  · rw [h₃, hactors]
    rfl

end EventHub
