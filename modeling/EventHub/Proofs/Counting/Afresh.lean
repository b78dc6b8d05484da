import EventHub.Proofs.Counting.Sizes

/-! # Beginning afresh

Clearing a hub empties its registry, and if the hub counts, its counters begin anew. From then on the registry
holds only entries that were made since (`Registry.MadeSince`), and the counters follow only what happened
since (`Account.CountsSince`). Both are kept by whatever is done later. A hub that does not count when it is
cleared keeps the counts from before, and shows them when counting is turned on again
(`counts_survive_clear`).

Main statement: `clear_begins_afresh`.
-/

namespace EventHub

open Run

/-! ## Entries -/

namespace Registry

variable {α : Type} {i : Nat} {r : Registry α}

/-- All live entries were made after the first ones, so many as are given. -/
structure MadeSince (i : Nat) (r : Registry α) : Prop where
  issued : i ≤ r.issued
  live : ∀ e ∈ r.live, i ≤ e.ref.number

/-- Entries that are changed keep their references. -/
theorem MadeSince.map (h : r.MadeSince i) {f : Entry α → Entry α} (hf : ∀ e, (f e).ref = e.ref) :
    MadeSince i { r with live := r.live.map f } where
  issued := h.issued
  live := fun e he => by
    obtain ⟨e', he', rfl⟩ := List.mem_map.mp he
    rw [hf]
    exact h.live e' he'

/-- An entry that is made by listening is a later one, and others are only switched on. -/
theorem MadeSince.activate (h : r.MadeSince i) (m : Matcher) : (r.activate m).1.MadeSince i := by
  unfold Registry.activate
  split
  · -- the new entry gets the next number
    refine ⟨h.issued.trans (Nat.le_succ _), fun e he => ?_⟩
    rcases List.mem_append.mp he with he | he
    · exact h.live e he
    · obtain rfl := List.mem_singleton.mp he
      exact h.issued
  · split
    · exact h
    · exact h.map fun e => by split <;> rfl

/-- Ceasing to listen makes no entries. -/
theorem MadeSince.deactivate (h : r.MadeSince i) (m : Matcher) : (r.deactivate m).1.MadeSince i := by
  unfold Registry.deactivate
  split
  · exact h
  · exact h.map fun e => by split <;> rfl

/-- Whatever is called on a registry, new entries only are added. -/
theorem MadeSince.carryOut (h : r.MadeSince i) (op : Operation α) : (r.carryOut op).1.MadeSince i := by
  cases op with
  | activate m => exact h.activate m
  | deactivate m => exact h.deactivate m
  | attach ref a =>
      -- attaching an actor changes an entry that is there, or nothing
      simp only [Registry.carryOut, attach?]
      cases r.live? ref with
      | none => exact h
      | some e => exact h.map fun e => by split <;> rfl
  | clear => exact ⟨h.issued, by simp [Registry.carryOut, clear]⟩

end Registry

/-- A hub keeps its registry, in which later entries are made later. -/
def World.Remakes (n : Nat) (w v : World) : Prop :=
  w.hasHub n = true → v.hasHub n = true ∧ (v.hub n).registry = (w.hub n).registry ∧
    ∀ k i, (w.registry k).MadeSince i → (v.registry k).MadeSince i

/-- The relation holds where registries are left alone, and is transitive. -/
theorem World.frames_remakes (n : Nat) : Frames (Remakes n) where
  alike := fun _ h hn => ⟨(h.hasHub n).trans hn, by rw [h.hub], fun k i hk => by rwa [h.registry]⟩
  trans := fun h h' hn => by
    obtain ⟨hv, hsame, hmade⟩ := h hn
    obtain ⟨hu, hsame', hmade'⟩ := h' hv
    exact ⟨hu, hsame'.trans hsame, fun k i hk => hmade' k i (hmade k i hk)⟩

/-- What a step does by itself leaves a hub its registry, and makes later entries only. -/
theorem Step.holds_remakes (s : Step) (n : Nat) : s.Holds (World.Remakes n) where
  move := fun hw h hn => ⟨h.later.hubs n hn, h.number_eq hw hn .registry, fun k i hk => by
    -- a registry changes by calls only
    rcases h.registry_cases k with hsame | ⟨op, hcalled⟩
    · rwa [hsame]
    · rw [hcalled]
      exact hk.carryOut op⟩
  -- a report of a failure calls no registry
  failed := fun {w n' event} _ _ _ depth actor f hn => by
    obtain ⟨tallies, hentered⟩ := w.entered_cases (.failed depth n' event actor f)
    rw [hentered]
    exact ⟨hn, rfl, fun _ _ hk => hk⟩

/-! ## Counts -/

/-- The counters follow some of what happened after the first occurrences, so many as are given. -/
def Account.CountsSince (a : Account) (k : Nat) : Prop :=
  k ≤ a.events.length ∧ ∃ on t, a.state? = some (on, t) ∧
    ∃ counted, counted.Sublist (a.events.drop k) ∧ t.Follows counted

/-- What happens is counted, or it is not. -/
theorem Account.CountsSince.entered {a : Account} {k : Nat} (h : a.CountsSince k) (what : Counted)
    (name : String) : (a.entered what name).CountsSince k := by
  obtain ⟨hk, on, t, hstate, counted, hsub, ht⟩ := h
  have hdrop : (a.events ++ [(what, name)]).drop k = a.events.drop k ++ [(what, name)] :=
    List.drop_append_of_le_length hk
  refine ⟨hk.trans (by simp [Account.entered]), on, _, by simp only [Account.entered, hstate]; rfl, ?_⟩
  rw [show (a.entered what name).events = a.events ++ [(what, name)] from rfl, hdrop]
  cases on with
  | true => exact ⟨_, hsub.append (List.Sublist.refl _), ht.record what name⟩
  | false => exact ⟨counted, hsub.trans (List.sublist_append_left ..), ht⟩

/-- A turn lets the counters follow, and they begin anew with nothing. -/
theorem Step.Turn.countsSince {s : Step} {n : Nat} {a b : Account} (h : s.Turn n a b) {k : Nat}
    (ha : a.CountsSince k) : b.CountsSince k := by
  cases h with
  | idle => exact ha
  | found h limit =>
      -- a hub that is set up now had no counters before
      obtain ⟨-, on, t, hstate, -⟩ := ha
      cases hstate
  | sizes sizes =>
      obtain ⟨hk, _, _, hstate, counted, hsub, ht⟩ := ha
      cases hstate
      exact ⟨hk, _, _, rfl, counted, hsub, ht.resized sizes⟩
  | @clear on t events h =>
      obtain ⟨hk, _, _, hstate, counted, hsub, ht⟩ := ha
      cases hstate
      refine ⟨hk, _, _, rfl, ?_⟩
      -- the counters begin anew, or are left alone where the hub does not count
      cases on with
      | true => exact ⟨[], List.nil_sublist _, Tally.follows_empty t.limit⟩
      | false => exact ⟨counted, hsub, ht⟩
  | switch after h sizes =>
      obtain ⟨hk, _, _, hstate, counted, hsub, ht⟩ := ha
      cases hstate
      exact ⟨hk, _, _, rfl, counted, hsub, ht.resized sizes⟩
  | publish h name => exact ha.entered ..
  | call h hpublished => exact ha.entered ..

/-- Counters go on with what they follow. -/
abbrev World.CountsOn (n : Nat) : World → World → Prop :=
  World.Accounts n fun a b => ∀ k, a.CountsSince k → b.CountsSince k

/-- The relation holds where accounts are left alone, and is transitive. -/
theorem World.frames_countsOn (n : Nat) : Frames (CountsOn n) :=
  frames_accounts (fun _ _ h => h) fun h h' k h'' => h' k (h k h'')

/-- What a step does by itself lets the counters go on, if the hub is set up without given ones. -/
theorem Step.holds_countsOn {s : Step} {n : Nat} (hown : ∀ options ∈ s.setsUp? n, options.tallyName? = none) :
    s.Holds (World.CountsOn n) where
  move := fun hw h ho => ⟨h.owned hw ho hown, fun _ hk => (h.turn hw ho hown).countsSince hk⟩
  failed := fun {w n' event} _ hn' _ depth actor f ho => by
    refine ⟨ho.entered _, fun k hk => ?_⟩
    rw [World.account_entered (o := .failed depth n' event actor f) ho rfl hn']
    split
    · exact hk.entered ..
    · exact hk

/-! ## Clearing -/

namespace Step

variable {s : Step} {n : Nat}

/-- A step that clears a hub is the command to do so. -/
theorem exists_of_clears (h : s.clears n = true) :
    ∃ name, s.command = .hub (.clear name) ∧ s.world.hubNamed? name = some n := by
  unfold clears at h
  split at h
  · rename_i name hcommand
    exact ⟨name, hcommand, by simpa using h⟩
  · cases h

theorem plain_of_clears (h : s.clears n = true) : s.command.isPlain = true := by
  obtain ⟨name, hcommand, -⟩ := exists_of_clears h
  rw [hcommand]
  rfl

/-- A step that clears a hub does nothing else. -/
theorem alike_of_clears (h : s.clears n = true) : (s.world.cleared n).Alike s.left := by
  obtain ⟨name, hcommand, hhub⟩ := exists_of_clears h
  have hleft : s.left = (outcome (do
      Hub.clear (← hubNamed name)
      return Reply.nothing) s.world).2 := by
    unfold left run
    rw [hcommand]
    rfl
  have hnamed := Run.outcome_hubNamed name s.world
  rw [hhub] at hnamed
  rw [outcome_bind_ok hnamed, left_bind_pure] at hleft
  have hclear : outcome (Hub.clear n) s.world =
      outcome (hubLog 20 "Mediator: cleared all entries" [("previous_actor_count",
        .int (s.world.registry (s.world.hub n).registry).clear.2)]) (s.world.cleared n) := rfl
  -- the record that follows changes neither hubs nor counters
  rw [hleft, hclear]
  exact .of_does (hubLog_does ..) rfl

theorem registry_of_clears (h : s.clears n = true) : s.left.registry (s.left.hub n).registry =
    ((s.world.registry (s.world.hub n).registry).carryOut .clear).1 := by
  have halike := alike_of_clears h
  rw [halike.hub, halike.registry, World.hub_congr (s.world.hubs_cleared n), World.registry_cleared]

/-- After a clearing the counters of the hub are reset, if the hub counts. -/
theorem account_of_clears (h : s.clears n = true) (hw : s.world.Sound) (hn : s.world.hasHub n = true) :
    s.left.account n = ⟨some ((s.world.hub n).metrics,
      if (s.world.hub n).metrics then (s.world.tally (s.world.hub n).tally).reset
      else s.world.tally (s.world.hub n).tally), s.world.eventsOf n⟩ := by
  have hcleared : s.Move s.world (s.world.cleared n) := .clear hn h
  rw [World.account_alike (hcleared.sound hw) (alike_of_clears h), World.account_cleared hn]

end Step

section

variable {w : World} {cs : List (Command Behaviour)} {n : Nat} {before after : List Step} {c s : Step}
  (hw : w.Sound) (hlist : Session.steps w cs = before ++ c :: after) (hclears : c.clears n = true)
include hw hlist hclears

/-- A step that clears a hub begins in a sound world in which the hub exists, and leaves the hub there. -/
theorem Session.hasHub_of_clears : c.world.Sound ∧ c.world.hasHub n = true ∧ c.left.hasHub n = true := by
  obtain ⟨name, -, hhub⟩ := Step.exists_of_clears hclears
  have hsound : c.world.Sound := Session.sound cs hw c (by simp [hlist]) c.world (.inl rfl)
  have hn : c.world.hasHub n = true := hsound.hubNamed hhub
  exact ⟨hsound, hn, (Step.moves_later (Step.takes_plain (Step.plain_of_clears hclears) hsound)).hubs n hn⟩

/-- After a clearing the hub has gone on with its registry, which was empty then. -/
theorem Session.madeSince_clear (hs : s ∈ after) :
    s.world.hasHub n = true ∧ (s.world.registry (s.world.hub n).registry).MadeSince
      (c.left.registry (c.left.hub n).registry).issued := by
  obtain ⟨-, -, hn⟩ := hasHub_of_clears hw hlist hclears
  -- directly after the clearing there is no live entry at all
  have hempty : (c.left.registry (c.left.hub n).registry).MadeSince
      (c.left.registry (c.left.hub n).registry).issued :=
    ⟨Nat.le_refl _, by
      rw [Step.registry_of_clears hclears]
      simp [Registry.carryOut, Registry.clear]⟩
  have hlater := Session.leads_on (World.frames_remakes n) cs hw (fun s _ => s.holds_remakes n) hlist
    (Step.plain_of_clears hclears) s hs
  obtain ⟨hthere, hsame, hmade⟩ := hlater.rel hn
  rw [hsame]
  exact ⟨hthere, hmade _ _ hempty⟩

/-- After a clearing that resets the counters, they have gone on from there. -/
theorem Session.countsSince_clear (hown : ∀ s ∈ Session.steps w cs, ∀ options ∈ s.setsUp? n,
      options.tallyName? = none) (howned : c.left.Owned n) (hon : (c.world.hub n).metrics = true)
    (hs : s ∈ after) : (s.world.account n).CountsSince (c.left.eventsOf n).length := by
  obtain ⟨hsound, hn, -⟩ := hasHub_of_clears hw hlist hclears
  have haccount := Step.account_of_clears hclears hsound hn
  rw [hon, if_pos rfl] at haccount
  -- directly after the clearing the counters have counted nothing
  have hreset : (c.left.account n).CountsSince (c.left.eventsOf n).length := by
    rw [haccount, show c.left.eventsOf n = c.world.eventsOf n from congrArg Account.events haccount]
    exact ⟨Nat.le_refl _, _, _, rfl, [], List.nil_sublist _, Tally.follows_empty _⟩
  have hlater := Session.leads_on (World.frames_countsOn n) cs hw (fun s hs => Step.holds_countsOn (hown s hs))
    hlist (Step.plain_of_clears hclears) s hs
  exact (hlater.rel howned).2 _ hreset

end

/-- **Clearing begins afresh.** Take a session that begins in a fresh world, and a hub that is set up in it with
a registry and counters of its own. A step that clears the hub leaves no entry in its registry. Whatever
happens later in the session, in any order and nested as deeply as one likes: a snapshot of the hub shows the
sizes of the registry, all of whose entries were made since. If the hub counts when it is cleared, the snapshot
counts some of what has happened on the hub since, and nothing else, and the names that are tracked are the
first ones of these. If it does not count when it is cleared, its counters are left as they are. -/
theorem clear_begins_afresh {w : World} (hw : w.Fresh) (cs : List (Command Behaviour)) (n : Nat)
    (hfound : ∀ s ∈ Session.steps w cs, ∀ options ∈ s.setsUp? n,
      options.registryName? = none ∧ options.tallyName? = none)
    {before after : List Step} {c : Step} (hlist : Session.steps w cs = before ++ c :: after)
    (hclears : c.clears n = true) :
    let cleared := c.left.registry (c.left.hub n).registry
    cleared.live = [] ∧ ((c.world.hub n).metrics = false → c.left.account n = c.world.account n) ∧
      ∀ s ∈ after, ∀ snapshot ∈ Hub.snapshot? s.world n,
        let r := s.world.registry (s.world.hub n).registry
        let t := s.world.tally (s.world.hub n).tally
        (snapshot.entries = r.size ∧ snapshot.active = r.activeCount ∧ snapshot.actors = r.actorCount ∧
            ∀ e ∈ r.live, cleared.issued ≤ e.ref.number) ∧
          ((c.world.hub n).metrics = true →
            ∃ counted, counted.Sublist ((s.world.eventsOf n).drop (c.left.eventsOf n).length) ∧
              t.tracked = Tally.firstNames t.limit counted ∧
              ∀ what, totalOf (snapshot.counts what) = counted.countP (·.1 = what) ∧
                ∀ key, ((snapshot.counts what).find? key).getD 0 =
                  Tally.recorded t.tracked counted what key) := by
  obtain ⟨hsound, hn, -⟩ := Session.hasHub_of_clears hw.sound hlist hclears
  have hregistry := Step.registry_of_clears hclears
  have hright := Session.upToDate hw cs hfound
  refine ⟨by rw [hregistry]; rfl, fun hoff => ?_, fun s hs snapshot hsnapshot => ?_⟩
  · -- a hub that does not count keeps its counters
    rw [Step.account_of_clears hclears hsound hn, World.account_of_hub hn, hoff]
    rfl
  · -- a later snapshot shows the sizes of the registry, which has gone on from the cleared one
    obtain ⟨hthere, hmade⟩ := Session.madeSince_clear hw.sound hlist hclears hs
    obtain ⟨-, hsizes⟩ := hright s (by simp [hlist, hs]) s.world (.inl rfl)
    obtain ⟨hentries, hactive, hactors⟩ := hsizes.snapshot hthere hsnapshot
    refine ⟨⟨hentries, hactive, hactors, hmade.live⟩, fun hon => ?_⟩
    have howned : c.left.Owned n :=
      World.owned_iff.mpr ((hright c (by simp [hlist]) c.left (.inr rfl)).1 .tally)
    -- and the counts of counters that have gone on from the reset ones
    obtain ⟨-, on, t, hstate, counted, hsub, ht⟩ := Session.countsSince_clear hw.sound hlist hclears
      (fun s hs options hoptions => (hfound s hs options hoptions).2) howned hon hs
    obtain ⟨-, rfl⟩ := Hub.mem_snapshot?.mp hsnapshot
    rw [World.account_of_hub hthere] at hstate hsub
    cases hstate
    refine ⟨counted, hsub, ht.tracked, fun what => ⟨?_, fun key => ?_⟩⟩
    · rw [Tally.totalOf_snapshot, ht.total]
    · rw [Tally.find?_snapshot, ht.count]
      split <;> simp_all

/-- A session in which an actor clears the hub and then fails, and counting is off for a while afterwards. -/
def Sample.restarted : List (Command Behaviour) :=
  let silent := actor "silent" fun _ => .finish .none
  [create true, listen "a" "first" (actor "restarts" fun _ => failAfter (.hub (.clear "hub"))), publish "a",
    listen "b" "second" silent, publish "b", .hub (.setMetrics "hub" false), publish "b",
    .hub (.setMetrics "hub" true), publish "c"]

/-- Counts after the clearing are those of what happened after it while counting was on. -/
theorem clear_begins_afresh_restarted :
    (∀ s ∈ Session.steps (Sample.world 2) Sample.restarted, ∀ options ∈ s.setsUp? 2,
        options.registryName? = none ∧ options.tallyName? = none) ∧
      ∃ before c after, Session.steps (Sample.world 2) Sample.restarted = before ++ c :: after ∧
        c.clears 2 = true ∧ (c.world.hub 2).metrics = true ∧
        (c.left.registry (c.left.hub 2).registry).live = [] ∧
        ∃ s ∈ after, ∃ snapshot ∈ Hub.snapshot? s.world 2, snapshot.entries = 1 ∧
          ∃ counted : List (Counted × String), counted.Sublist
              [(.failure, "a"), (.publish, "b"), (.call, "b"), (.publish, "b"), (.call, "b")] ∧
            ∀ what, totalOf (snapshot.counts what) = counted.countP (·.1 = what) := by
  have hfound : ∀ s ∈ Session.steps (Sample.world 2) Sample.restarted, ∀ options ∈ s.setsUp? 2,
      options.registryName? = none ∧ options.tallyName? = none := by decide +kernel
  -- the clearing is the fourth step
  obtain ⟨c, hc, hclears, hon, s, hs, hentries, hevents, hcounting⟩ :
      ∃ c ∈ (Session.steps (Sample.world 2) Sample.restarted)[3]?,
        c.clears 2 = true ∧ (c.world.hub 2).metrics = true ∧
        ∃ s ∈ (Session.steps (Sample.world 2) Sample.restarted).drop 4,
          (s.world.registry (s.world.hub 2).registry).size = 1 ∧
          (s.world.eventsOf 2).drop (c.left.eventsOf 2).length =
            [(.failure, "a"), (.publish, "b"), (.call, "b"), (.publish, "b"), (.call, "b")] ∧
          (Hub.snapshot? s.world 2).isSome = true := by
    decide +kernel
  have hlist : Session.steps (Sample.world 2) Sample.restarted =
      (Session.steps (Sample.world 2) Sample.restarted).take 3 ++
        c :: (Session.steps (Sample.world 2) Sample.restarted).drop 4 := by
    obtain ⟨hlength, rfl⟩ := List.getElem?_eq_some_iff.mp hc
    rw [List.getElem_cons_drop, List.take_append_drop]
  obtain ⟨snapshot, hsnapshot⟩ := Option.isSome_iff_exists.mp hcounting
  obtain ⟨hlive, -, hlater⟩ :=
    clear_begins_afresh ⟨rfl, rfl, rfl, rfl⟩ Sample.restarted 2 hfound hlist hclears
  obtain ⟨⟨hsize, -⟩, hcounts⟩ := hlater s hs snapshot hsnapshot
  obtain ⟨counted, hsub, -, htotals⟩ := hcounts hon
  rw [hevents] at hsub
  exact ⟨hfound, _, c, _, hlist, hclears, hon, hlive, s, hs, snapshot, hsnapshot,
    by rw [hsize, hentries]; rfl, counted, hsub, fun what => (htotals what).1⟩

/-- Counts from before a clearing are shown after it, if the hub does not count when it is cleared and counting
is turned on again: nothing has happened since, but a publish and a call are counted. -/
theorem counts_survive_clear :
    let steps := Session.steps (Sample.world 2)
      [Sample.create true, Sample.listen "a" "handle" (Sample.actor "hears" fun _ => .finish .none),
        Sample.publish "a", .hub (.setMetrics "hub" false), .hub (.clear "hub"), .hub (.setMetrics "hub" true),
        .hub (.snapshot "hub")]
    ∃ c ∈ steps, c.clears 2 = true ∧ ∃ s ∈ steps.getLast?, s.world.eventsOf 2 = c.left.eventsOf 2 ∧
      ∃ snapshot ∈ Hub.snapshot? s.world 2, snapshot.published.find? "a" = some 1 ∧
        snapshot.called.find? "a" = some 1 := by
  decide +kernel

end EventHub
