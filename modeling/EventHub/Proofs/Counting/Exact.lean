import EventHub.Proofs.Counting.Accounts

/-! # Counters are exact

A hub with counters of its own, which counts from the beginning and is never cleared, counts exactly what
happens on it. `Account.Exact` is the invariant: the counters follow everything that happened, and every
name was published before anything else happened under it, so that the names that are tracked first are
those that are published first.

Main statement: `counters_exact`.
-/

namespace EventHub

open Run

namespace Account

/-- The event names of the publishes, the calls or the failures. -/
def names (a : Account) (what : Counted) : List String :=
  a.events.filterMap fun e => if e.1 = what then some e.2 else none

/-- The hub counts, its counters follow what happened, and names are published first. -/
structure Exact (a : Account) : Prop where
  state : ∀ x ∈ a.state?, x.1 = true ∧ x.2.Follows a.events
  published : (a.events.map (·.2)).eraseDups = (a.names .publish).eraseDups

theorem exact_empty : Exact ⟨none, []⟩ := ⟨by simp, by simp [names]⟩

/-- One more occurrence adds its name to those of its kind. -/
theorem names_entered (a : Account) (what other : Counted) (name : String) :
    (a.entered what name).names other =
      if what = other then a.names other ++ [name] else a.names other := by
  unfold names entered
  rw [List.filterMap_append]
  by_cases h : what = other <;> simp [h]

/-- A name is listed exactly if something of the kind happened under it. -/
theorem mem_names {a : Account} {what : Counted} {name : String} :
    name ∈ a.names what ↔ (what, name) ∈ a.events := by
  unfold names
  rw [List.mem_filterMap]
  constructor
  · rintro ⟨⟨what', name'⟩, he, hname⟩
    split at hname
    · rename_i hwhat
      cases hwhat
      cases hname
      exact he
    · cases hname
  · intro he
    exact ⟨_, he, by simp⟩

/-- As many names are listed as things of the kind happened. -/
theorem length_names (a : Account) (what : Counted) :
    (a.names what).length = a.events.countP fun e => e.1 = what := by
  unfold names
  induction a.events with
  | nil => rfl
  | cons e es ih => by_cases he : e.1 = what <;> simp [he, ih]

/-- A name is listed as often as things of the kind happened under it. -/
theorem count_names (a : Account) (what : Counted) (name : String) :
    (a.names what).count name = a.events.countP fun e => e.1 = what ∧ e.2 = name := by
  unfold names
  induction a.events with
  | nil => rfl
  | cons e es ih =>
      by_cases he : e.1 = what
      · by_cases hname : e.2 = name <;> simp [he, hname, ih]
      · simp [he, ih]

/-- One more occurrence, which is a publish or has the name of an earlier one. -/
theorem Exact.entered {a : Account} (ha : a.Exact) {what : Counted} {name : String}
    (hname : what = .publish ∨ (.publish, name) ∈ a.events) : (a.entered what name).Exact where
  -- the counters go on to follow what happens
  state := fun x hx => by
    obtain ⟨⟨on, t⟩, hstate, rfl⟩ := Option.map_eq_some_iff.mp hx
    obtain ⟨hon, ht⟩ := ha.state _ hstate
    obtain rfl : on = true := hon
    exact ⟨rfl, ht.record what name⟩
  -- the names that happened first are still those that were published first
  published := by
    have hall : (a.entered what name).events.map (·.2) = a.events.map (·.2) ++ [name] := by
      simp [Account.entered]
    have hmem : name ∈ a.events.map (·.2) ↔ name ∈ a.names .publish := by
      rw [← List.mem_eraseDups, ha.published, List.mem_eraseDups]
    rw [hall, eraseDups_concat, ha.published, names_entered]
    -- a publish adds the same name to both lists, and anything else has a name that is in both
    by_cases hwhat : what = .publish
    · rw [if_pos hwhat, eraseDups_concat]
      simp only [hmem]
    · have hpublished := hname.resolve_left hwhat
      rw [if_neg hwhat, if_pos (hmem.mpr (mem_names.mpr hpublished))]

/-- What the counters of an exact account show. -/
theorem Exact.snapshot {a : Account} (ha : a.Exact) {on : Bool} {t : Tally} (hstate : a.state? = some (on, t))
    (what : Counted) :
    totalOf (t.snapshot.counts what) = (a.names what).length ∧
      ∀ name ∈ (a.names .publish).eraseDups.take t.limit, name ≠ Tally.overflowName →
        ((t.snapshot.counts what).find? name).getD 0 = (a.names what).count name := by
  obtain ⟨-, ht⟩ := ha.state _ hstate
  refine ⟨?_, fun name hname hother => ?_⟩
  · rw [Tally.totalOf_snapshot, ht.total, length_names]
  · have htracked : name ∈ t.tracked := by
      rw [ht.tracked, Tally.firstNames, ha.published]
      exact hname
    rw [Tally.find?_snapshot, ht.count_of_tracked what htracked hother, count_names]

end Account

/-- **Counting stays exact** through what a step does by itself, if the step neither clears the hub nor
turns counting off. -/
theorem Step.keeps_exact {s : Step} {n : Nat}
    (hfound : ∀ options ∈ s.setsUp? n, options.tallyName? = none ∧ (s.left.hub n).metrics = true)
    (hclears : s.clears n = false) (hturns : s.turns n false = false) :
    s.Keeps n fun a b => a.Exact → b.Exact where
  own := fun options h => (hfound options h).1
  turn := fun h ha => by
    -- the hub is set up, and nothing was counted yet
    cases h with
    | idle => exact ha
    | found h limit =>
        refine ⟨fun x hx => ?_, rfl⟩
        cases hx
        exact ⟨(hfound _ h).2, Tally.follows_empty limit⟩
    | sizes sizes =>
        -- sizes are no counts
        refine ⟨fun x hx => ?_, ha.published⟩
        cases hx
        obtain ⟨hon, ht⟩ := ha.state _ rfl
        exact ⟨hon, ht.resized sizes⟩
    | clear h => simp [hclears] at h
    | switch after h sizes =>
        -- counting can only be turned on, where it is on already
        refine ⟨fun x hx => ?_, ha.published⟩
        cases hx
        cases after with
        | false => simp [hturns] at h
        | true => exact ⟨rfl, (ha.state _ rfl).2.resized sizes⟩
    | publish h name => exact ha.entered (.inl rfl)
    | call h hpublished => exact ha.entered (.inr hpublished)
  failed := fun _ _ _ _ hpublished hcalled _ ha => (hcalled ha).entered (.inr hpublished)

/-- **Counters are exact.** Take a session that begins in a fresh world, and a hub that is set up in it
without given counters and counts from then on: no step clears it or turns counting off. Whenever a step
begins or ends after that, be it nested in calls of actors however deeply, the counts are those of what has
happened on the hub so far: the sums are the numbers of publishes, of calls and of failures, and so are the
counts of each of the first distinct published names, as many as the counters track, unless it is the name
of the shared bucket. -/
theorem counters_exact {w : World} (hw : w.Fresh) (cs : List (Command Behaviour)) (n : Nat)
    (hfound : ∀ s ∈ Session.steps w cs, ∀ options ∈ s.setsUp? n,
      options.tallyName? = none ∧ (s.left.hub n).metrics = true)
    (hkept : ∀ s ∈ Session.steps w cs, s.clears n = false ∧ s.turns n false = false) :
    ∀ s ∈ Session.steps w cs, ∀ v, v = s.world ∨ v = s.left → v.hasHub n = true →
      ∃ snapshot, Hub.snapshot? v n = some snapshot ∧ ∀ what,
        totalOf (snapshot.counts what) = (v.namesOf n what).length ∧
          ∀ name ∈ (v.namesOf n .publish).eraseDups.take (v.tally (v.hub n).tally).limit,
            name ≠ Tally.overflowName →
              ((snapshot.counts what).find? name).getD 0 = (v.namesOf n what).count name := by
  intro s hs v hv hn
  -- exactness is kept by every step, and a fresh world has nothing that could be wrong
  have hframes : World.Frames (World.Accounts n fun a b => a.Exact → b.Exact) :=
    World.frames_accounts (fun _ h => h) fun h h' h'' => h' (h h'')
  have hrun := Session.leads hframes cs hw.sound fun s hs =>
    (Step.keeps_exact (hfound s hs) (hkept s hs).1 (hkept s hs).2).respects
  obtain ⟨-, hexact⟩ := (hrun s hs v hv).rel (hw.owned n)
  have hstate := World.account_of_hub hn
  have ha : (v.account n).Exact := hexact ((hw.account n).symm ▸ Account.exact_empty)
  obtain ⟨hon, -⟩ := ha.state _ (by rw [hstate]; rfl)
  refine ⟨_, if_pos hon, fun what => ?_⟩
  exact ha.snapshot (by rw [hstate]) what

/-- A session in which an actor publishes in turn and then fails, another one stops the program, and more
names are published than the counters track. -/
def Sample.cascade : List (Command Behaviour) :=
  [create true, listen "a" "first" (actor "first" fun _ => failAfter (publish "b")),
    listen "*" "second" (actor "second" fun before =>
      if before = 2 then .fail (.thrown .keyboardInterrupt []) else .finish .none),
    publish "a", publish "c"]

/-- In the cascade three publishes, four calls and one failure are counted, two of the calls under the first
name. -/
theorem counters_exact_cascade :
    (∀ s ∈ Session.steps (Sample.world 2) Sample.cascade, ∀ options ∈ s.setsUp? 2,
        options.tallyName? = none ∧ (s.left.hub 2).metrics = true) ∧
      (∀ s ∈ Session.steps (Sample.world 2) Sample.cascade,
        s.clears 2 = false ∧ s.turns 2 false = false) ∧
      ∃ s ∈ Session.steps (Sample.world 2) Sample.cascade, s.left.hasHub 2 = true ∧
        ∃ snapshot, Hub.snapshot? s.left 2 = some snapshot ∧
          totalOf (snapshot.counts .publish) = 3 ∧ totalOf (snapshot.counts .call) = 4 ∧
          totalOf (snapshot.counts .failure) = 1 ∧ ((snapshot.counts .call).find? "a").getD 0 = 2 := by
  have hfound : ∀ s ∈ Session.steps (Sample.world 2) Sample.cascade, ∀ options ∈ s.setsUp? 2,
      options.tallyName? = none ∧ (s.left.hub 2).metrics = true := by decide +kernel
  have hkept : ∀ s ∈ Session.steps (Sample.world 2) Sample.cascade,
      s.clears 2 = false ∧ s.turns 2 false = false := by decide +kernel
  -- what happened until the last step ended
  obtain ⟨s, hs, hhub, hpublish, hcall, hfailure, hfirst, hname⟩ :
      ∃ s ∈ Session.steps (Sample.world 2) Sample.cascade, s.left.hasHub 2 = true ∧
        s.left.namesOf 2 .publish = ["a", "b", "c"] ∧ s.left.namesOf 2 .call = ["a", "b", "a", "c"] ∧
        s.left.namesOf 2 .failure = ["a"] ∧
        "a" ∈ (s.left.namesOf 2 .publish).eraseDups.take (s.left.tally (s.left.hub 2).tally).limit ∧
        "a" ≠ Tally.overflowName := by decide +kernel
  obtain ⟨snapshot, hsnapshot, hcounts⟩ := counters_exact ⟨rfl, rfl, rfl, rfl⟩ Sample.cascade 2 hfound
    hkept s hs s.left (.inr rfl) hhub
  refine ⟨hfound, hkept, s, hs, hhub, snapshot, hsnapshot, ?_, ?_, ?_, ?_⟩
  · rw [(hcounts .publish).1, hpublish]
    rfl
  · rw [(hcounts .call).1, hcall]
    rfl
  · rw [(hcounts .failure).1, hfailure]
    rfl
  · rw [(hcounts .call).2 "a" hfirst hname, hcall]
    rfl

end EventHub
