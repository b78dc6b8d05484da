import EventHub.Proofs.Session.Sound
import Mathlib.Logic.Relation

/-! # What a step can do

`Step.Move` lists, once for all, the changes that the library makes during a step apart from the host code
that it runs. Whatever is kept by every move is kept by the library. Every move leaves a sound world and a
later one (`Step.Move.sound`, `Step.Move.later`), and a step that runs no host code is made of moves
(`Step.takes_plain`).

Counting is part of the moves: a change of a hub's registry is followed by the sizes that its counters
note, and an occurrence is entered together with its count.
-/

namespace EventHub

open Run

/-! ## Changes -/

namespace World

/-- The sizes of a hub's registry are noted in its counters, if the hub counts. -/
def sized (w : World) (n : Nat) : World :=
  if (w.hub n).metrics then (Effect.sizes (w.hub n).tally (w.hub n).registry).apply w else w

/-- A call on the registry of a hub. -/
def changed (w : World) (n : Nat) (op : Registry.Operation Actor) : World :=
  ((Effect.registry (w.hub n).registry op).apply w).sized n

/-- The registry of a hub is cleared, and counting begins anew if the hub counts. -/
def cleared (w : World) (n : Nat) : World :=
  let v := (Effect.registry (w.hub n).registry .clear).apply w
  if (w.hub n).metrics then (Effect.reset (w.hub n).tally).apply v else v

/-- Counting is turned on or off. -/
def switched (w : World) (n : Nat) (on : Bool) : World :=
  (w.setHub n { w.hub n with metrics := on }).sized n

/-- An occurrence is entered into the journal and counted, if the hub counts. -/
def entered (w : World) (o : Occurrence) : World :=
  match o.counted? with
  | some (n, what, name) => (w.note o).counted n what name
  | none => w.note o

/-- A new registry with a name. -/
def withRegistry (w : World) (name : String) : World :=
  { w with issued := w.issued + 1, kept := w.kept.insert name (.registry w.issued) }

/-- New counters with a name. -/
def withTally (w : World) (name : String) (t : Tally) : World :=
  { w with
    issued := w.issued + 1
    tallies := w.tallies.insert w.issued t
    kept := w.kept.insert name (.tally w.issued) }

/-- A part of a new hub: the one that is kept under the given name, or a new one. -/
def Chosen (w : World) (kind : Nat → Kept) (name? : Option String) (n : Nat) : Prop :=
  match name? with
  | some name => w.kept.find? name = some (kind n)
  | none => w.issued ≤ n

/-- A new hub, set up with options. Counters of its own count nothing yet. -/
structure Founded (w v : World) (options : HubOptions Behaviour) (n : Nat) : Prop where
  new : w.issued ≤ n
  issued : n < v.issued
  hubs : ∃ h : Hub, v.hubs = w.hubs.insert n h
  kept : v.kept = w.kept
  registries : v.registries = w.registries
  happened : v.happened = w.happened
  tally : ∀ m < w.issued, v.tally m = w.tally m
  parts : (v.hub n).Issued v
  registryChosen : w.Chosen .registry options.registryName? (v.hub n).registry
  tallyChosen : w.Chosen .tally options.tallyName? (v.hub n).tally
  blank : options.tallyName? = none → ∃ limit, v.tally (v.hub n).tally = { limit := limit }

end World

/-- Whether something that is kept can be shared between hubs. -/
def Kept.isShared : Kept → Bool
  | .registry _ => true
  | .tally _ => true
  | _ => false

namespace Step

/-- The options with which a step sets up a hub, if it does. -/
def setsUp? (s : Step) (n : Nat) : Option (HubOptions Behaviour) :=
  match s.command with
  | .hub (.create _ options) => if !s.world.hasHub n && s.left.hasHub n then some options else none
  | _ => none

/-- Whether a step clears a hub. -/
def clears (s : Step) (n : Nat) : Bool :=
  match s.command with
  | .hub (.clear name) => s.world.hubNamed? name == some n
  | _ => false

/-- Whether a step turns counting of a hub on, or off. -/
def turns (s : Step) (n : Nat) (on : Bool) : Bool :=
  match s.command with
  | .hub (.setMetrics name value) => s.world.hubNamed? name == some n && value == on
  | _ => false

/-- A change that the library makes during a step. -/
inductive Move (s : Step) : World → World → Prop
  /-- Hubs, names, registries and counts are as they were. -/
  | quiet {w v : World} (h : w.Alike v) : Move s w v
  /-- Something gets a name that no hub can be set up with. -/
  | keep {w : World} (name : String) {k : Kept} (hknown : k.Known w) (hshared : k.isShared = false) :
      Move s w { w with kept := w.kept.insert name k }
  | newRegistry {w : World} (name : String) : Move s w (w.withRegistry name)
  | newTally {w : World} (name : String) (t : Tally) : Move s w (w.withTally name t)
  /-- A call on a registry by its name. -/
  | call {w : World} {name : String} {n : Nat} (h : w.kept.find? name = some (.registry n))
      (op : Registry.Operation Actor) : Move s w ((Effect.registry n op).apply w)
  /-- A change of counters by their name. -/
  | count {w : World} {name : String} {n : Nat} (h : w.kept.find? name = some (.tally n)) (t : Tally) :
      Move s w (w.setTally n t)
  | found {w v : World} {options : HubOptions Behaviour} {n : Nat} (h : w.Founded v options n)
      (hoptions : s.setsUp? n = some options) (hleft : s.left.hub n = v.hub n) : Move s w v
  | change {w : World} {n : Nat} (hn : w.hasHub n = true) (op : Registry.Operation Actor) :
      Move s w (w.changed n op)
  | clear {w : World} {n : Nat} (hn : w.hasHub n = true) (hclears : s.clears n = true) :
      Move s w (w.cleared n)
  | handle {w : World} {n : Nat} (hn : w.hasHub n = true) (handler? : Option InstalledHandler) :
      Move s w (w.setHub n { w.hub n with handler? := handler? })
  | switch {w : World} {n : Nat} {on : Bool} (hn : w.hasHub n = true) (hturns : s.turns n on = true) :
      Move s w (w.switched n on)
  /-- A publish begins. -/
  | publish {w : World} {n : Nat} (hn : w.hasHub n = true) (depth : Nat) (name : String) :
      Move s w (w.entered (.published depth n name))
  /-- A call begins, of an event that was published. -/
  | enterCall {w : World} {n : Nat} (hn : w.hasHub n = true) {event : Event}
      (hpublished : (.publish, event.name) ∈ w.eventsOf n) (depth : Nat) (payload : Value)
      (actor : Actor) (context : Fields) :
      Move s w (w.entered (.called depth n event payload actor context))

end Step

/-! ## Moves are sound -/

namespace World

variable {w : World}

/-- Noting sizes changes nothing but counters. -/
theorem sized_cases (w : World) (n : Nat) : ∃ tallies, w.sized n = { w with tallies := tallies } := by
  unfold sized
  split
  · exact ⟨_, rfl⟩
  · exact ⟨w.tallies, rfl⟩

/-- Counting changes nothing but counters. -/
theorem counted_cases (w : World) (n : Nat) (what : Counted) (name : String) :
    ∃ tallies, w.counted n what name = { w with tallies := tallies } := by
  unfold counted
  split
  · exact ⟨_, rfl⟩
  · exact ⟨w.tallies, rfl⟩

/-- A call on the registry of a hub changes the registry, and counters only besides. -/
theorem changed_cases (w : World) (n : Nat) (op : Registry.Operation Actor) :
    ∃ tallies, w.changed n op =
      { (Effect.registry (w.hub n).registry op).apply w with tallies := tallies } :=
  sized_cases _ n

/-- Clearing changes the registry, and counters only besides. -/
theorem cleared_cases (w : World) (n : Nat) :
    ∃ tallies, w.cleared n =
      { (Effect.registry (w.hub n).registry .clear).apply w with tallies := tallies } := by
  unfold cleared
  dsimp only
  split
  · exact ⟨_, rfl⟩
  · exact ⟨w.tallies, rfl⟩

/-- Turning counting on or off changes the hub, and counters only besides. -/
theorem switched_cases (w : World) (n : Nat) (on : Bool) :
    ∃ tallies, w.switched n on =
      { w.setHub n { w.hub n with metrics := on } with tallies := tallies } :=
  sized_cases _ n

/-- Entering an occurrence changes the journal, and counters only besides. -/
theorem entered_cases (w : World) (o : Occurrence) :
    ∃ tallies, w.entered o = { w.note o with tallies := tallies } := by
  unfold entered
  split
  · exact counted_cases _ ..
  · exact ⟨w.tallies, rfl⟩

/-- Entering an occurrence and counting something come to the same in either order. -/
theorem counted_note (w : World) (o : Occurrence) (n : Nat) (what : Counted) (name : String) :
    (w.note o).counted n what name = (w.counted n what name).note o := by
  unfold counted
  rw [show (w.note o).hub n = w.hub n from rfl]
  split <;> rfl

/-- An occurrence that counts is added to what happened. -/
theorem happened_entered (w : World) (o : Occurrence) :
    (w.entered o).happened = w.happened ++ o.counted?.toList := by
  obtain ⟨tallies, hentered⟩ := w.entered_cases o
  rw [hentered]
  exact w.happened_note o

end World

namespace World.Later

variable {w v : World}

/-- A hub is added or replaced. -/
theorem insertHub {m : Nat} {h : Hub} (hissued : w.issued ≤ v.issued)
    (hhubs : v.hubs = w.hubs.insert m h) (hhappened : v.happened = w.happened) : w.Later v where
  issued := hissued
  hubs := fun n hn => (hasHub_insert hhubs n).mpr (.inr hn)
  happened := hhappened ▸ List.prefix_refl _

/-- Entering an occurrence leads to a later world. -/
theorem entered (w : World) (o : Occurrence) : w.Later (w.entered o) := by
  have hhappened := w.happened_entered o
  obtain ⟨tallies, hentered⟩ := w.entered_cases o
  rw [hentered] at hhappened ⊢
  exact ⟨Nat.le_refl _, fun _ hn => hn, hhappened ▸ List.prefix_append _ _⟩

end World.Later

namespace Step.Move

variable {s : Step} {w v : World}

/-- Every move leads to a later world. -/
theorem later (h : s.Move w v) : w.Later v := by
  cases h with
  | quiet h => exact .of_alike h
  | keep name hknown hshared => exact .of_same (Nat.le_refl _) rfl rfl
  | newRegistry name => exact .of_same (Nat.le_succ _) rfl rfl
  | newTally name t => exact .of_same (Nat.le_succ _) rfl rfl
  | call h op => exact .of_same (Nat.le_refl _) rfl rfl
  | count h t => exact .of_same (Nat.le_refl _) rfl rfl
  | found h hoptions hleft =>
      obtain ⟨hub, hhubs⟩ := h.hubs
      exact .insertHub (h.new.trans h.issued.le) hhubs h.happened
  | @change n hn op =>
      obtain ⟨tallies, hchanged⟩ := w.changed_cases n op
      rw [hchanged]
      exact .of_same (Nat.le_refl _) rfl rfl
  | @clear n hn hclears =>
      obtain ⟨tallies, hcleared⟩ := w.cleared_cases n
      rw [hcleared]
      exact .of_same (Nat.le_refl _) rfl rfl
  | handle hn handler? => exact .insertHub (Nat.le_refl _) rfl rfl
  | @switch n on hn hturns =>
      obtain ⟨tallies, hswitched⟩ := w.switched_cases n on
      rw [hswitched]
      exact .insertHub (Nat.le_refl _) rfl rfl
  | publish hn depth name => exact .entered w _
  | enterCall hn hpublished depth payload actor context => exact .entered w _

end Step.Move

namespace World.Sound

variable {w v : World}

/-- A call on a registry that was issued. -/
theorem operate (hw : w.Sound) {n : Nat} (hn : n < w.issued) (op : Registry.Operation Actor)
    (tallies : OrderedMap Nat Tally) :
    World.Sound { (Effect.registry n op).apply w with tallies := tallies } := by
  refine hw.of_same (Nat.le_refl _) rfl rfl rfl fun m hm => ?_
  have hne : m ≠ n := fun h => Nat.not_le_of_lt hn (h ▸ hm)
  exact (w.registry_setRegistry n m _).trans (if_neg hne)

/-- A change of a hub that keeps its registry and its counters. -/
theorem setHub (hw : w.Sound) {n : Nat} (h : Hub) (hn : w.hasHub n = true)
    (hregistry : h.registry = (w.hub n).registry) (htally : h.tally = (w.hub n).tally)
    (tallies : OrderedMap Nat Tally) : World.Sound { w.setHub n h with tallies := tallies } := by
  have hhubs : ({ w.setHub n h with tallies := tallies } : World).hubs = w.hubs.insert n h := rfl
  refine hw.step (.insertHub (Nat.le_refl _) hhubs rfl) (fun m hm => .inl ?_) (fun _ _ hk => .inl hk)
    (fun _ _ => rfl) fun _ he => .inl he
  rw [hub_insert hhubs]
  rw [hasHub_insert_eq hhubs fun _ => hn] at hm
  by_cases hmn : m = n
  · subst hmn
    exact ⟨hm, by simpa using hregistry, by simpa using htally⟩
  · exact ⟨hm, by rw [if_neg hmn], by rw [if_neg hmn]⟩

/-- A name for something that is known afterwards. -/
theorem keep (hw : w.Sound) {name : String} {k : Kept} (hissued : w.issued ≤ v.issued)
    (hhubs : v.hubs = w.hubs) (hkept : v.kept = w.kept.insert name k) (hknown : k.Known v)
    (hregistries : v.registries = w.registries) (hhappened : v.happened = w.happened) : v.Sound := by
  refine hw.step (.of_same hissued hhubs hhappened) (fun n hn => .inl ?_) (fun other l hl => ?_)
    (fun n _ => ?_) fun e he => .inl (hhappened ▸ he)
  · rw [hub_congr hhubs]
    exact ⟨(hasHub_congr hhubs n).symm.trans hn, rfl, rfl⟩
  · rw [hkept, OrderedMap.find?_insert] at hl
    by_cases hname : other = name
    · rw [if_pos hname] at hl
      cases hl
      exact .inr hknown
    · rw [if_neg hname] at hl
      exact .inl hl
  · unfold registry
    rw [hregistries]

/-- Something happens on a hub. -/
theorem entered (hw : w.Sound) {o : Occurrence} (ho : ∀ e ∈ o.counted?, w.hasHub e.1 = true) :
    (w.entered o).Sound := by
  have hlater := Later.entered w o
  have hhappened := w.happened_entered o
  obtain ⟨tallies, hentered⟩ := w.entered_cases o
  rw [hentered] at hlater hhappened ⊢
  refine hw.step hlater (fun n hn => .inl ⟨hn, rfl, rfl⟩) (fun _ _ hk => .inl hk) (fun _ _ => rfl)
    fun e he => ?_
  rw [hhappened] at he
  rcases List.mem_append.mp he with he | he
  · exact .inl he
  · exact .inr (ho e (Option.mem_toList.mp he))

end World.Sound

namespace World.Founded

variable {w v : World} {options : HubOptions Behaviour} {n m : Nat}

theorem hasHub (h : w.Founded v options n) : v.hasHub n = true := by
  obtain ⟨hub, hhubs⟩ := h.hubs
  exact (hasHub_insert hhubs n).mpr (.inl rfl)

theorem isNew (h : w.Founded v options n) (hw : w.Sound) : w.hasHub n = false := by
  cases hn : w.hasHub n with
  | false => rfl
  | true => exact absurd (hw.number n hn) (Nat.not_lt_of_le h.new)

/-- Other hubs are as they were. -/
theorem others (h : w.Founded v options n) (hm : m ≠ n) :
    v.hasHub m = w.hasHub m ∧ v.hub m = w.hub m := by
  obtain ⟨hub, hhubs⟩ := h.hubs
  exact ⟨hasHub_insert_eq hhubs fun hmn => absurd hmn hm, by rw [hub_insert hhubs, if_neg hm]⟩

end World.Founded

/-- **Every move leaves a sound world.** -/
theorem Step.Move.sound {s : Step} {w v : World} (h : s.Move w v) (hw : w.Sound) : v.Sound := by
  cases h with
  | quiet h => exact hw.alike h
  | keep name hknown hshared =>
      refine hw.keep (Nat.le_refl _) rfl rfl (hknown.later ?_) rfl rfl
      exact .of_same (Nat.le_refl _) rfl rfl
  | newRegistry name => exact hw.keep (Nat.le_succ _) rfl rfl (Nat.lt_succ_self _) rfl rfl
  | newTally name t => exact hw.keep (Nat.le_succ _) rfl rfl (Nat.lt_succ_self _) rfl rfl
  | @call name n h op => exact hw.operate (hw.kept name _ h) op w.tallies
  | count h t => exact hw.of_same (Nat.le_refl _) rfl rfl rfl fun _ _ => rfl
  | @found _ options n h hoptions hleft =>
      obtain ⟨hub, hhubs⟩ := h.hubs
      have hissued : w.issued ≤ v.issued := h.new.trans h.issued.le
      refine hw.step (.insertHub hissued hhubs h.happened) (fun m hm => ?_)
        (fun _ _ hk => .inl (h.kept ▸ hk)) (fun m _ => ?_) fun _ he => .inl (h.happened ▸ he)
      · by_cases hmn : m = n
        · -- the new hub
          subst hmn
          exact .inr ⟨h.issued, h.parts⟩
        · obtain ⟨hold, hsame⟩ := h.others hmn
          rw [hsame]
          exact .inl ⟨hold ▸ hm, rfl, rfl⟩
      · unfold World.registry
        rw [h.registries]
  | @change n hn op =>
      obtain ⟨tallies, hchanged⟩ := w.changed_cases n op
      rw [hchanged]
      exact hw.operate (hw.hub n hn).registry op tallies
  | @clear n hn hclears =>
      obtain ⟨tallies, hcleared⟩ := w.cleared_cases n
      rw [hcleared]
      exact hw.operate (hw.hub n hn).registry .clear tallies
  | @handle n hn handler? =>
      exact hw.setHub { w.hub n with handler? := handler? } hn rfl rfl w.tallies
  | @switch n on hn hturns =>
      obtain ⟨tallies, hswitched⟩ := w.switched_cases n on
      rw [hswitched]
      exact hw.setHub { w.hub n with metrics := on } hn rfl rfl tallies
  | publish hn depth name =>
      refine hw.entered fun e he => ?_
      cases he
      exact hn
  | enterCall hn hpublished depth payload actor context =>
      refine hw.entered fun e he => ?_
      cases he
      exact hn

end EventHub
