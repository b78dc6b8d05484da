import EventHub.Proofs.Session.Steps

/-! # Sound worlds

Registries, counters and hubs get numbers that were not issued before. `World.Sound` says so: whatever a
world refers to was issued earlier, and what was counted happened on hubs that exist. It is the invariant
that keeps a new hub apart from all that came before it.

Most of what the library does leaves hubs, names, registries and counts alone. `World.Alike` is the frame
of all that: it is reflexive and transitive, and `World.Alike.of_does` derives it from the kinds of the
effects.
-/

namespace EventHub

open Run

/-! ## What happened on a hub -/

/-- What an occurrence counts as: the hub, what is counted, and the event name. -/
def Occurrence.counted? : Occurrence → Option (Nat × Counted × String)
  | .published _ n name => some (n, .publish, name)
  | .called _ n event .. => some (n, .call, event.name)
  | .failed _ n event .. => some (n, .failure, event.name)
  | _ => none

namespace World

/-- The publishes, calls and failures so far, from first to last, each with its hub. -/
def happened (w : World) : List (Nat × Counted × String) :=
  w.journal.reverse.filterMap Occurrence.counted?

/-- The publishes, calls and failures on a hub so far, from first to last. -/
def eventsOf (w : World) (n : Nat) : List (Counted × String) :=
  w.happened.filterMap fun e => if e.1 = n then some e.2 else none

/-- The event names of the publishes, the calls or the failures on a hub so far. -/
def namesOf (w : World) (n : Nat) (what : Counted) : List String :=
  (w.eventsOf n).filterMap fun e => if e.1 = what then some e.2 else none

/-- Whether there is a hub with a number. -/
def hasHub (w : World) (n : Nat) : Bool := (w.hubs.find? n).isSome

/-- An occurrence that counts is the last thing that happened. -/
theorem happened_note (w : World) (o : Occurrence) :
    (w.note o).happened = w.happened ++ o.counted?.toList := by
  unfold happened note
  rw [List.reverse_cons, List.filterMap_append]
  cases ho : o.counted? <;> simp [ho]

theorem happened_congr {w v : World} (h : v.journal = w.journal) : v.happened = w.happened := by
  unfold happened
  rw [h]

theorem eventsOf_congr {w v : World} (h : v.happened = w.happened) (n : Nat) :
    v.eventsOf n = w.eventsOf n := by
  unfold eventsOf
  rw [h]

/-- An occurrence that counts is the last one on its hub. -/
theorem eventsOf_note (w : World) {o : Occurrence} {m : Nat} {what : Counted} {name : String}
    (ho : o.counted? = some (m, what, name)) (n : Nat) :
    (w.note o).eventsOf n = if m = n then w.eventsOf n ++ [(what, name)] else w.eventsOf n := by
  unfold eventsOf
  rw [happened_note, ho, List.filterMap_append]
  by_cases hm : m = n <;> simp [hm]

theorem hub_congr {w v : World} (h : v.hubs = w.hubs) (n : Nat) : v.hub n = w.hub n := by
  unfold hub
  rw [h]

theorem hasHub_congr {w v : World} (h : v.hubs = w.hubs) (n : Nat) : v.hasHub n = w.hasHub n := by
  unfold hasHub
  rw [h]

/-- A hub that is added exists, and the others do as before. -/
theorem hasHub_insert {w v : World} {m : Nat} {h : Hub} (hv : v.hubs = w.hubs.insert m h) (n : Nat) :
    v.hasHub n = true ↔ n = m ∨ w.hasHub n = true := by
  unfold hasHub
  rw [hv, OrderedMap.find?_insert]
  by_cases hn : n = m <;> simp [hn]

/-- Replacing a hub that exists makes no new one. -/
theorem hasHub_insert_eq {w v : World} {m n : Nat} {h : Hub} (hv : v.hubs = w.hubs.insert m h)
    (hn : n = m → w.hasHub m = true) : v.hasHub n = w.hasHub n := by
  refine Bool.eq_iff_iff.mpr ((hasHub_insert hv n).trans ⟨?_, .inr⟩)
  rintro (rfl | hold)
  · exact hn rfl
  · exact hold

/-- A hub that is added has its number. -/
theorem hub_insert {w v : World} {m : Nat} {h : Hub} (hv : v.hubs = w.hubs.insert m h) (n : Nat) :
    v.hub n = if n = m then h else w.hub n := by
  unfold hub
  rw [hv, OrderedMap.find?_insert]
  split <;> simp

end World

/-! ## The frame -/

/-- A later world in which hubs, names, registries, counts and the counters issued before are as they
were. -/
structure World.Alike (w v : World) : Prop where
  issued : w.issued ≤ v.issued
  hubs : v.hubs = w.hubs
  kept : v.kept = w.kept
  registries : v.registries = w.registries
  happened : v.happened = w.happened
  tally : ∀ n < w.issued, v.tally n = w.tally n

namespace World.Alike

variable {w v u : World}

theorem refl (w : World) : w.Alike w := ⟨Nat.le_refl _, rfl, rfl, rfl, rfl, fun _ _ => rfl⟩

/-- Worlds that are alike one after the other. -/
theorem trans (h : w.Alike v) (h' : v.Alike u) : w.Alike u where
  issued := h.issued.trans h'.issued
  hubs := h'.hubs.trans h.hubs
  kept := h'.kept.trans h.kept
  registries := h'.registries.trans h.registries
  happened := h'.happened.trans h.happened
  tally := fun n hn => (h'.tally n (hn.trans_le h.issued)).trans (h.tally n hn)

theorem hub (h : w.Alike v) (n : Nat) : v.hub n = w.hub n := World.hub_congr h.hubs n

theorem hasHub (h : w.Alike v) (n : Nat) : v.hasHub n = w.hasHub n := World.hasHub_congr h.hubs n

theorem registry (h : w.Alike v) (n : Nat) : v.registry n = w.registry n := by
  unfold World.registry
  rw [h.registries]

theorem eventsOf (h : w.Alike v) (n : Nat) : v.eventsOf n = w.eventsOf n :=
  World.eventsOf_congr h.happened n

/-- A change of other fields of the world. -/
theorem of_fields (hissued : w.issued ≤ v.issued) (hhubs : v.hubs = w.hubs) (hkept : v.kept = w.kept)
    (hregistries : v.registries = w.registries) (htallies : v.tallies = w.tallies)
    (hjournal : v.journal = w.journal) : w.Alike v where
  issued := hissued
  hubs := hhubs
  kept := hkept
  registries := hregistries
  happened := happened_congr hjournal
  tally := fun n _ => by rw [World.tally, htallies, World.tally]

/-- An occurrence that does not count. -/
theorem note {o : Occurrence} (ho : o.counted? = none) (w : World) : w.Alike (w.note o) :=
  { refl w with
    happened := by rw [happened_note, ho, Option.toList_none, List.append_nil] }

/-- Logging touches none of it. -/
theorem afterLog (w : World) (r : Log.Record) : w.Alike (w.afterLog r) := by
  unfold World.afterLog
  split
  · exact refl w
  · refine (note (o := .logged (r.stamped w.context)) rfl w).trans ?_
    unfold World.logged
    cases w.sink? with
    | none => exact refl _
    | some s => exact of_fields (Nat.le_refl _) rfl rfl rfl rfl rfl

/-- The kinds of the effects that leave hubs, names, registries and counters alone. -/
abbrev quietKinds : List Effect.Kind :=
  [.answered, .ran, .warned, .logged, .issue, .countRun, .context, .correlation, .settle, .machine,
    .sink, .level]

/-- An effect of these kinds touches none of it. -/
theorem of_effect {e : Effect} (h : e.kind ∈ quietKinds) (w : World) : w.Alike (e.apply w) := by
  cases e with
  | note o =>
      refine note ?_ w
      cases o <;> simp_all [Occurrence.counted?]
  | issue => exact of_fields (Nat.le_succ _) rfl rfl rfl rfl rfl
  | countRun serial => exact of_fields (Nat.le_refl _) rfl rfl rfl rfl rfl
  | context c => exact of_fields (Nat.le_refl _) rfl rfl rfl rfl rfl
  | correlation => exact of_fields (Nat.le_refl _) rfl rfl rfl rfl rfl
  | settle m c => exact of_fields (Nat.le_refl _) rfl rfl rfl rfl rfl
  | machine m => exact of_fields (Nat.le_refl _) rfl rfl rfl rfl rfl
  | sink s? => exact of_fields (Nat.le_refl _) rfl rfl rfl rfl rfl
  | level l => exact of_fields (Nat.le_refl _) rfl rfl rfl rfl rfl
  | _ => simp at h

/-- By induction on the effects of an action. -/
theorem of_performs {α : Type} {act : Run α} {P : Effect → Prop} (h : Performs P act w)
    (hP : ∀ e, P e → e.kind ∈ quietKinds) : w.Alike (outcome act w).2 := by
  obtain ⟨es, hes, hw⟩ := h
  rw [hw]
  clear hw
  induction es generalizing w with
  | nil => exact refl w
  | cons e es ih =>
      have hfirst : w.Alike (e.apply w) := of_effect (hP e (hes e (by simp))) w
      exact hfirst.trans (ih fun f hf => hes f (List.mem_cons_of_mem e hf))

theorem of_does {α : Type} {act : Run α} {ks : List Effect.Kind} (h : Does ks act w)
    (hks : ks.all quietKinds.contains = true) : w.Alike (outcome act w).2 :=
  of_performs (h.widen hks) fun _ he => he

/-- Likewise, given how the action ends. -/
theorem of_outcome {α : Type} {act : Run α} {ks : List Effect.Kind} {r : Except Stop α}
    (h : Does ks act w) (hks : ks.all quietKinds.contains = true) (hv : outcome act w = (r, v)) :
    w.Alike v := by
  have halike := of_does h hks
  rwa [hv] at halike

end World.Alike

/-! ## Growth -/

/-- A later world: numbers stay issued, hubs stay, and what happened stays. -/
structure World.Later (w v : World) : Prop where
  issued : w.issued ≤ v.issued
  hubs : ∀ n, w.hasHub n = true → v.hasHub n = true
  happened : w.happened <+: v.happened

namespace World.Later

variable {w v u : World}

theorem refl (w : World) : w.Later w := ⟨Nat.le_refl _, fun _ h => h, List.prefix_refl _⟩

theorem trans (h : w.Later v) (h' : v.Later u) : w.Later u where
  issued := h.issued.trans h'.issued
  hubs := fun n hn => h'.hubs n (h.hubs n hn)
  happened := h.happened.trans h'.happened

/-- Hubs, and what happened, are as they were. -/
theorem of_same (hissued : w.issued ≤ v.issued) (hhubs : v.hubs = w.hubs)
    (hhappened : v.happened = w.happened) : w.Later v where
  issued := hissued
  hubs := fun n hn => (hasHub_congr hhubs n).trans hn
  happened := hhappened ▸ List.prefix_refl _

theorem of_alike (h : w.Alike v) : w.Later v := of_same h.issued h.hubs h.happened

theorem eventsOf (h : w.Later v) {n : Nat} {e : Counted × String} (he : e ∈ w.eventsOf n) :
    e ∈ v.eventsOf n := by
  obtain ⟨x, hx, hxe⟩ := List.mem_filterMap.mp he
  exact List.mem_filterMap.mpr ⟨x, h.happened.subset hx, hxe⟩

end World.Later

/-! ## Soundness -/

/-- What is kept refers to a hub that exists, or to a number that was issued. -/
def Kept.Known (w : World) : Kept → Prop
  | .hub n => w.hasHub n = true
  | .handle n _ => w.hasHub n = true
  | .registry n => n < w.issued
  | .tally n => n < w.issued
  | .bridge b => w.hasHub b.hub = true
  | .entry _ => True
  | .scope _ => True

/-- What is known stays so. -/
theorem Kept.Known.later {w v : World} {k : Kept} (h : k.Known w) (hv : w.Later v) : k.Known v := by
  cases k with
  | hub n => exact hv.hubs n h
  | handle n ref => exact hv.hubs n h
  | registry n => exact Nat.lt_of_lt_of_le h hv.issued
  | tally n => exact Nat.lt_of_lt_of_le h hv.issued
  | bridge b => exact hv.hubs b.hub h
  | entry ref => trivial
  | scope sc => trivial

/-- The numbers of a hub's registry and counters are issued. -/
structure Hub.Issued (h : Hub) (w : World) : Prop where
  registry : h.registry < w.issued
  tally : h.tally < w.issued

/-- Whatever a world refers to was issued earlier, registries not yet issued are empty, and what happened
happened on hubs that exist. -/
structure World.Sound (w : World) : Prop where
  number : ∀ n, w.hasHub n = true → n < w.issued
  hub : ∀ n, w.hasHub n = true → (w.hub n).Issued w
  kept : ∀ name k, w.kept.find? name = some k → k.Known w
  blank : ∀ n, w.issued ≤ n → w.registry n = { id := n }
  happened : ∀ e ∈ w.happened, w.hasHub e.1 = true

namespace World.Sound

variable {w v : World}

/-- A step from a sound world to a later one: each hub is an old one with its registry and counters or new
with numbers that are issued, what is kept was kept or is known, registries not yet issued are left alone,
and what happened is old or happened on a hub. -/
theorem step (hw : w.Sound) (hv : w.Later v)
    (hhub : ∀ n, v.hasHub n = true →
      (w.hasHub n = true ∧ (v.hub n).registry = (w.hub n).registry ∧ (v.hub n).tally = (w.hub n).tally) ∨
        (n < v.issued ∧ (v.hub n).Issued v))
    (hkept : ∀ name k, v.kept.find? name = some k → w.kept.find? name = some k ∨ k.Known v)
    (hblank : ∀ n, v.issued ≤ n → v.registry n = w.registry n)
    (hhappened : ∀ e ∈ v.happened, e ∈ w.happened ∨ v.hasHub e.1 = true) : v.Sound where
  number := fun n hn => by
    rcases hhub n hn with ⟨hold, -⟩ | ⟨hnew, -⟩
    · exact (hw.number n hold).trans_le hv.issued
    · exact hnew
  hub := fun n hn => by
    rcases hhub n hn with ⟨hold, hregistry, htally⟩ | ⟨-, hnew⟩
    · have hissued := hw.hub n hold
      refine ⟨?_, ?_⟩
      · exact hregistry ▸ hissued.registry.trans_le hv.issued
      · exact htally ▸ hissued.tally.trans_le hv.issued
    · exact hnew
  kept := fun name k hk => by
    rcases hkept name k hk with hold | hnew
    · exact (hw.kept name k hold).later hv
    · exact hnew
  blank := fun n hn => (hblank n hn).trans (hw.blank n (hv.issued.trans hn))
  happened := fun e he => by
    rcases hhappened e he with hold | hnew
    · exact hv.hubs _ (hw.happened e hold)
    · exact hnew

/-- Hubs, names and what happened are as they were. -/
theorem of_same (hw : w.Sound) (hissued : w.issued ≤ v.issued) (hhubs : v.hubs = w.hubs)
    (hkept : v.kept = w.kept) (hhappened : v.happened = w.happened)
    (hblank : ∀ n, v.issued ≤ n → v.registry n = w.registry n) : v.Sound := by
  have hlater : w.Later v := .of_same hissued hhubs hhappened
  refine hw.step hlater (fun n hn => .inl ⟨?_, ?_, ?_⟩) (fun name k hk => .inl ?_) hblank
    fun e he => .inl ?_
  · exact (hasHub_congr hhubs n).symm.trans hn
  · rw [hub_congr hhubs]
  · rw [hub_congr hhubs]
  · exact hkept ▸ hk
  · exact hhappened ▸ he

theorem alike (hw : w.Sound) (h : w.Alike v) : v.Sound :=
  hw.of_same h.issued h.hubs h.kept h.happened fun n _ => h.registry n

/-- Nothing happened on a hub that does not exist. -/
theorem eventsOf_eq_nil (hw : w.Sound) {n : Nat} (hn : w.hasHub n = false) : w.eventsOf n = [] := by
  unfold World.eventsOf
  refine List.filterMap_eq_nil_iff.mpr fun e he => ?_
  have hhub := hw.happened e he
  rw [if_neg]
  rintro rfl
  exact Bool.false_ne_true (hn.symm.trans hhub)

end World.Sound

/-- A world in which nothing was set up, kept or published. -/
structure World.Fresh (w : World) : Prop where
  hubs : w.hubs = []
  kept : w.kept = []
  registries : w.registries = []
  journal : w.journal = []

namespace World.Fresh

variable {w : World}

theorem hasHub (hw : w.Fresh) (n : Nat) : w.hasHub n = false := by
  unfold World.hasHub
  rw [hw.hubs]
  rfl

theorem happened (hw : w.Fresh) : w.happened = [] := by
  unfold World.happened
  rw [hw.journal]
  rfl

/-- A fresh world is sound. -/
theorem sound (hw : w.Fresh) : w.Sound where
  number := fun n hn => absurd (hw.hasHub n) (by simp [hn])
  hub := fun n hn => absurd (hw.hasHub n) (by simp [hn])
  kept := fun name k hk => by
    rw [hw.kept] at hk
    cases hk
  blank := fun n _ => by
    unfold World.registry
    rw [hw.registries]
    rfl
  happened := fun e he => by simp [hw.happened] at he

end World.Fresh

end EventHub
