import EventHub.Proofs.Session.Moves

/-! # Parts of a hub's own

A hub has two parts: a registry and counters. A hub that is set up without a given part gets a new one.
Nobody else ever gets hold of it: no other hub has it, and it is kept under no name (`World.Owns`). Both
parts go the same way, so that ownership is followed once, for any part.

Main statement: `Step.Move.owns`.
-/

namespace EventHub

/-- A part of a hub. -/
inductive Part where
  | registry
  | tally

namespace Part

/-- The number of the part that a hub has. -/
def number : Part → Hub → Nat
  | registry, h => h.registry
  | tally, h => h.tally

/-- What is kept under a name of a part. -/
def kept : Part → Nat → Kept
  | registry, n => .registry n
  | tally, n => .tally n

/-- The name of the part that a new hub is given. -/
def given? : Part → HubOptions Behaviour → Option String
  | registry, options => options.registryName?
  | tally, options => options.tallyName?

theorem known_kept {p : Part} {w : World} {n : Nat} : (p.kept n).Known w ↔ n < w.issued := by
  cases p <;> exact Iff.rfl

theorem isShared_kept (p : Part) (n : Nat) : (p.kept n).isShared = true := by
  cases p <;> rfl

end Part

theorem Hub.Issued.number {h : Hub} {w : World} (hh : h.Issued w) (p : Part) : p.number h < w.issued := by
  cases p with
  | registry => exact hh.registry
  | tally => exact hh.tally

namespace World

variable {w v : World} {p : Part} {n m : Nat}

/-- If a hub exists, its part is neither that of another hub nor kept under a name. -/
structure Owns (w : World) (p : Part) (n : Nat) : Prop where
  hub : ∀ m, w.hasHub n = true → w.hasHub m = true → m ≠ n → p.number (w.hub m) ≠ p.number (w.hub n)
  name : ∀ name, w.hasHub n = true → w.kept.find? name ≠ some (p.kept (p.number (w.hub n)))

/-- Occurrences do not change registries. -/
theorem registry_entered (w : World) (o : Occurrence) (i : Nat) : (w.entered o).registry i = w.registry i := by
  obtain ⟨tallies, hentered⟩ := w.entered_cases o
  rw [hentered]
  rfl

/-- The parts of a new hub are those that were given, or new. -/
theorem Founded.chosen {options : HubOptions Behaviour} (h : w.Founded v options n) (p : Part) :
    w.Chosen p.kept (p.given? options) (p.number (v.hub n)) := by
  cases p with
  | registry => exact h.registryChosen
  | tally => exact h.tallyChosen

namespace Owns

/-- Hubs keep their parts, and no part gets a name that a hub has. -/
theorem of_same (ho : w.Owns p n) (hhubs : v.hubs = w.hubs)
    (hkept : ∀ name, w.hasHub n = true → v.kept.find? name = some (p.kept (p.number (w.hub n))) →
      ∃ name, w.kept.find? name = some (p.kept (p.number (w.hub n)))) : v.Owns p n where
  hub := fun m hn hm hmn => by
    rw [hasHub_congr hhubs] at hn hm
    rw [hub_congr hhubs, hub_congr hhubs]
    exact ho.hub m hn hm hmn
  name := fun name hn hname => by
    rw [hasHub_congr hhubs] at hn
    rw [hub_congr hhubs] at hname
    obtain ⟨other, hother⟩ := hkept name hn hname
    exact ho.name other hn hother

theorem of_kept (ho : w.Owns p n) (hhubs : v.hubs = w.hubs) (hkept : v.kept = w.kept) : v.Owns p n :=
  ho.of_same hhubs fun name _ hname => ⟨name, hkept ▸ hname⟩

theorem entered (ho : w.Owns p n) (o : Occurrence) : (w.entered o).Owns p n := by
  obtain ⟨tallies, hentered⟩ := w.entered_cases o
  rw [hentered]
  exact ho.of_kept rfl rfl

/-- A name for something that is not the hub's part. -/
theorem of_insert (ho : w.Owns p n) (hhubs : v.hubs = w.hubs) {name : String} {k : Kept}
    (hkept : v.kept = w.kept.insert name k) (hk : w.hasHub n = true → k ≠ p.kept (p.number (w.hub n))) :
    v.Owns p n := by
  refine ho.of_same hhubs fun other hn hother => ?_
  rw [hkept, OrderedMap.find?_insert] at hother
  by_cases hname : other = name
  · rw [if_pos hname] at hother
    exact absurd (Option.some.inj hother) (hk hn)
  · rw [if_neg hname] at hother
    exact ⟨other, hother⟩

/-- A name for a part with a number that was not issued before. -/
theorem of_new (ho : w.Owns p n) (hw : w.Sound) (hhubs : v.hubs = w.hubs) {name : String} {q : Part}
    (hkept : v.kept = w.kept.insert name (q.kept w.issued)) : v.Owns p n := by
  refine ho.of_insert hhubs hkept fun hn heq => ?_
  -- the number of the hub's part was issued before
  have hknown : (q.kept w.issued).Known w := heq ▸ Part.known_kept.mpr ((hw.hub n hn).number p)
  exact Nat.lt_irrefl _ (Part.known_kept.mp hknown)

/-- A change of a hub that keeps its part. -/
theorem setHub (ho : w.Owns p n) {h : Hub} (hm : w.hasHub m = true)
    (hpart : p.number h = p.number (w.hub m)) (hhubs : v.hubs = w.hubs.insert m h)
    (hkept : v.kept = w.kept) : v.Owns p n := by
  -- the changed hub has the number of before
  have hnumber : ∀ k, p.number (v.hub k) = p.number (w.hub k) := by
    intro k
    rw [hub_insert hhubs]
    split
    · rename_i hk
      rw [hk, hpart]
    · rfl
  have hexists : ∀ k, v.hasHub k = w.hasHub k := fun k => hasHub_insert_eq hhubs fun _ => hm
  refine ⟨fun k hn hk hkn => ?_, fun name hn => ?_⟩
  · rw [hexists] at hn hk
    rw [hnumber, hnumber]
    exact ho.hub k hn hk hkn
  · rw [hexists] at hn
    rw [hnumber, hkept]
    exact ho.name name hn

/-- A new hub has a part that is not that of a hub with a part of its own. -/
theorem found (ho : w.Owns p n) (hw : w.Sound) {options : HubOptions Behaviour}
    (h : w.Founded v options m) (hown : m = n → p.given? options = none) : v.Owns p n := by
  have hold : ∀ k, k ≠ m → v.hasHub k = true → w.hasHub k = true ∧ v.hub k = w.hub k :=
    -- the other hubs are those of before
    fun k hk hv => ⟨(h.others hk).1 ▸ hv, (h.others hk).2⟩
  have hchosen := h.chosen p
  by_cases hmn : m = n
  · -- the part of the hub itself is new
    subst hmn
    have hnew : w.issued ≤ p.number (v.hub m) := by rwa [hown rfl] at hchosen
    refine ⟨fun k _ hk hkm => ?_, fun name _ hname => ?_⟩
    · obtain ⟨hkw, hkhub⟩ := hold k hkm hk
      rw [hkhub]
      exact Nat.ne_of_lt (((hw.hub k hkw).number p).trans_le hnew)
    · rw [h.kept] at hname
      exact absurd (Part.known_kept.mp (hw.kept name _ hname)) (Nat.not_lt_of_le hnew)
  · have hnm : n ≠ m := fun e => hmn e.symm
    refine ⟨fun k hn hk hkn => ?_, fun name hn => ?_⟩
    · obtain ⟨hnw, hnhub⟩ := hold n hnm hn
      rw [hnhub]
      by_cases hkm : k = m
      · -- the new hub has a new part, or one that has a name
        subst hkm
        unfold Chosen at hchosen
        intro heq
        split at hchosen
        · rw [heq] at hchosen
          exact ho.name _ hnw hchosen
        · rw [heq] at hchosen
          exact Nat.not_lt_of_le hchosen ((hw.hub n hnw).number p)
      · obtain ⟨hkw, hkhub⟩ := hold k hkm hk
        rw [hkhub]
        exact ho.hub k hnw hkw hkn
    · obtain ⟨hnw, hnhub⟩ := hold n hnm hn
      rw [hnhub, h.kept]
      exact ho.name name hnw

end Owns

theorem Fresh.owns (hw : w.Fresh) (p : Part) (n : Nat) : w.Owns p n where
  hub := fun m hn => absurd hn (by simp [hw.hasHub n])
  name := fun name hn => absurd hn (by simp [hw.hasHub n])

end World

/-! ## Moves -/

/-- A hub that exists has the same parts after every move. -/
theorem Step.Move.number_eq {s : Step} {w v : World} {n : Nat} (h : s.Move w v) (hw : w.Sound)
    (hn : w.hasHub n = true) (p : Part) : p.number (v.hub n) = p.number (w.hub n) := by
  -- a change of one hub that keeps its parts
  have hinsert : ∀ {m : Nat} (hub : Hub) {u : World}, u.hubs = w.hubs.insert m hub →
      p.number hub = p.number (w.hub m) → p.number (u.hub n) = p.number (w.hub n) := by
    intro m hub u hhubs hsame
    rw [World.hub_insert hhubs]
    split
    · rename_i hnm
      rw [hsame, hnm]
    · rfl
  cases h with
  | quiet h => rw [h.hub]
  | @found _ options m h hoptions hleft =>
      -- the hub that exists is not the new one
      have hnm : n ≠ m := by
        rintro rfl
        simp [h.isNew hw] at hn
      rw [(h.others hnm).2]
  | @change m hm op =>
      obtain ⟨tallies, hchanged⟩ := w.changed_cases m op
      rw [hchanged]
      rfl
  | @clear m hm hclears =>
      obtain ⟨tallies, hcleared⟩ := w.cleared_cases m
      rw [hcleared]
      rfl
  | @handle m hm handler? => exact hinsert { w.hub m with handler? := handler? } rfl (by cases p <;> rfl)
  | @switch m on hm hturns =>
      obtain ⟨tallies, hswitched⟩ := w.switched_cases m on
      rw [hswitched]
      exact hinsert { w.hub m with metrics := on } rfl (by cases p <;> rfl)
  | publish hm depth name =>
      obtain ⟨tallies, hentered⟩ := w.entered_cases _
      rw [hentered]
      rfl
  | enterCall hm hpublished depth payload actor context =>
      obtain ⟨tallies, hentered⟩ := w.entered_cases _
      rw [hentered]
      rfl
  | _ => rfl

/-- Only calls on registries change them. -/
theorem Step.Move.registry_cases {s : Step} {w v : World} (h : s.Move w v) (i : Nat) :
    v.registry i = w.registry i ∨ ∃ op, v.registry i = ((w.registry i).carryOut op).1 := by
  have hsame : ∀ {u : World}, u.registries = w.registries → u.registry i = w.registry i := fun h => by
    unfold World.registry
    rw [h]
  -- a call on one registry leaves the others
  have hcall : ∀ (n : Nat) (op : Registry.Operation Actor) (u : World),
      u.registries = ((Effect.registry n op).apply w).registries →
        u.registry i = w.registry i ∨ ∃ op, u.registry i = ((w.registry i).carryOut op).1 := by
    intro n op u hregistries
    have hregistry : u.registry i = if i = n then ((w.registry n).carryOut op).1 else w.registry i := by
      unfold World.registry at *
      rw [hregistries]
      exact w.registry_setRegistry n i _
    rw [hregistry]
    split
    · rename_i hin
      subst hin
      exact .inr ⟨op, rfl⟩
    · exact .inl rfl
  cases h with
  | quiet h => exact .inl (h.registry i)
  | call _ op => exact hcall _ op _ rfl
  | found h _ _ => exact .inl (hsame h.registries)
  | @change n _ op =>
      obtain ⟨tallies, hchanged⟩ := w.changed_cases n op
      rw [hchanged]
      exact hcall _ op _ rfl
  | @clear n _ _ =>
      obtain ⟨tallies, hcleared⟩ := w.cleared_cases n
      rw [hcleared]
      exact hcall _ .clear _ rfl
  | @switch n on _ _ =>
      obtain ⟨tallies, hswitched⟩ := w.switched_cases n on
      rw [hswitched]
      exact .inl (hsame rfl)
  | publish _ _ _ => exact .inl (World.registry_entered ..)
  | enterCall _ _ _ _ _ _ => exact .inl (World.registry_entered ..)
  | _ => exact .inl (hsame rfl)

/-- **Parts stay with the hub** that is set up without given ones. -/
theorem Step.Move.owns {s : Step} {w v : World} {p : Part} {n : Nat} (h : s.Move w v) (hw : w.Sound)
    (ho : w.Owns p n) (hown : ∀ options ∈ s.setsUp? n, p.given? options = none) : v.Owns p n := by
  cases h with
  | quiet h => exact ho.of_kept h.hubs h.kept
  | @keep name k hknown hshared =>
      refine ho.of_insert rfl rfl fun _ => ?_
      rintro rfl
      simp [Part.isShared_kept] at hshared
  | newRegistry name => exact ho.of_new (q := .registry) hw rfl rfl
  | newTally name t => exact ho.of_new (q := .tally) hw rfl rfl
  | call h op => exact ho.of_kept rfl rfl
  | count h t => exact ho.of_kept rfl rfl
  | @found _ options m h hoptions hleft => exact ho.found hw h fun hmn => hown options (hmn ▸ hoptions)
  | @change m hm op =>
      obtain ⟨tallies, hchanged⟩ := w.changed_cases m op
      rw [hchanged]
      exact ho.of_kept rfl rfl
  | @clear m hm hclears =>
      obtain ⟨tallies, hcleared⟩ := w.cleared_cases m
      rw [hcleared]
      exact ho.of_kept rfl rfl
  | @handle m hm handler? =>
      refine ho.setHub (h := { w.hub m with handler? := handler? }) hm ?_ rfl rfl
      cases p <;> rfl
  | @switch m on hm hturns =>
      obtain ⟨tallies, hswitched⟩ := w.switched_cases m on
      rw [hswitched]
      refine ho.setHub (h := { w.hub m with metrics := on }) hm ?_ rfl rfl
      cases p <;> rfl
  | publish hm depth name => exact ho.entered _
  | enterCall hm hpublished depth payload actor context => exact ho.entered _

end EventHub
