import EventHub.Proofs.Registry.Determined
import EventHub.Proofs.Session.Invariants
import EventHub.Proofs.Session.Parts

/-! # Handles and their entries

A handle is bound to the entry that listening gave. Attaching by a handle looks for that very entry, but
unlistening by a handle looks for the pattern key of the entry. The two agree as long as the entry is in the
registry, since the live entries of a registry have different keys in every world of a session
(`Session.registries_follow`). After a clearing, another entry may have the key (`stale_handle_unlistens`).

Main statement: `unlisten_by_handle`.
-/

namespace EventHub

open Run

/-! ## Registries during sessions -/

/-- Registries go on with their histories. -/
def World.Continues (w v : World) : Prop :=
  ∀ i h, Registry.Follows i (w.registry i) h → ∃ h', Registry.Follows i (v.registry i) (h ++ h')

namespace World.Continues

variable {w v u : World}

theorem of_same (h : ∀ i, v.registry i = w.registry i) : w.Continues v := fun i history hw =>
  ⟨[], by rw [h i, List.append_nil]; exact hw⟩

theorem of_registries (h : v.registries = w.registries) : w.Continues v :=
  .of_same fun i => by unfold World.registry; rw [h]

/-- One history after the other. -/
theorem trans (h : w.Continues v) (h' : v.Continues u) : w.Continues u := by
  intro i history hw
  obtain ⟨first, hv⟩ := h i history hw
  obtain ⟨second, hu⟩ := h' i _ hv
  exact ⟨first ++ second, by rwa [← List.append_assoc]⟩

/-- Going on with histories is transitive, and holds where registries are left alone. -/
theorem frames : World.Frames World.Continues where
  alike := fun _ h => .of_registries h.registries
  trans := trans

theorem entered (w : World) (o : Occurrence) : w.Continues (w.entered o) := .of_same (w.registry_entered o)

end World.Continues

/-- A call on a registry is the next one in its history. -/
theorem Step.Move.continues {s : Step} {w v : World} (h : s.Move w v) : w.Continues v := by
  intro i history hw
  rcases h.registry_cases i with hsame | ⟨op, hcalled⟩
  · exact ⟨[], by rwa [hsame, List.append_nil]⟩
  · exact ⟨_, hcalled ▸ hw.carryOut op⟩

theorem Step.respects_continues (s : Step) : s.Respects World.Continues where
  move := fun _ h => h.continues
  failed := fun {p x f} _ _ _ hcalled _ =>
    hcalled.rel.trans (.entered _ (.failed p.depth p.hub x.event x.actor f))

/-- **Registries follow their histories** whenever a step of a session begins or ends. -/
theorem Session.registries_follow {w : World} (hw : w.Fresh) (cs : List (Command Behaviour)) :
    ∀ s ∈ Session.steps w cs, ∀ v, v = s.world ∨ v = s.left →
      ∀ i, ∃ h, Registry.Follows i (v.registry i) h := by
  intro s hs v hv i
  -- the induction over the session begins with the empty history
  have hlead : w.Continues v :=
    (Session.leads World.Continues.frames cs hw.sound (fun s _ => s.respects_continues) s hs v hv).rel
  have hfresh : Registry.Follows i (w.registry i) [] := by
    unfold World.registry
    rw [hw.registries]
    exact Registry.follows_empty i
  obtain ⟨h, hh⟩ := hlead i [] hfresh
  exact ⟨h, hh⟩

/-! ## Unlistening -/

namespace Registry

variable {α : Type} {i : Nat} {r : Registry α} {h : List (Call α)} {e : Entry α} {ref : EntryRef}

theorem Follows.registry_of_live (hr : Follows i r h) (he : e ∈ r.live) : e.ref.registry = i := by
  obtain ⟨x, hx, hxe⟩ := List.mem_map.mp ((hr.mem_refs e.ref).mp ⟨e, he, rfl⟩)
  have hanswered : e.ref ∈ answered h := hxe ▸ List.mem_map_of_mem (activations_subset h hx)
  exact (hr.issued _ hanswered).1

/-- Live entries with the same key have the same reference. -/
theorem Follows.ref_of_key (hr : Follows i r h) {e' : Entry α} (he : e ∈ r.live) (he' : e' ∈ r.live)
    (hkey : e'.matcher.key = e.matcher.key) : e'.ref = e.ref := by
  have hfirst := hr.shows.first e he
  have hfirst' := hr.shows.first e' he'
  rw [hkey, hfirst] at hfirst'
  exact (Prod.mk.inj (Option.some.inj hfirst')).2.symm

theorem mem_of_live? (he : r.live? ref = some e) : e ∈ r.live ∧ e.ref = ref :=
  ⟨List.mem_of_find?_eq_some he, by simpa using List.find?_some he⟩

/-- The entry with the reference of a live one is the live one. -/
theorem entryAt?_of_live? (he : r.live? ref = some e) : r.entryAt? ref = some e := by
  unfold entryAt?
  rw [List.find?_append, show r.live.find? (·.ref = ref) = some e from he]
  rfl

/-- A live entry is found in its own registry. -/
theorem Follows.find_live {w : World} {history : List (Call Actor)} (hr : Follows i (w.registry i) history)
    {e : Entry Actor} (he : (w.registry i).live? ref = some e) : w.entryAt? ref = some e := by
  obtain ⟨hmem, rfl⟩ := mem_of_live? he
  unfold World.entryAt?
  rw [hr.registry_of_live hmem]
  exact entryAt?_of_live? he

/-- Deactivating changes the live entry of the key, and no other one. -/
theorem entryAt?_deactivate (r : Registry α) (m : Matcher) (ref : EntryRef) :
    (r.deactivate m).1.entryAt? ref = (r.entryAt? ref).map fun e =>
      if (r.live? ref).isSome ∧ e.matcher.key = m.key then { e with active := false } else e := by
  -- the retired entries stay, and of the live ones those of the key are switched off
  have hlive : (r.deactivate m).1.live = r.live.map (fun e =>
      if e.matcher.key = m.key then { e with active := false } else e) ∧
      (r.deactivate m).1.retired = r.retired := by
    unfold deactivate
    cases hkey : r.byKey? m.key with
    | some e => exact ⟨rfl, rfl⟩
    | none =>
        -- no live entry has the key
        refine ⟨?_, rfl⟩
        conv_lhs => rw [← List.map_id' r.live]
        refine List.map_congr_left fun e he => ?_
        rw [if_neg (by simpa using List.find?_eq_none.mp hkey e he)]
  have hfind : (r.deactivate m).1.live? ref = (r.live? ref).map fun e =>
      if e.matcher.key = m.key then { e with active := false } else e := by
    unfold live?
    rw [hlive.1, List.find?_map]
    congr 2
    funext e
    simp only [Function.comp_apply]
    split <;> rfl
  unfold entryAt?
  rw [List.find?_append, List.find?_append, hlive.2, show List.find? _ _ = _ from hfind]
  change _ = Option.map _ (Option.or (r.live? ref) _)
  cases r.live? ref with
  | some e => simp
  | none => simp

end Registry

/-- The handle by which a step unlistens, with its hub. -/
def Step.unlistened? (s : Step) : Option (Nat × EntryRef) :=
  match s.command with
  | .hub (.unlistenHandle name) => s.world.handleNamed? name
  | _ => none

/-- Unlistening deactivates the pattern in the registry of the hub, and changes no other registry. -/
theorem Hub.registry_unlisten (n : Nat) (m : Matcher) (w : World) (i : Nat) :
    (outcome (unlisten n (.matcher m)) w).2.registry i =
      if i = (w.hub n).registry then ((w.registry i).deactivate m).1 else w.registry i := by
  have hcompile : outcome (compile (.matcher m)) w = (.ok m, w) := rfl
  unfold unlisten
  rw [outcome_bind_ok hcompile, outcome_get_bind]
  cases hkey : (w.registry (w.hub n).registry).byKey? m.key with
  | none =>
      -- the key has no entry
      have hdeactivate : (w.registry (w.hub n).registry).deactivate m =
          (w.registry (w.hub n).registry, none) := by simp [Registry.deactivate, hkey]
      simp only [hdeactivate]
      refine (World.Alike.registry (.of_performs (.bind ((hubLog_does ..).widen rfl) fun _ _ _ => ?_)
        fun _ h => h) i).trans ?_
      · split
        · exact (warn_does _).widen rfl
        · exact .pure _
      · split
        · rename_i hi
          rw [hi, hdeactivate]
        · rfl
  | some e =>
      obtain ⟨r, hr⟩ : ∃ r, (w.registry (w.hub n).registry).deactivate m = (r, some e.ref) :=
        ⟨_, by unfold Registry.deactivate; rw [hkey]⟩
      simp only [hr]
      rw [outcome_set_bind, outcome_bind_ok (outcome_noteSizes ..)]
      refine (World.Alike.registry (.of_does (hubLog_does ..) rfl) i).trans ?_
      obtain ⟨tallies, hsized⟩ := (w.setRegistry (w.hub n).registry r).sized_cases n
      rw [hsized]
      refine (w.registry_setRegistry (w.hub n).registry i r).trans ?_
      split
      · rename_i hi
        rw [hi, hr]
      · rfl

/-- An entry is looked up in the world. -/
theorem Hub.outcome_entry (ref : EntryRef) (w : World) :
    outcome (entry ref) w = ((w.entryAt? ref).elim (.error (.fault (unknownName ""))) .ok, w) := by
  unfold entry
  rw [outcome_get_bind]
  cases w.entryAt? ref <;> rfl

namespace Step

variable {s : Step} {n : Nat} {ref : EntryRef}

/-- A step that unlistens by a handle deactivates the pattern of the handle's entry. -/
theorem registry_unlistened (h : s.unlistened? = some (n, ref)) (i : Nat) :
    s.left.registry i =
      if i = (s.world.hub n).registry then
        (s.world.entryAt? ref).elim (s.world.registry i) fun e =>
          ((s.world.registry i).deactivate e.matcher).1
      else s.world.registry i := by
  unfold unlistened? at h
  split at h
  · rename_i name hcommand
    have hleft : s.left = (outcome (do
        let e ← Hub.entry ref
        Hub.unlisten n (.matcher e.matcher)
        return Reply.nothing) s.world).2 := by
      unfold left run
      rw [hcommand]
      have hnamed := Run.outcome_handleNamed name s.world
      rw [h] at hnamed
      exact congrArg Prod.snd (outcome_bind_ok hnamed _)
    rw [hleft]
    have hentry := Hub.outcome_entry ref s.world
    -- the handle has no entry, and nothing is done
    cases hbound : s.world.entryAt? ref with
    | none =>
        rw [hbound] at hentry
        rw [outcome_bind_error hentry]
        exact (ite_self _).symm
    | some e =>
        rw [hbound] at hentry
        rw [outcome_bind_ok hentry, left_bind_pure]
        exact Hub.registry_unlisten n e.matcher s.world i
  · cases h

/-- Unlistening by a handle switches off the live entry with the pattern key of the handle's entry. -/
theorem entryAt?_unlistened (h : s.unlistened? = some (n, ref)) {history : List (Registry.Call Actor)}
    (hfollows : Registry.Follows (s.world.hub n).registry (s.world.registry (s.world.hub n).registry) history)
    (other : EntryRef) :
    s.left.entryAt? other = (s.world.entryAt? other).map fun e =>
      if ((s.world.registry (s.world.hub n).registry).live? other).isSome ∧
          (s.world.entryAt? ref).any (e.matcher.key = ·.matcher.key)
        then { e with active := false } else e := by
  have hregistry := registry_unlistened h other.registry
  unfold World.entryAt? at hregistry ⊢
  rw [hregistry]
  by_cases hother : other.registry = (s.world.hub n).registry
  · rw [if_pos hother]
    cases (s.world.registry ref.registry).entryAt? ref with
    | none => simp
    | some bound => simp [Registry.entryAt?_deactivate, hother]
  · -- the entry is in another registry
    have hlive : (s.world.registry (s.world.hub n).registry).live? other = none := by
      rw [Option.eq_none_iff_forall_ne_some]
      intro e he
      obtain ⟨hmem, href⟩ := Registry.mem_of_live? he
      exact hother (href ▸ hfollows.registry_of_live hmem)
    rw [if_neg hother]
    simp [hlive]

end Step

/-- **Unlistening by a handle switches off the entry of the handle**, and leaves all other entries as they
are, if the entry of the handle is still in the registry of the hub. This is the condition under which the
handle attaches to the entry. If the registry was cleared in between, the live entry with the same pattern
key is switched off instead, if there is one; entries of other patterns, retired entries and entries of
other registries never change. -/
theorem unlisten_by_handle {w : World} (hw : w.Fresh) (cs : List (Command Behaviour)) :
    ∀ s ∈ Session.steps w cs, ∀ n ref, s.unlistened? = some (n, ref) →
      let r := s.world.registry (s.world.hub n).registry
      (∀ other, s.left.entryAt? other = (s.world.entryAt? other).map fun e =>
        if (r.live? other).isSome ∧ (s.world.entryAt? ref).any (e.matcher.key = ·.matcher.key)
          then { e with active := false } else e) ∧
      ((r.live? ref).isSome → ∀ other, s.left.entryAt? other = (s.world.entryAt? other).map fun e =>
        if other = ref then { e with active := false } else e) := by
  intro s hs n ref h
  obtain ⟨history, hfollows⟩ :=
    Session.registries_follow hw cs s hs s.world (.inl rfl) (s.world.hub n).registry
  have hentries := Step.entryAt?_unlistened h hfollows
  refine ⟨hentries, fun hlive other => ?_⟩
  obtain ⟨bound, hbound⟩ := Option.isSome_iff_exists.mp hlive
  have hfind := hfollows.find_live hbound
  rw [hentries other, hfind]
  cases hentry : s.world.entryAt? other with
  | none => rfl
  | some e =>
      rw [Option.map_some, Option.map_some]
      congr 1
      refine if_congr ⟨?_, ?_⟩ rfl rfl
      · rintro ⟨hother, hkey⟩
        -- the entry is live and has the key of the handle's entry
        obtain ⟨e', he'⟩ := Option.isSome_iff_exists.mp hother
        obtain rfl : e' = e := Option.some.inj ((hfollows.find_live he').symm.trans hentry)
        obtain ⟨hmem, rfl⟩ := Registry.mem_of_live? he'
        obtain ⟨hown, rfl⟩ := Registry.mem_of_live? hbound
        exact hfollows.ref_of_key hown hmem (by simpa using hkey)
      · rintro rfl
        obtain rfl : bound = e := Option.some.inj (hfind.symm.trans hentry)
        exact ⟨hlive, by simp⟩

/-- A session with handles of two patterns, one of which is used to unlisten. -/
def Sample.twoPatterns : List (Command Behaviour) :=
  let idle := actor "idle" fun _ => .finish .none
  [create true, listen "a" "first" idle, listen "b" "second" idle, .hub (.unlistenHandle "first")]

/-- Of two handles, only the entry of the one that is used is switched off. -/
theorem unlisten_by_handle_twoPatterns :
    ∃ s ∈ Session.steps (Sample.world 2) Sample.twoPatterns, ∃ n ref, s.unlistened? = some (n, ref) ∧
      ((s.world.registry (s.world.hub n).registry).live? ref).isSome ∧
      (s.world.entryAt? ref).map (·.active) = some true ∧
      (s.left.entryAt? ref).map (·.active) = some false ∧
      ∃ other, other ≠ ref ∧ s.world.handleNamed? "second" = some (n, other) ∧
        (s.left.entryAt? other).map (·.active) = some true := by
  obtain ⟨s, hs, x, hx, y, hy, hlive, hne, hfirst, hsecond⟩ :
      ∃ s ∈ Session.steps (Sample.world 2) Sample.twoPatterns, ∃ x ∈ s.unlistened?,
        ∃ y ∈ s.world.handleNamed? "second",
          ((s.world.registry (s.world.hub x.1).registry).live? x.2).isSome ∧ y.2 ≠ x.2 ∧
            (s.world.entryAt? x.2).map (·.active) = some true ∧ y.1 = x.1 ∧
              (s.world.entryAt? y.2).map (·.active) = some true := by decide +kernel
  obtain ⟨n, ref⟩ := x
  obtain ⟨m, other⟩ := y
  obtain ⟨rfl, hsecond⟩ := hsecond
  have hchanged := (unlisten_by_handle ⟨rfl, rfl, rfl, rfl⟩ Sample.twoPatterns s hs _ ref hx).2 hlive
  refine ⟨s, hs, _, ref, hx, hlive, hfirst, ?_, other, hne, hy, ?_⟩
  · obtain ⟨e, he, -⟩ := Option.map_eq_some_iff.mp hfirst
    rw [hchanged ref, he]
    simp
  · rw [hchanged other]
    simpa [hne] using hsecond

/-- A session in which a handle is used after a clearing, when its pattern has a new entry. -/
def Sample.relistened : List (Command Behaviour) :=
  let idle := actor "idle" fun _ => .finish .none
  [create true, listen "a" "first" idle, .hub (.clear "hub"), listen "a" "second" idle,
    .hub (.unlistenHandle "first"), publish "a"]

/-- Unlistening by a handle from before a clearing switches off the new entry of the pattern, and a later
publish calls nobody. -/
theorem stale_handle_unlistens :
    (∃ s ∈ Session.steps (Sample.world 2) Sample.relistened, ∃ x ∈ s.unlistened?,
      ∃ y ∈ s.world.handleNamed? "second", y.2 ≠ x.2 ∧
        (s.world.entryAt? y.2).map (·.active) = some true ∧
          (s.left.entryAt? y.2).map (·.active) = some false) ∧
      ∃ s ∈ Session.steps (Sample.world 2) Sample.relistened,
        s.left.namesOf 2 .publish = ["a"] ∧ s.left.namesOf 2 .call = [] := by
  decide +kernel

end EventHub
