import EventHub.Hub.Registration
import EventHub.Proofs.Registry.History
import EventHub.Proofs.Run.Outcome

/-! # A registry is determined by its history

`Follows` ties a registry to the calls that were made on it: its live entries are those that the history
leaves, and the references it answered are its own and below its counter. The invariant holds of a new
registry (`follows_empty`) and is kept by every call (`Follows.carryOut`), hence it holds after every
sequence of calls on several registries (`follows_run`).

Main statement: `registry_determined_by_history`. What a registry shows, and what it answers to the next
call, is a function of its history.
-/

namespace EventHub.Registry

variable {α : Type}

/-! ## The invariant -/

/-- What holds of a registry with number `i` after the calls of a history. -/
structure Follows (i : Nat) (r : Registry α) (h : List (Call α)) : Prop where
  id : r.id = i
  live : r.live = entries h
  issued : ∀ ref ∈ answered h, ref.registry = i ∧ ref.number < r.issued
  attached : ∀ ref, attachedTo h ref ≠ [] → ref ∈ answered h
  first : ∀ x ∈ activations h, ∃ y,
    (activations h).find? (·.1.key = x.1.key) = some y ∧ y.2 = x.2

/-- A registry on which nothing was called follows no history. -/
theorem follows_empty (i : Nat) : Follows i ({ id := i } : Registry α) [] where
  id := rfl
  live := rfl
  issued := by simp [answered]
  attached := by simp [attachedTo]
  first := by simp [activations, recent, List.rtakeWhile_nil]

/-- The entry of a key is that of its first activation. -/
theorem find?_entries (h : List (Call α)) (key : String) :
    (entries h).find? (·.matcher.key = key)
      = ((activations h).find? (·.1.key = key)).map (entryOf h) := by
  rw [entries, List.find?_map, ← find?_firsts]
  rfl

theorem Follows.byKey? {i : Nat} {r : Registry α} {h : List (Call α)} (hr : Follows i r h)
    (key : String) :
    r.byKey? key = ((activations h).find? (·.1.key = key)).map (entryOf h) := by
  rw [Registry.byKey?, hr.live, find?_entries]

/-- First activations are activations. -/
theorem mem_firsts_of_mem {l : List (Matcher × EntryRef)} {x : Matcher × EntryRef}
    (hx : x ∈ firsts l) : x ∈ l := by
  induction l with
  | nil => simp [firsts] at hx
  | cons y ys ih =>
      rw [firsts] at hx
      rcases List.mem_cons.mp hx with rfl | hx
      · simp
      · exact List.mem_cons_of_mem _ (ih (List.mem_filter.mp hx).1)

theorem active_of_mem_entries {h : List (Call α)} {e : Entry α} (he : e ∈ entries h) :
    e.active = isOn h e.matcher.key := by
  obtain ⟨x, -, rfl⟩ := List.mem_map.mp he
  rfl

/-- The references of the live entries are those answered since the last clearing. -/
theorem Follows.mem_refs {i : Nat} {r : Registry α} {h : List (Call α)} (hr : Follows i r h)
    (ref : EntryRef) : (∃ e ∈ r.live, e.ref = ref) ↔ ref ∈ (activations h).map (·.2) := by
  rw [hr.live, entries]
  constructor
  · rintro ⟨e, he, rfl⟩
    obtain ⟨x, hx, rfl⟩ := List.mem_map.mp he
    exact List.mem_map_of_mem (mem_firsts_of_mem hx)
  · intro href
    obtain ⟨x, hx, rfl⟩ := List.mem_map.mp href
    obtain ⟨y, hy, hyx⟩ := hr.first x hx
    rw [← find?_firsts] at hy
    exact ⟨entryOf h y, List.mem_map_of_mem (List.mem_of_find?_eq_some hy), hyx⟩

/-- A key that is switched on was activated. -/
theorem exists_activation_of_isOn {h : List (Call α)} {key : String} (hon : isOn h key = true) :
    ∃ x ∈ activations h, x.1.key = key := by
  -- the last switch of the key was to on
  have hlast : true ∈ (recent h).filterMap (Call.switch? key) := by
    refine List.mem_of_getLast? ?_
    simpa [isOn] using hon
  obtain ⟨c, hc, hswitch⟩ := List.mem_filterMap.mp hlast
  cases c with
  | activate m ref found =>
      by_cases hm : m.key = key
      · exact ⟨(m, ref), List.mem_filterMap.mpr ⟨_, hc, rfl⟩, hm⟩
      · simp [Call.switch?, hm] at hswitch
  | deactivate m ref? =>
      by_cases hm : m.key = key <;> simp [Call.switch?, hm] at hswitch
  | attach ref a count? => simp [Call.switch?] at hswitch
  | clear n => simp [Call.switch?] at hswitch

/-- A call that makes no new entry switches some entries and attaches to some. -/
theorem entries_concat (h : List (Call α)) {c : Call α} (hc : c.isClear = false)
    (hfirsts : firsts (activations (h ++ [c])) = firsts (activations h)) :
    entries (h ++ [c]) = (entries h).map fun e =>
      ⟨e.ref, e.matcher, (c.switch? e.matcher.key).getD e.active,
        e.actors ++ (c.attached? e.ref).toList⟩ := by
  rw [entries, entries, hfirsts, List.map_map]
  refine List.map_congr_left fun x _ => ?_
  simp [entryOf, isOn_concat h hc, attachedTo_concat]

/-- A call that switches a key on or off, and attaches nothing, switches the entry of the key. -/
theorem entries_switched (h : List (Call α)) {c : Call α} {key : String} {on : Bool}
    (hc : c.isClear = false) (hfirsts : firsts (activations (h ++ [c])) = firsts (activations h))
    (hswitch : ∀ k, c.switch? k = if key = k then some on else none)
    (hattached : ∀ ref, c.attached? ref = none) :
    entries (h ++ [c]) = (entries h).map fun e =>
      if e.matcher.key = key then { e with active := on } else e := by
  rw [entries_concat h hc hfirsts]
  refine List.map_congr_left fun e _ => ?_
  by_cases he : e.matcher.key = key
  · simp [hswitch, hattached, he]
  · simp [hswitch, hattached, he, Ne.symm he]

/-- Nothing changes if no entry has the key, or if it is switched that way already. -/
theorem entries_kept (h : List (Call α)) {c : Call α} {key : String} {on : Bool}
    (hc : c.isClear = false) (hfirsts : firsts (activations (h ++ [c])) = firsts (activations h))
    (hswitch : ∀ k, c.switch? k = if key = k then some on else none)
    (hattached : ∀ ref, c.attached? ref = none)
    (hsame : ∀ e ∈ entries h, e.matcher.key = key → e.active = on) :
    entries (h ++ [c]) = entries h := by
  rw [entries_switched h hc hfirsts hswitch hattached]
  conv_rhs => rw [← List.map_id' (entries h)]
  refine List.map_congr_left fun e he => ?_
  by_cases hkey : e.matcher.key = key
  · rw [if_pos hkey, ← hsame e he hkey]
  · rw [if_neg hkey]

theorem entries_clear (h : List (Call α)) (n : Nat) : entries (h ++ [.clear n]) = [] := by
  simp [entries, activations, recent_concat, Call.isClear, firsts]

/-- The first activation of a key makes an entry behind all others. -/
theorem entries_created (h : List (Call α)) (m : Matcher) (ref : EntryRef) (found : Activation)
    (hnew : (activations h).find? (·.1.key = m.key) = none) (hfresh : attachedTo h ref = []) :
    entries (h ++ [.activate m ref found]) = entries h ++ [⟨ref, m, true, []⟩] := by
  have hnone : ∀ x ∈ activations h, ¬ x.1.key = m.key := by
    simpa [List.find?_eq_none] using hnew
  have hany : (activations h).any (·.1.key = m.key) = false := by
    simpa [List.any_eq_false] using hnone
  have hacts : activations (h ++ [.activate m ref found]) = activations h ++ [(m, ref)] :=
    activations_concat h rfl
  have hon : ∀ key, isOn (h ++ [.activate m ref found]) key
      = (if m.key = key then some true else none).getD (isOn h key) := isOn_concat h rfl
  rw [entries, hacts, firsts_concat, hany, if_neg (by simp), List.map_append, entries]
  -- the first activations are the old ones and the new one behind them
  congr 1
  · refine List.map_congr_left fun x hx => ?_
    have hne : ¬ m.key = x.1.key := fun e => hnone x (mem_firsts_of_mem hx) e.symm
    simp [entryOf, hon, attachedTo_concat, Call.attached?, hne]
  · simp [entryOf, hon, attachedTo_concat, Call.attached?, hfresh]

/-! ## One call -/

variable {i : Nat} {r : Registry α} {h : List (Call α)}

/-- The history grows by a call that answers no new reference. -/
theorem Follows.of_known (hr : Follows i r h) {c : Call α} {r' : Registry α}
    (hc : c.isClear = false) (hid : r'.id = r.id) (hissued : r'.issued = r.issued)
    (hlive : r'.live = entries (h ++ [c]))
    (hknown : ∀ x ∈ c.activated?, ∃ y, (activations h).find? (·.1.key = x.1.key) = some y ∧ y.2 = x.2)
    (hattached : ∀ ref, c.attached? ref ≠ none → ref ∈ answered h) :
    Follows i r' (h ++ [c]) where
  id := hid.trans hr.id
  live := hlive
  issued := by
    intro ref href
    rw [answered_concat] at href
    rw [hissued]
    rcases List.mem_append.mp href with href | href
    · exact hr.issued ref href
    · -- the answer repeats that of the first activation of its key
      obtain ⟨x, hx, rfl⟩ : ∃ x, c.activated? = some x ∧ x.2 = ref := by
        simpa using href
      obtain ⟨y, hy, hyx⟩ := hknown x hx
      rw [← hyx]
      refine hr.issued _ (List.mem_map_of_mem ?_)
      exact activations_subset h (List.mem_of_find?_eq_some hy)
  attached := by
    intro ref href
    rw [attachedTo_concat] at href
    rw [answered_concat]
    refine List.mem_append_left _ ?_
    by_cases hold : attachedTo h ref = []
    · refine hattached ref fun hnone => href ?_
      simp [hold, hnone]
    · exact hr.attached ref hold
  first := by
    intro x hx
    rw [activations_concat h hc] at hx ⊢
    obtain ⟨y, hy, hyx⟩ : ∃ y, (activations h).find? (·.1.key = x.1.key) = some y ∧ y.2 = x.2 := by
      rcases List.mem_append.mp hx with hx | hx
      · exact hr.first x hx
      · exact hknown x (by simpa using hx)
    exact ⟨y, by rw [List.find?_append, hy]; rfl, hyx⟩

/-- The first activation of a key makes a new entry. -/
theorem follows_activate_new (hr : Follows i r h) (m : Matcher)
    (hnew : (activations h).find? (·.1.key = m.key) = none) :
    (r.activate m).2 = (⟨i, r.issued⟩, .created) ∧
      Follows i (r.activate m).1 (h ++ [.activate m ⟨i, r.issued⟩ .created]) := by
  have hkey : r.byKey? m.key = none := by rw [hr.byKey?, hnew]; rfl
  have hact : r.activate m = ({ r with
      issued := r.issued + 1, live := r.live ++ [⟨⟨i, r.issued⟩, m, true, []⟩] },
      ⟨i, r.issued⟩, .created) := by
    simp [Registry.activate, hkey, hr.id]
  -- the new reference is beyond all that were answered, so that nothing is attached to it
  have hfresh : (⟨i, r.issued⟩ : EntryRef) ∉ answered h := by
    intro hmem
    exact absurd (hr.issued _ hmem).2 (Nat.lt_irrefl _)
  have hnoactor : attachedTo h ⟨i, r.issued⟩ = [] := by
    by_contra hne
    exact hfresh (hr.attached _ hne)
  rw [hact]
  refine ⟨rfl, ?_⟩
  constructor
  · exact hr.id
  · simp [hr.live, entries_created h m _ _ hnew hnoactor]
  · intro ref href
    rw [answered_concat] at href
    rcases List.mem_append.mp href with href | href
    · obtain ⟨hreg, hlt⟩ := hr.issued ref href
      exact ⟨hreg, Nat.lt_succ_of_lt hlt⟩
    · obtain rfl : ref = ⟨i, r.issued⟩ := by simpa [Call.activated?] using href
      exact ⟨rfl, Nat.lt_succ_self _⟩
  · intro ref href
    rw [attachedTo_concat] at href
    rw [answered_concat]
    exact List.mem_append_left _ (hr.attached ref (by simpa [Call.attached?] using href))
  · intro x hx
    rw [activations_concat h rfl] at hx ⊢
    rcases List.mem_append.mp hx with hx | hx
    · obtain ⟨y, hy, hyx⟩ := hr.first x hx
      exact ⟨y, by rw [List.find?_append, hy]; rfl, hyx⟩
    · obtain rfl : x = (m, ⟨i, r.issued⟩) := by simpa [Call.activated?] using hx
      exact ⟨_, by rw [List.find?_append, hnew]; simp [Call.activated?], rfl⟩

/-- The first activation of a key, as an entry of the registry. -/
theorem Follows.byKey?_known (hr : Follows i r h) {key : String} {y : Matcher × EntryRef}
    (hy : (activations h).find? (·.1.key = key) = some y) :
    r.byKey? key = some (entryOf h y) ∧ y.1.key = key := by
  refine ⟨by rw [hr.byKey?, hy]; rfl, ?_⟩
  simpa using List.find?_some hy

/-- A further activation of a key answers its entry, and switches it on. -/
theorem follows_activate_known (hr : Follows i r h) {m : Matcher} {y : Matcher × EntryRef}
    (hy : (activations h).find? (·.1.key = m.key) = some y) :
    (r.activate m).2 = (y.2, if isOn h m.key then .alreadyActive else .reactivated) ∧
      Follows i (r.activate m).1
        (h ++ [.activate m y.2 (if isOn h m.key then .alreadyActive else .reactivated)]) := by
  obtain ⟨hkey, hym⟩ := hr.byKey?_known hy
  have hact : r.activate m = (if isOn h m.key then (r, y.2, .alreadyActive)
      else (r.modifyKey m.key fun e => { e with active := true }, y.2, .reactivated)) := by
    simp only [Registry.activate, hkey, entryOf, hym]
  generalize hfound : (if isOn h m.key then Activation.alreadyActive else .reactivated) = found
  -- the activation is not the first one of its key
  have hfirsts : firsts (activations (h ++ [.activate m y.2 found])) = firsts (activations h) := by
    have hany : (activations h).any (·.1.key = m.key) = true :=
      List.any_eq_true.mpr ⟨y, List.mem_of_find?_eq_some hy, by simpa using hym⟩
    rw [activations_concat h rfl]
    simp [Call.activated?, firsts_concat, hany]
  have hknown : ∀ x ∈ (Call.activate (α := α) m y.2 found).activated?, ∃ z,
      (activations h).find? (·.1.key = x.1.key) = some z ∧ z.2 = x.2 := by
    rintro x hx
    obtain rfl : x = (m, y.2) := by simpa [Call.activated?, eq_comm] using hx
    exact ⟨y, hy, rfl⟩
  by_cases hon : isOn h m.key = true
  · -- the entry is active already
    have hsame : ∀ e ∈ entries h, e.matcher.key = m.key → e.active = true := by
      intro e he hkeys
      rw [active_of_mem_entries he, hkeys, hon]
    rw [hact, if_pos hon]
    refine ⟨by simp [← hfound, hon], hr.of_known rfl rfl rfl ?_ hknown (by simp [Call.attached?])⟩
    rw [entries_kept h rfl hfirsts (fun _ => rfl) (fun _ => rfl) hsame, hr.live]
  · -- the entry is there, and is switched on
    rw [hact, if_neg hon]
    refine ⟨by simp [← hfound, hon], hr.of_known rfl rfl rfl ?_ hknown (by simp [Call.attached?])⟩
    rw [entries_switched h rfl hfirsts (fun _ => rfl) (fun _ => rfl), Registry.modifyKey, hr.live]

/-- Calls that activate nothing leave the first activations as they are. -/
theorem firsts_unchanged (h : List (Call α)) {c : Call α} (hc : c.isClear = false)
    (hnone : c.activated? = none) :
    firsts (activations (h ++ [c])) = firsts (activations h) := by
  rw [activations_concat h hc, hnone]
  simp

/-- Deactivating a key that was not activated does nothing. -/
theorem follows_deactivate_unknown (hr : Follows i r h) {m : Matcher}
    (hnew : (activations h).find? (·.1.key = m.key) = none) :
    r.deactivate m = (r, none) ∧ Follows i r (h ++ [.deactivate m none]) := by
  have hkey : r.byKey? m.key = none := by rw [hr.byKey?, hnew]; rfl
  refine ⟨by simp [Registry.deactivate, hkey], ?_⟩
  refine hr.of_known rfl rfl rfl ?_ (by simp [Call.activated?]) (by simp [Call.attached?])
  have hnone : ∀ e ∈ entries h, e.matcher.key = m.key → e.active = false := by
    intro e he hm
    have hfind : (entries h).find? (·.matcher.key = m.key) = none := by
      rw [find?_entries, hnew]
      rfl
    exact absurd hm (by simpa using List.find?_eq_none.mp hfind e he)
  rw [entries_kept h rfl (firsts_unchanged h rfl rfl) (fun _ => rfl) (fun _ => rfl) hnone, hr.live]

/-- Deactivating a key that was activated switches its entry off. -/
theorem follows_deactivate_known (hr : Follows i r h) {m : Matcher} {y : Matcher × EntryRef}
    (hy : (activations h).find? (·.1.key = m.key) = some y) :
    (r.deactivate m).2 = some y.2 ∧
      Follows i (r.deactivate m).1 (h ++ [.deactivate m (some y.2)]) := by
  obtain ⟨hkey, hym⟩ := hr.byKey?_known hy
  have hdeact : r.deactivate m = (r.modifyKey m.key fun e => { e with active := false }, some y.2) := by
    simp [Registry.deactivate, hkey, entryOf]
  rw [hdeact]
  refine ⟨rfl, hr.of_known rfl rfl rfl ?_ (by simp [Call.activated?]) (by simp [Call.attached?])⟩
  rw [entries_switched h rfl (firsts_unchanged h rfl rfl) (fun _ => rfl) (fun _ => rfl),
    Registry.modifyKey, hr.live]

/-- An entry that is not live is refused. -/
theorem follows_attach_stale (hr : Follows i r h) {ref : EntryRef}
    (hstale : ref ∉ (activations h).map (·.2)) (a : α) :
    r.attach? ref a = none ∧ Follows i r (h ++ [.attach ref a none]) := by
  have hlive : r.live? ref = none := by
    rw [Registry.live?, List.find?_eq_none]
    intro e he href
    exact hstale ((hr.mem_refs ref).mp ⟨e, he, by simpa using href⟩)
  refine ⟨by simp [Registry.attach?, hlive], ?_⟩
  refine hr.of_known rfl rfl rfl ?_ (by simp [Call.activated?]) (by simp [Call.attached?])
  rw [entries_concat h rfl (firsts_unchanged h rfl rfl), hr.live]
  simp [Call.switch?, Call.attached?]

/-- A live entry gets the actor behind those that it has. -/
theorem follows_attach_live (hr : Follows i r h) {ref : EntryRef}
    (hlive : ref ∈ (activations h).map (·.2)) (a : α) :
    ∃ r', r.attach? ref a = some (r', (attachedTo h ref).length + 1) ∧
      Follows i r' (h ++ [.attach ref a (some ((attachedTo h ref).length + 1))]) := by
  obtain ⟨e, he⟩ : ∃ e, r.live? ref = some e := by
    rw [← Option.isSome_iff_exists, Registry.live?, List.find?_isSome]
    obtain ⟨e, he, href⟩ := (hr.mem_refs ref).mpr hlive
    exact ⟨e, he, by simpa using href⟩
  have href : e.ref = ref := by simpa using List.find?_some he
  -- the entry has the actors that were attached to its reference
  have hactors : e.actors = attachedTo h ref := by
    have hmem : e ∈ entries h := hr.live ▸ List.mem_of_find?_eq_some he
    obtain ⟨x, -, rfl⟩ := List.mem_map.mp hmem
    rw [← href]
    rfl
  refine ⟨_, by rw [Registry.attach?, he, Option.map_some, hactors], ?_⟩
  refine hr.of_known rfl rfl rfl ?_ (by simp [Call.activated?]) ?_
  · rw [entries_concat h rfl (firsts_unchanged h rfl rfl), hr.live]
    refine List.map_congr_left fun e _ => ?_
    by_cases he : ref = e.ref
    · simp [Call.switch?, Call.attached?, he]
    · simp [Call.switch?, Call.attached?, he, Ne.symm he]
  · intro other hother
    obtain rfl : ref = other := by
      by_contra hne
      exact hother (by simp [Call.attached?, hne])
    obtain ⟨x, hx, rfl⟩ := List.mem_map.mp hlive
    exact List.mem_map_of_mem (activations_subset h hx)

/-- Clearing tells how many actors there were. -/
theorem follows_clear (hr : Follows i r h) :
    r.clear.2 = ((entries h).flatMap (·.actors)).length ∧
      Follows i r.clear.1 (h ++ [.clear r.clear.2]) := by
  refine ⟨by rw [← hr.live]; rfl, hr.id, by rw [entries_clear]; rfl, ?_, ?_, ?_⟩
  · intro ref href
    rw [answered_concat] at href
    exact hr.issued ref (by simpa [Call.activated?] using href)
  · intro ref href
    rw [attachedTo_concat] at href
    rw [answered_concat]
    exact List.mem_append_left _ (hr.attached ref (by simpa [Call.attached?] using href))
  · simp [activations, recent_concat, Call.isClear]

/-- Every call keeps the invariant. -/
theorem Follows.carryOut (hr : Follows i r h) (op : Operation α) :
    Follows i (r.carryOut op).1 (h ++ [(r.carryOut op).2]) := by
  cases op with
  | activate m =>
      -- whether the key was activated since the last clearing
      cases hfind : (activations h).find? (·.1.key = m.key) with
      | none =>
          obtain ⟨hanswer, hnext⟩ := follows_activate_new hr m hfind
          simpa [Registry.carryOut, hanswer] using hnext
      | some y =>
          obtain ⟨hanswer, hnext⟩ := follows_activate_known hr hfind
          simpa [Registry.carryOut, hanswer] using hnext
  | deactivate m =>
      cases hfind : (activations h).find? (·.1.key = m.key) with
      | none =>
          obtain ⟨hanswer, hnext⟩ := follows_deactivate_unknown hr hfind
          simpa [Registry.carryOut, hanswer] using hnext
      | some y =>
          obtain ⟨hanswer, hnext⟩ := follows_deactivate_known hr hfind
          simpa [Registry.carryOut, hanswer] using hnext
  | attach ref a =>
      by_cases hlive : ref ∈ (activations h).map (·.2)
      · obtain ⟨r', hanswer, hnext⟩ := follows_attach_live hr hlive a
        simpa [Registry.carryOut, hanswer] using hnext
      · obtain ⟨hanswer, hnext⟩ := follows_attach_stale hr hlive a
        simpa [Registry.carryOut, hanswer] using hnext
  | clear => exact (follows_clear hr).2

/-- After every sequence of calls on several registries, each of them follows its own history. -/
theorem follows_run (ops : List (Nat × Operation α)) (i : Nat) :
    Follows i ((Shelf.run ops).registry i) ((Shelf.run ops).history i) := by
  induction ops using List.reverseRecOn with
  | nil => exact follows_empty i
  | append_singleton ops x ih =>
      rw [run_concat]
      obtain ⟨j, op⟩ := x
      by_cases hij : i = j
      · -- the last call is on this registry
        subst hij
        rw [registry_call_self, history_call_self]
        exact ih.carryOut op
      · rw [registry_call_ne _ hij, history_call_ne _ hij]
        exact ih

/-! ## What a registry shows and answers -/

/-- First activations have the keys of all activations, each once. -/
theorem keys_firsts (l : List (Matcher × EntryRef)) :
    (firsts l).map (·.1.key) = (l.map (·.1.key)).eraseDups := by
  induction l using List.reverseRecOn with
  | nil => rfl
  | append_singleton l x ih =>
      rw [firsts_concat, List.map_append, List.eraseDups_append, ← ih]
      by_cases hmem : x.1.key ∈ l.map (·.1.key)
      · have hany : l.any (·.1.key = x.1.key) = true := by
          obtain ⟨y, hy, hyx⟩ := List.mem_map.mp hmem
          exact List.any_eq_true.mpr ⟨y, hy, by simpa using hyx⟩
        simp [hany, List.removeAll, hmem]
      · have hany : l.any (·.1.key = x.1.key) = false := by
          rw [List.any_eq_false]
          intro y hy hyx
          exact hmem (List.mem_map.mpr ⟨y, hy, by simpa using hyx⟩)
        simp [hany, List.removeAll, hmem, List.eraseDups_cons]

/-- A first activation is the first one of its key. -/
theorem find?_of_mem_firsts {l : List (Matcher × EntryRef)} {x : Matcher × EntryRef}
    (hx : x ∈ firsts l) : l.find? (·.1.key = x.1.key) = some x := by
  induction l with
  | nil => simp [firsts] at hx
  | cons y ys ih =>
      rw [firsts] at hx
      rcases List.mem_cons.mp hx with rfl | hx
      · simp
      · obtain ⟨hmem, hne⟩ := List.mem_filter.mp hx
        have hyx : ¬ y.1.key = x.1.key := fun e => by simp [e] at hne
        rw [List.find?_cons_of_neg (by simpa using hyx), ih hmem]

/-- What a registry shows after the calls of a history. Its entries are the first activations of the
keys activated since the last clearing; each is active when its key is switched on and has the actors
that were attached to it. -/
structure Shows (r : Registry α) (h : List (Call α)) : Prop where
  live : r.live = (firsts (activations h)).map fun x =>
    ⟨x.2, x.1, isOn h x.1.key, attachedTo h x.2⟩
  keys : r.live.map (·.matcher.key) = ((activations h).map (·.1.key)).eraseDups
  first : ∀ e ∈ r.live,
    (activations h).find? (·.1.key = e.matcher.key) = some (e.matcher, e.ref)
  matching : ∀ name, r.matching name =
    ((firsts (activations h)).filter fun x =>
      isOn h x.1.key && !(attachedTo h x.2).isEmpty && x.1.test name).map fun x =>
        (x.1, attachedTo h x.2)
  isActive : ∀ m, r.isActive m = isOn h m.key
  patterns : ∀ activeOnly, r.patterns activeOnly =
    ((firsts (activations h)).filter fun x => isOn h x.1.key || !activeOnly).map (·.1.shown)
  size : r.size = ((activations h).map (·.1.key)).eraseDups.length
  activeCount : r.activeCount = ((firsts (activations h)).filter fun x => isOn h x.1.key).length
  actorCount : r.actorCount = ((firsts (activations h)).flatMap fun x => attachedTo h x.2).length
  actorCountFor : ∀ name, r.actorCountFor name =
    (((firsts (activations h)).filter fun x => isOn h x.1.key && x.1.test name).flatMap fun x =>
      attachedTo h x.2).length

/-- What the registry with number `i` answers to the next call, where `old` are the references that
any registry answered before. -/
structure Answers (i : Nat) (r : Registry Actor) (h : List (Call Actor)) (old : List EntryRef) :
    Prop where
  activate_new : ∀ m, (activations h).find? (·.1.key = m.key) = none → ∃ ref,
    ref.registry = i ∧ ref ∉ old ∧ (r.carryOut (.activate m)).2 = .activate m ref .created
  activate_known : ∀ m x, (activations h).find? (·.1.key = m.key) = some x →
    (r.carryOut (.activate m)).2
      = .activate m x.2 (if isOn h m.key then .alreadyActive else .reactivated)
  deactivate_new : ∀ m, (activations h).find? (·.1.key = m.key) = none →
    r.carryOut (.deactivate m) = (r, .deactivate m none)
  deactivate_known : ∀ m x, (activations h).find? (·.1.key = m.key) = some x →
    (r.carryOut (.deactivate m)).2 = .deactivate m (some x.2)
  attach : ∀ ref a, (r.carryOut (.attach ref a)).2 = .attach ref a
    (if ref ∈ (activations h).map (·.2) then some ((attachedTo h ref).length + 1) else none)
  attach_stale : ∀ ref a, ref ∉ (activations h).map (·.2) → (r.carryOut (.attach ref a)).1 = r
  attachTo_fault : ∀ (w : World) ref source a, w.registry i = r →
    ref ∉ (activations h).map (·.2) →
    Run.outcome (Hub.attachTo i ref source a) w = (.error (.fault (.staleEntry source)), w)
  attachTo_count : ∀ (w : World) ref source a, w.registry i = r →
    ref ∈ (activations h).map (·.2) →
    Run.outcome (Hub.attachTo i ref source a) w
      = (.ok ((attachedTo h ref).length + 1), w.setRegistry i (r.carryOut (.attach ref a)).1)
  clear : (r.carryOut .clear).2
    = .clear ((firsts (activations h)).flatMap fun x => attachedTo h x.2).length

/-- What the invariant says of the entries is what the registry shows. -/
theorem Follows.shows (hr : Follows i r h) : Shows r h where
  live := hr.live
  keys := by
    rw [hr.live, entries, List.map_map, ← keys_firsts]
    rfl
  first := by
    intro e he
    rw [hr.live] at he
    obtain ⟨x, hx, rfl⟩ := List.mem_map.mp he
    exact find?_of_mem_firsts hx
  matching := by
    intro name
    rw [Registry.matching, hr.live, entries, List.filter_map, List.map_map]
    rfl
  isActive := by
    intro m
    rw [Registry.isActive]
    cases hfind : (activations h).find? (·.1.key = m.key) with
    | none =>
        -- a key that was not activated is not on
        have hoff : isOn h m.key = false := by
          rw [Bool.eq_false_iff]
          intro hon
          obtain ⟨x, hx, hxm⟩ := exists_activation_of_isOn hon
          exact absurd hxm (by simpa using List.find?_eq_none.mp hfind x hx)
        rw [hr.byKey?, hfind, hoff]
        rfl
    | some y =>
        obtain ⟨hkey, hym⟩ := hr.byKey?_known hfind
        rw [hkey, Option.any_some, entryOf, hym]
  patterns := by
    intro activeOnly
    rw [Registry.patterns, hr.live, entries, List.filter_map, List.map_map]
    rfl
  size := by
    rw [Registry.size, hr.live, entries, List.length_map, ← keys_firsts, List.length_map]
  activeCount := by
    rw [Registry.activeCount, hr.live, entries, List.filter_map, List.length_map]
    rfl
  actorCount := by
    rw [Registry.actorCount, hr.live, entries, List.flatMap_map]
    rfl
  actorCountFor := by
    intro name
    rw [Registry.actorCountFor, Registry.matching, hr.live, entries, List.filter_map, List.map_map,
      List.flatMap_map, ← flatMap_filter_nonempty]
    rfl

/-- The references that any registry answered. -/
def Shelf.answered (s : Shelf α) : List EntryRef :=
  (s.calls.filterMap fun c => c.2.activated?).map (·.2)

/-- A reference was answered by the registry of its number. -/
theorem mem_answered_history {s : Shelf α} {ref : EntryRef} (href : ref ∈ s.answered) :
    ∃ j, ref ∈ Registry.answered (s.history j) := by
  obtain ⟨x, hx, rfl⟩ := List.mem_map.mp href
  obtain ⟨c, hc, hcx⟩ := List.mem_filterMap.mp hx
  refine ⟨c.1, List.mem_map_of_mem (List.mem_filterMap.mpr ⟨c.2, ?_, hcx⟩)⟩
  exact List.mem_filterMap.mpr ⟨c, hc, by simp⟩

/-- The reference of a new entry was answered by no registry before. -/
theorem new_ref_not_answered (ops : List (Nat × Operation α)) (i : Nat) :
    (⟨i, ((Shelf.run ops).registry i).issued⟩ : EntryRef) ∉ (Shelf.run ops).answered := by
  intro href
  obtain ⟨j, hj⟩ := mem_answered_history href
  obtain ⟨hreg, hlt⟩ := (follows_run ops j).issued _ hj
  obtain rfl : i = j := hreg
  exact Nat.lt_irrefl _ hlt

/-- What the next call answers follows from the invariant. -/
theorem Follows.answers {r : Registry Actor} {h : List (Call Actor)} (hr : Follows i r h)
    {old : List EntryRef} (hold : (⟨i, r.issued⟩ : EntryRef) ∉ old) : Answers i r h old where
  activate_new := by
    intro m hnew
    obtain ⟨hanswer, -⟩ := follows_activate_new hr m hnew
    exact ⟨_, rfl, hold, by simp [Registry.carryOut, hanswer]⟩
  activate_known := by
    intro m x hx
    obtain ⟨hanswer, -⟩ := follows_activate_known hr hx
    simp [Registry.carryOut, hanswer]
  deactivate_new := by
    intro m hnew
    obtain ⟨hanswer, -⟩ := follows_deactivate_unknown hr hnew
    simp [Registry.carryOut, hanswer]
  deactivate_known := by
    intro m x hx
    obtain ⟨hanswer, -⟩ := follows_deactivate_known hr hx
    simp [Registry.carryOut, hanswer]
  attach := by
    intro ref a
    by_cases hlive : ref ∈ (activations h).map (·.2)
    · obtain ⟨r', hanswer, -⟩ := follows_attach_live hr hlive a
      rw [if_pos hlive, Registry.carryOut, hanswer]
    · obtain ⟨hanswer, -⟩ := follows_attach_stale hr hlive a
      rw [if_neg hlive, Registry.carryOut, hanswer]
  attach_stale := by
    intro ref a hstale
    obtain ⟨hanswer, -⟩ := follows_attach_stale hr hstale a
    rw [Registry.carryOut, hanswer]
  attachTo_fault := by
    intro w ref source a hw hstale
    obtain ⟨hanswer, -⟩ := follows_attach_stale hr hstale a
    simp [Hub.attachTo, hw, hanswer]
  attachTo_count := by
    intro w ref source a hw hlive
    obtain ⟨r', hanswer, -⟩ := follows_attach_live hr hlive a
    simp [Hub.attachTo, hw, hanswer, Registry.carryOut, Run.outcome_map]
  clear := by
    obtain ⟨hanswer, -⟩ := follows_clear hr
    rw [Registry.carryOut, hanswer, entries, List.flatMap_map]
    rfl

/-- **A registry is a function of its history.** Calls are made in any order on any number of
registries, and attachments with any references. Afterwards each registry shows what its own history
says, and so does its answer to any further call: a reference is taken for an attachment exactly when
an activation of this registry answered it since the last clearing, and a new entry gets a reference
that no registry answered before. -/
theorem registry_determined_by_history (ops : List (Nat × Operation Actor)) (i : Nat) :
    Shows ((Shelf.run ops).registry i) ((Shelf.run ops).history i) ∧
      Answers i ((Shelf.run ops).registry i) ((Shelf.run ops).history i) (Shelf.run ops).answered :=
  ⟨(follows_run ops i).shows, (follows_run ops i).answers (new_ref_not_answered ops i)⟩

end EventHub.Registry
