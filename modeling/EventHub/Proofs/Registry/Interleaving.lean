import EventHub.Hub.Dispatch
import EventHub.Proofs.Callable.Validation
import EventHub.Proofs.Registry.Determined
import Mathlib.Data.List.Nodup

/-! # Registrations on different patterns are independent

A call on a registry that does not clear it, and is not refused, is a registration: it listens or unlistens to
a pattern, or attaches an actor to the live entry of a key (`Operation.registration?`). A registration changes
what the registry holds under its own key, by a function that reads nothing else (`content?_carryOut`), and
only listening adds a key (`keys_carryOut`). So what a run of calls leaves under a key is decided by the
registrations on this key alone (`content?_after`), and the order in which different keys were worked on
shows only in the order of the new keys (`keys_after`).

All this rests on the entries of a registry being told apart by their keys and by their references
(`Distinct`), which holds after every sequence of calls on several registries (`distinct_run`).

Main statement: `interleavings_agree`.
-/

namespace EventHub

/-- What a registry holds under a key. -/
structure Registry.Content (α : Type) where
  matcher : Matcher
  active : Bool
  actors : List α

/-- The content of an entry, without the reference that tells it apart. -/
def Entry.content {α : Type} (e : Entry α) : Registry.Content α := ⟨e.matcher, e.active, e.actors⟩

namespace Registry

variable {α : Type}

/-! ## Live entries differ -/

/-- The live entries have different keys and different references, and the next reference is new. -/
structure Distinct (r : Registry α) : Prop where
  keys : (r.live.map (·.matcher.key)).Nodup
  refs : (r.live.map (·.ref)).Nodup
  issued : ∀ e ∈ r.live, e.ref.number < r.issued

namespace Distinct

variable {r : Registry α}

/-- Entries may change otherwise, as long as they keep their keys and their references. -/
theorem map (hr : Distinct r) {f : Entry α → Entry α} (hkey : ∀ e, (f e).matcher = e.matcher)
    (href : ∀ e, (f e).ref = e.ref) : Distinct { r with live := r.live.map f } where
  keys := by simpa [Function.comp_def, hkey] using hr.keys
  refs := by simpa [Function.comp_def, href] using hr.refs
  issued := by
    intro e' he'
    obtain ⟨e, he, rfl⟩ := List.mem_map.mp he'
    rw [href]
    exact hr.issued e he

theorem switch (hr : Distinct r) (key : String) (on : Bool) :
    Distinct (r.modifyKey key fun e => { e with active := on }) :=
  hr.map (fun e => by split <;> rfl) fun e => by split <;> rfl

/-- A new entry has a key and a reference that no other one has. -/
theorem create (hr : Distinct r) {m : Matcher} (hnew : r.byKey? m.key = none) :
    Distinct { r with issued := r.issued + 1, live := r.live ++ [⟨⟨r.id, r.issued⟩, m, true, []⟩] } where
  keys := by
    -- an entry with this key would have been found
    have hfresh : m.key ∉ r.live.map (·.matcher.key) := by
      intro hmem
      obtain ⟨e, he, hkey⟩ := List.mem_map.mp hmem
      exact List.find?_eq_none.mp hnew e he (by simpa using hkey)
    rw [List.map_append]
    exact List.nodup_append'.mpr ⟨hr.keys, List.nodup_singleton _, List.disjoint_singleton.mpr hfresh⟩
  refs := by
    -- the entries have references that were issued
    have hfresh : (⟨r.id, r.issued⟩ : EntryRef) ∉ r.live.map (·.ref) := by
      intro hmem
      obtain ⟨e, he, href⟩ := List.mem_map.mp hmem
      have hlt := hr.issued e he
      rw [href] at hlt
      exact Nat.lt_irrefl _ hlt
    rw [List.map_append]
    exact List.nodup_append'.mpr ⟨hr.refs, List.nodup_singleton _, List.disjoint_singleton.mpr hfresh⟩
  issued := by
    intro e he
    rcases List.mem_append.mp he with he | he
    · exact Nat.lt_succ_of_lt (hr.issued e he)
    · obtain rfl := List.mem_singleton.mp he
      exact Nat.lt_succ_self _

/-- Every call keeps the entries apart. -/
theorem carryOut (hr : Distinct r) (op : Operation α) : Distinct (r.carryOut op).1 := by
  cases op with
  | activate m =>
      simp only [Registry.carryOut, activate]
      split
      · rename_i hnew
        exact hr.create hnew
      · split
        · exact hr
        · exact hr.switch _ _
  | deactivate m =>
      simp only [Registry.carryOut, deactivate]
      split
      · exact hr
      · exact hr.switch _ _
  | attach ref a =>
      simp only [Registry.carryOut, attach?]
      cases r.live? ref with
      | none => exact hr
      | some e =>
          -- attaching keeps key and reference of the entry
          exact hr.map (fun e => by split <;> rfl) fun e => by split <;> rfl
  | clear => exact ⟨List.nodup_nil, List.nodup_nil, by simp [Registry.carryOut, Registry.clear]⟩

/-- Entries with the same key are the same. -/
theorem eq_of_key (hr : Distinct r) {e e' : Entry α} (he : e ∈ r.live) (he' : e' ∈ r.live)
    (h : e.matcher.key = e'.matcher.key) : e = e' :=
  List.inj_on_of_nodup_map hr.keys he he' h

/-- Entries with the same reference are the same. -/
theorem eq_of_ref (hr : Distinct r) {e e' : Entry α} (he : e ∈ r.live) (he' : e' ∈ r.live)
    (h : e.ref = e'.ref) : e = e' :=
  List.inj_on_of_nodup_map hr.refs he he' h

end Distinct

/-- After every sequence of calls on several registries, the live entries of each registry differ. -/
theorem distinct_run (past : List (Nat × Operation α)) (i : Nat) :
    Distinct ((Shelf.run past).registry i) := by
  induction past using List.reverseRecOn with
  | nil => exact ⟨List.nodup_nil, List.nodup_nil, by simp [Shelf.run, Shelf.empty]⟩
  | append_singleton past x ih =>
      rw [run_concat]
      obtain ⟨j, op⟩ := x
      by_cases hij : i = j
      · subst hij
        rw [registry_call_self]
        exact ih.carryOut op
      · rw [registry_call_ne _ hij]
        exact ih

/-! ## Registrations -/

/-- A call that is no clearing and was not refused. An attachment names the key of the entry, whatever the
reference that was used. -/
inductive Registration (α : Type) where
  | listen (m : Matcher)
  | unlisten (m : Matcher)
  | act (key : String) (a : α)

namespace Registration

/-- The pattern key on which a registration works. -/
def key : Registration α → String
  | .listen m => m.key
  | .unlisten m => m.key
  | .act key _ => key

/-- The key that a registration listens to. -/
def listened? : Registration α → Option String
  | .listen m => some m.key
  | _ => none

/-- What a registration makes of the content of its key. -/
def apply : Registration α → Option (Content α) → Option (Content α)
  | .listen m, none => some ⟨m, true, []⟩
  | .listen _, some c => some { c with active := true }
  | .unlisten _, c? => c?.map fun c => { c with active := false }
  | .act _ a, c? => c?.map fun c => { c with actors := c.actors ++ [a] }

end Registration

/-- The registration that a call on a registry is. -/
def Operation.registration? (r : Registry α) : Operation α → Option (Registration α)
  | .activate m => some (.listen m)
  | .deactivate m => some (.unlisten m)
  | .attach ref a => (r.live? ref).map fun e => .act e.matcher.key a
  | .clear => none

/-- The registry after calls from first to last. -/
def after (r : Registry α) : List (Operation α) → Registry α
  | [] => r
  | op :: ops => (r.carryOut op).1.after ops

/-- The registrations that calls are, made from first to last; none if one of them is a clearing or is
refused. -/
def registrations? (r : Registry α) : List (Operation α) → Option (List (Registration α))
  | [] => some []
  | op :: ops => do
    let x ← op.registration? r
    let rest ← registrations? (r.carryOut op).1 ops
    return x :: rest

/-- The keys of a registry in the order of registration. -/
def keys (r : Registry α) : List String := r.live.map (·.matcher.key)

/-- What a registry holds under a key. -/
def content? (r : Registry α) (key : String) : Option (Content α) := (r.byKey? key).map Entry.content

/-- The keys that registrations add to others, in the order in which they are first listened to. -/
def addedKeys (old : List String) (xs : List (Registration α)) : List String :=
  ((xs.filterMap Registration.listened?).filter (· ∉ old)).eraseDups

/-! ## One registration -/

theorem mem_keys_iff {r : Registry α} {key : String} : key ∈ r.keys ↔ (r.byKey? key).isSome := by
  unfold keys byKey?
  rw [List.find?_isSome, List.mem_map]
  exact exists_congr fun e => and_congr_right fun _ => decide_eq_true_iff.symm

/-- Entries may change otherwise, and are still found by their keys. -/
theorem byKey?_map (r : Registry α) {f : Entry α → Entry α} (hf : ∀ e, (f e).matcher = e.matcher)
    (key : String) : Registry.byKey? { r with live := r.live.map f } key = (r.byKey? key).map f := by
  unfold byKey?
  rw [List.find?_map]
  congr 2
  funext e
  simp [hf]

theorem key_of_byKey? {r : Registry α} {key : String} {e : Entry α} (he : r.byKey? key = some e) :
    e ∈ r.live ∧ e.matcher.key = key :=
  ⟨List.mem_of_find?_eq_some he, by simpa using List.find?_some he⟩

variable {r : Registry α}

/-- Switching a key on or off changes what is held under this key only. -/
theorem content?_switch (r : Registry α) (key other : String) (on : Bool) :
    (r.modifyKey key fun e => { e with active := on }).content? other =
      if key = other then (r.content? other).map fun c => { c with active := on } else r.content? other := by
  unfold content? modifyKey
  rw [byKey?_map r (fun e => by split <;> rfl), Option.map_map,
    Option.map_map]
  by_cases hkey : key = other
  · rw [if_pos hkey]
    refine Option.map_congr fun e he => ?_
    simp [(key_of_byKey? he).2, hkey, Entry.content]
  · rw [if_neg hkey]
    refine Option.map_congr fun e he => ?_
    simp [(key_of_byKey? he).2, Ne.symm hkey]

/-- Activating works on the key of the pattern. -/
theorem content?_activate (r : Registry α) (m : Matcher) (key : String) :
    (r.activate m).1.content? key =
      if m.key = key then (Registration.listen m).apply (r.content? key) else r.content? key := by
  cases hm : r.byKey? m.key with
  | none =>
      -- the new entry stands behind all others, and is the only one of its key
      have hact : (r.activate m).1.byKey? key =
          (r.byKey? key).or (if m.key = key then some ⟨⟨r.id, r.issued⟩, m, true, []⟩ else none) := by
        unfold activate
        rw [hm]
        unfold byKey?
        rw [List.find?_append]
        by_cases hkey : m.key = key <;> simp [hkey]
      unfold content?
      rw [hact]
      by_cases hkey : m.key = key
      · subst hkey
        simp [hm, Registration.apply, Entry.content]
      · simp [hkey]
  | some e =>
      by_cases hactive : e.active = true
      · -- nothing is changed, the entry is active already
        have hact : (r.activate m).1 = r := by simp [activate, hm, hactive]
        rw [hact]
        by_cases hkey : m.key = key
        · subst hkey
          simp [content?, hm, Registration.apply, Entry.content, hactive]
        · rw [if_neg hkey]
      · have hact : (r.activate m).1 = r.modifyKey m.key fun e => { e with active := true } := by
          simp [activate, hm, hactive]
        rw [hact, content?_switch]
        by_cases hkey : m.key = key
        · subst hkey
          simp [content?, hm, Registration.apply, Entry.content]
        · rw [if_neg hkey, if_neg hkey]

/-- Deactivating works on the key of the pattern. -/
theorem content?_deactivate (r : Registry α) (m : Matcher) (key : String) :
    (r.deactivate m).1.content? key =
      if m.key = key then (Registration.unlisten m).apply (r.content? key) else r.content? key := by
  cases hm : r.byKey? m.key with
  | none =>
      have hdeact : (r.deactivate m).1 = r := by simp [deactivate, hm]
      rw [hdeact]
      by_cases hkey : m.key = key
      · subst hkey
        simp [content?, hm, Registration.apply]
      · rw [if_neg hkey]
  | some e =>
      have hdeact : (r.deactivate m).1 = r.modifyKey m.key fun e => { e with active := false } := by
        simp [deactivate, hm]
      rw [hdeact, content?_switch]
      by_cases hkey : m.key = key
      · subst hkey
        simp [content?, hm, Registration.apply, Entry.content]
      · rw [if_neg hkey, if_neg hkey]

/-- Attaching works on the key of the entry. -/
theorem content?_attach (hr : Distinct r) {ref : EntryRef} {e : Entry α} (he : r.live? ref = some e) (a : α)
    (key : String) : (r.carryOut (.attach ref a)).1.content? key =
      if e.matcher.key = key then (Registration.act key a).apply (r.content? key) else r.content? key := by
  have hmem : e ∈ r.live := List.mem_of_find?_eq_some he
  have href : e.ref = ref := by simpa using List.find?_some he
  have hattach : (r.carryOut (.attach ref a)).1.content? key =
      (r.byKey? key).map fun e => Entry.content
        (if e.ref = ref then { e with actors := e.actors ++ [a] } else e) := by
    simp only [carryOut, attach?, he, Option.map_some, content?]
    rw [byKey?_map r (fun e => by split <;> rfl), Option.map_map]
    rfl
  rw [hattach]
  by_cases hkey : e.matcher.key = key
  · rw [if_pos hkey]
    unfold content?
    rw [Registration.apply, Option.map_map]
    refine Option.map_congr fun e' he' => ?_
    -- the entry of the key is the one that the reference is to
    obtain ⟨hmem', hkey'⟩ := key_of_byKey? he'
    obtain rfl : e' = e := hr.eq_of_key hmem' hmem (hkey'.trans hkey.symm)
    simp [href, Entry.content]
  · rw [if_neg hkey]
    refine Option.map_congr fun e' he' => ?_
    obtain ⟨hmem', hkey'⟩ := key_of_byKey? he'
    -- an entry with another key has another reference
    have hother : e'.ref ≠ ref := by
      intro h
      obtain rfl : e' = e := hr.eq_of_ref hmem' hmem (h.trans href.symm)
      exact hkey hkey'
    rw [if_neg hother]

/-- **A registration works on its own key only**, and what it makes of the content of this key depends on
nothing else. -/
theorem content?_carryOut (hr : Distinct r) {op : Operation α} {x : Registration α}
    (hx : op.registration? r = some x) (key : String) :
    (r.carryOut op).1.content? key = if x.key = key then x.apply (r.content? key) else r.content? key := by
  cases op with
  | activate m =>
      obtain rfl : .listen m = x := Option.some.inj hx
      exact content?_activate r m key
  | deactivate m =>
      obtain rfl : .unlisten m = x := Option.some.inj hx
      exact content?_deactivate r m key
  | attach ref a =>
      obtain ⟨e, he, rfl⟩ := Option.map_eq_some_iff.mp hx
      rw [content?_attach hr he a key]
      rfl
  | clear => cases hx

/-- Only listening to a new key adds a key, behind the others. -/
theorem keys_carryOut {op : Operation α} {x : Registration α} (hx : op.registration? r = some x) :
    (r.carryOut op).1.keys = r.keys ++ (x.listened?.filter (· ∉ r.keys)).toList := by
  -- a change that keeps the patterns keeps the keys
  have hmap : ∀ f : Entry α → Entry α, (∀ e, (f e).matcher = e.matcher) →
      Registry.keys { r with live := r.live.map f } = r.keys := by
    intro f hf
    simp [keys, Function.comp_def, hf]
  have hswitch : ∀ (key : String) (on : Bool),
      (r.modifyKey key fun e => { e with active := on }).keys = r.keys := fun key on =>
    hmap _ fun e => by split <;> rfl
  cases op with
  | activate m =>
      obtain rfl : .listen m = x := Option.some.inj hx
      cases hm : r.byKey? m.key with
      | none =>
          have hnew : m.key ∉ r.keys := by simp [mem_keys_iff, hm]
          have hadded : (r.activate m).1.keys = r.keys ++ [m.key] := by simp [activate, hm, keys]
          simp [carryOut, hadded, Registration.listened?, hnew, Option.filter]
      | some e =>
          have hknown : m.key ∈ r.keys := by simp [mem_keys_iff, hm]
          have hkept : (r.activate m).1.keys = r.keys := by
            unfold activate
            rw [hm]
            by_cases hactive : e.active = true
            · simp [hactive]
            · simpa [hactive] using hswitch m.key true
          simp [carryOut, hkept, Registration.listened?, hknown, Option.filter]
  | deactivate m =>
      obtain rfl : .unlisten m = x := Option.some.inj hx
      have hkept : (r.deactivate m).1.keys = r.keys := by
        unfold deactivate
        cases r.byKey? m.key with
        | none => rfl
        | some e => exact hswitch m.key false
      simp [carryOut, hkept, Registration.listened?]
  | attach ref a =>
      obtain ⟨e, he, rfl⟩ := Option.map_eq_some_iff.mp hx
      have hkept : (r.carryOut (.attach ref a)).1.keys = r.keys := by
        simp only [carryOut, attach?, he, Option.map_some]
        exact hmap _ fun e => by split <;> rfl
      simp [hkept, Registration.listened?]
  | clear => cases hx

/-! ## Registrations from first to last -/

theorem registrations?_cons {op : Operation α} {ops : List (Operation α)} {xs : List (Registration α)} :
    r.registrations? (op :: ops) = some xs ↔ ∃ x rest, op.registration? r = some x ∧
      (r.carryOut op).1.registrations? ops = some rest ∧ x :: rest = xs := by
  simp [registrations?, Option.bind_eq_some_iff]

theorem Distinct.after (hr : Distinct r) (ops : List (Operation α)) : Distinct (r.after ops) := by
  induction ops generalizing r with
  | nil => exact hr
  | cons op ops ih => exact ih (hr.carryOut op)

/-- What is held under a key is decided by the registrations on this key. -/
theorem content?_after (hr : Distinct r) {ops : List (Operation α)} {xs : List (Registration α)}
    (hxs : r.registrations? ops = some xs) (key : String) :
    (r.after ops).content? key =
      (xs.filter (·.key = key)).foldl (fun c? x => x.apply c?) (r.content? key) := by
  induction ops generalizing r xs with
  | nil =>
      obtain rfl := Option.some.inj hxs
      rfl
  | cons op ops ih =>
      obtain ⟨x, rest, hx, hrest, rfl⟩ := registrations?_cons.mp hxs
      have hstep := content?_carryOut hr hx key
      rw [after, ih (hr.carryOut op) hrest, hstep]
      by_cases hkey : x.key = key <;> simp [hkey]

/-- The keys that one registration adds, and those that the others add then. -/
theorem addedKeys_cons (old : List String) (x : Registration α) (xs : List (Registration α)) :
    addedKeys old (x :: xs) = (x.listened?.filter (· ∉ old)).toList ++
      addedKeys (old ++ (x.listened?.filter (· ∉ old)).toList) xs := by
  unfold addedKeys
  cases hx : x.listened? with
  | none => simp [hx]
  | some key =>
      by_cases hold : key ∈ old
      · simp [hx, hold, Option.filter]
      · -- later listenings to the key add nothing
        simp only [List.filterMap_cons, hx, hold, Option.filter, not_false_eq_true, decide_true,
          List.filter_cons_of_pos, List.eraseDups_cons, List.filter_filter, if_true, Option.toList_some,
          List.singleton_append, List.mem_append, List.mem_singleton, not_or]
        congr 3
        funext other
        simp [and_comm, Bool.beq_eq_decide_eq]

/-- The keys after registrations are the old ones and the added ones. -/
theorem keys_after {ops : List (Operation α)} {xs : List (Registration α)}
    (hxs : r.registrations? ops = some xs) : (r.after ops).keys = r.keys ++ addedKeys r.keys xs := by
  induction ops generalizing r xs with
  | nil =>
      obtain rfl := Option.some.inj hxs
      simp [after, addedKeys]
  | cons op ops ih =>
      obtain ⟨x, rest, hx, hrest, rfl⟩ := registrations?_cons.mp hxs
      rw [after, ih hrest, keys_carryOut hx, addedKeys_cons, List.append_assoc]

/-! ## Keys and contents say what is dispatched -/

theorem mem_keys_iff_content? {key : String} : key ∈ r.keys ↔ (r.content? key).isSome := by
  rw [mem_keys_iff, content?, Option.isSome_map]

/-- The entries are their keys in order, each with what is held under it. -/
theorem contents_eq (hr : Distinct r) : r.live.map Entry.content = r.keys.filterMap r.content? := by
  rw [keys, List.filterMap_map, ← List.filterMap_eq_map]
  refine List.filterMap_congr fun e he => ?_
  obtain ⟨e', he'⟩ := Option.isSome_iff_exists.mp (mem_keys_iff.mp (List.mem_map_of_mem he))
  obtain ⟨hmem, hkey⟩ := key_of_byKey? he'
  obtain rfl : e' = e := hr.eq_of_key hmem he hkey
  simp [content?, he']

/-- What a name matches is decided by keys and contents. -/
theorem matching_eq (hr : Distinct r) (name : String) :
    r.matching name = ((r.keys.filterMap r.content?).filter fun c =>
      c.active && !c.actors.isEmpty && c.matcher.test name).map fun c => (c.matcher, c.actors) := by
  rw [← contents_eq hr, List.filter_map, List.map_map]
  rfl

/-- **Registrations on different patterns are independent.** A registry of any past is worked on in two
ways, by calls none of which clears it or is refused. The two runs of calls may use different references and
may mix the patterns in different orders, but on each key they make the same registrations in the same order.
Then the two registries have the same keys, and hold the same under each key. So an event name is matched by
the same entries, each with the same actors in the same order, and a publish makes the same calls; if the two
runs listen to their new keys in the same order, then in the same order. -/
theorem interleavings_agree (past : List (Nat × Operation Actor)) (i : Nat)
    (ops₁ ops₂ : List (Operation Actor)) {xs₁ xs₂ : List (Registration Actor)}
    (h₁ : ((Shelf.run past).registry i).registrations? ops₁ = some xs₁)
    (h₂ : ((Shelf.run past).registry i).registrations? ops₂ = some xs₂)
    (hsame : ∀ key, xs₁.filter (·.key = key) = xs₂.filter (·.key = key)) :
    let r := (Shelf.run past).registry i
    let r₁ := r.after ops₁
    let r₂ := r.after ops₂
    r₁.keys.Perm r₂.keys ∧ (∀ key, r₁.content? key = r₂.content? key) ∧
      (∀ name, (r₁.matching name).Perm (r₂.matching name) ∧
        (Hub.targets (r₁.matching name) name).Perm (Hub.targets (r₂.matching name) name)) ∧
      (addedKeys r.keys xs₁ = addedKeys r.keys xs₂ → r₁.keys = r₂.keys ∧
        ∀ name, Hub.targets (r₁.matching name) name = Hub.targets (r₂.matching name) name) := by
  intro r r₁ r₂
  have hr : Distinct r := distinct_run past i
  have hr₁ : Distinct r₁ := hr.after ops₁
  have hr₂ : Distinct r₂ := hr.after ops₂
  -- the registrations on a key decide what is held under it
  have hcontent : ∀ key, r₁.content? key = r₂.content? key := by
    intro key
    rw [content?_after hr h₁, content?_after hr h₂, hsame key]
  have hkeys : r₁.keys.Perm r₂.keys := by
    refine (List.perm_ext_iff_of_nodup hr₁.keys hr₂.keys).mpr fun key => ?_
    change key ∈ r₁.keys ↔ key ∈ r₂.keys
    rw [mem_keys_iff_content?, mem_keys_iff_content?, hcontent key]
  have hfunction : r₁.content? = r₂.content? := funext hcontent
  refine ⟨hkeys, hcontent, fun name => ?_, fun hadded => ?_⟩
  · -- the same contents, the keys in another order
    have hmatching : (r₁.matching name).Perm (r₂.matching name) := by
      rw [matching_eq hr₁, matching_eq hr₂, hfunction]
      exact ((hkeys.filterMap _).filter _).map _
    exact ⟨hmatching, hmatching.flatMap_right _⟩
  · have heq : r₁.keys = r₂.keys := by
      rw [keys_after h₁, keys_after h₂, hadded]
    refine ⟨heq, fun name => ?_⟩
    rw [matching_eq hr₁, matching_eq hr₂, hfunction, heq]

/-- The pattern that accepts the names with a letter. -/
def Sample.letter (c : Char) : Matcher :=
  ⟨.regex, c.toString, c.toString, {}, fun name => Regex.occurs {} (Regex.sequence [.char c]) name.toList⟩

/-- An actor with an identifier. -/
def Sample.identified (identifier : String) : Actor :=
  ⟨Sample.callable .function [("event", .standard), ("payload", .standard)], 0, identifier⟩

/-- Listening to two letters, with an actor for each that is named for it. The two entries are the second and
the third of the registry. -/
def Sample.twoLetters (c d : Char) : List (Operation Actor) :=
  [.activate (letter c), .activate (letter d), .attach ⟨0, 1⟩ (identified c.toString),
    .attach ⟨0, 2⟩ (identified d.toString)]

/-- The registrations that they are. -/
def Sample.listenedLetters (c d : Char) : List (Registration Actor) :=
  [.listen (letter c), .listen (letter d), .act (letter c).key (identified c.toString),
    .act (letter d).key (identified d.toString)]

/-- A registry that was cleared, in which either of two letters is listened to first. -/
theorem interleavings_agree_letters :
    let past := [(0, .activate (Sample.letter 'a')), (0, .clear)]
    let r : Registry Actor := (Shelf.run past).registry 0
    let calls := fun ops => Hub.targets ((r.after ops).matching "ab") "ab"
    r.registrations? (Sample.twoLetters 'a' 'b') = some (Sample.listenedLetters 'a' 'b') ∧
      r.registrations? (Sample.twoLetters 'b' 'a') = some (Sample.listenedLetters 'b' 'a') ∧
      (∀ key, (Sample.listenedLetters 'a' 'b').filter (·.key = key) =
        (Sample.listenedLetters 'b' 'a').filter (·.key = key)) ∧
      (calls (Sample.twoLetters 'a' 'b')).map (·.2.identifier) = ["a", "b"] ∧
      (calls (Sample.twoLetters 'b' 'a')).map (·.2.identifier) = ["b", "a"] ∧
      (calls (Sample.twoLetters 'a' 'b')).Perm (calls (Sample.twoLetters 'b' 'a')) := by
  intro past r calls
  have h₁ : r.registrations? (Sample.twoLetters 'a' 'b') = some (Sample.listenedLetters 'a' 'b') := rfl
  have h₂ : r.registrations? (Sample.twoLetters 'b' 'a') = some (Sample.listenedLetters 'b' 'a') := rfl
  have hsame : ∀ key, (Sample.listenedLetters 'a' 'b').filter (·.key = key) =
      (Sample.listenedLetters 'b' 'a').filter (·.key = key) := by
    intro key
    have hne : (Sample.letter 'a').key ≠ (Sample.letter 'b').key := by decide +kernel
    by_cases ha : (Sample.letter 'a').key = key
    · have hb : (Sample.letter 'b').key ≠ key := fun hb => hne (ha.trans hb.symm)
      simp [Sample.listenedLetters, Registration.key, ha, hb]
    · simp [Sample.listenedLetters, Registration.key, ha, List.filter_cons]
  have hagree := interleavings_agree past 0 (Sample.twoLetters 'a' 'b') (Sample.twoLetters 'b' 'a') h₁ h₂ hsame
  exact ⟨h₁, h₂, hsame, by decide +kernel, by decide +kernel, (hagree.2.2.1 "ab").2⟩

end Registry

end EventHub
