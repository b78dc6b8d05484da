import EventHub.Settings.Flatten
import EventHub.Proofs.OrderedMap

/-! # The flat form of nested settings

A nested mapping is a list of leaves, each with the path of rendered keys that leads to it. Flattening
writes the leaves one after another under their joined paths (`flattenBindings_eq`), so that what a key
has is decided by the leaves that spell it, and by nothing else.

Where no key holds a dot and the keys of each mapping differ once rendered, a key of the flat form tells
the path it was joined from. Grafting the leaves one after another then gives the mapping back
(`grafted_leaves`), which shows that flattening has lost nothing.

Main statement: `flatten_faithful`.
-/

namespace EventHub.Settings

open OrderedMap (insert insertAll keys find?)

/-! ## The leaves of a nested mapping -/

/-- A value that is not a mapping, with the rendered keys on the way to it, outermost first. -/
structure Leaf where
  path : List String
  value : Value

/-- A leaf seen from one mapping further out. -/
def Leaf.under (key : String) (l : Leaf) : Leaf := { l with path := key :: l.path }

mutual

/-- The leaves of a value, from left to right: a value that is not a mapping is its only leaf. -/
def leavesOf : Value → List Leaf
  | .dict inner => leaves inner
  | v => [⟨[], v⟩]

/-- The leaves of the bindings of a mapping, from left to right. -/
def leaves : List (Value × Value) → List Leaf
  | [] => []
  | (k, v) :: rest => (leavesOf v).map (Leaf.under k.plain) ++ leaves rest

end

/-- The key of a leaf in the flat form: its path joined by dots, behind `start`. -/
def Leaf.key (start : String) (l : Leaf) : String := start ++ ".".intercalate l.path

/-- A leaf as a binding of the flat form. -/
def Leaf.entry (start : String) (l : Leaf) : String × Value := (l.key start, l.value)

/-- The path of a leaf starts with a key of the mapping. -/
theorem path_eq_cons {d : List (Value × Value)} {l : Leaf} (h : l ∈ leaves d) :
    ∃ k ∈ d.map (·.1.plain), ∃ p, l.path = k :: p := by
  induction d with
  | nil => cases h
  | cons b rest ih =>
    rcases List.mem_append.mp h with h | h
    · obtain ⟨l', -, rfl⟩ := List.mem_map.mp h
      exact ⟨b.1.plain, List.mem_cons_self, l'.path, rfl⟩
    · obtain ⟨k, hk, p, hp⟩ := ih h
      exact ⟨k, List.mem_cons_of_mem _ hk, p, hp⟩

theorem path_ne_nil {d : List (Value × Value)} {l : Leaf} (h : l ∈ leaves d) : l.path ≠ [] := by
  obtain ⟨k, -, p, hp⟩ := path_eq_cons h
  rw [hp]
  nofun

/-- The key that a leaf is under belongs to what its own key stands behind. -/
theorem entry_under {l : Leaf} (h : l.path ≠ []) (start key : String) :
    (l.under key).entry start = l.entry (start ++ key ++ ".") := by
  obtain ⟨p, v⟩ := l
  cases p with
  | nil => exact absurd rfl h
  | cons k p =>
    unfold Leaf.entry Leaf.key Leaf.under
    rw [String.intercalate_cons_cons, ← String.append_assoc, ← String.append_assoc]

/-- The leaves of an inner mapping have the same keys whether they are seen from outside, or from inside
behind a longer path. -/
theorem entries_under (inner : List (Value × Value)) (start key : String) :
    ((leaves inner).map (Leaf.under key)).map (Leaf.entry start) =
      (leaves inner).map (Leaf.entry (start ++ key ++ ".")) := by
  rw [List.map_map]
  exact List.map_congr_left fun l hl => entry_under (path_ne_nil hl) start key

/-- **Flattening writes the leaves, one after another, each under its joined path.** -/
theorem flattenBindings_eq (start : String) (d : List (Value × Value)) (flat : Fields) :
    flattenBindings start d flat = insertAll flat ((leaves d).map (Leaf.entry start)) := by
  refine flattenBindings.induct
    (fun key v flat => ∀ start k, key = start ++ k →
      flattenValue key v flat = insertAll flat (((leavesOf v).map (Leaf.under k)).map (Leaf.entry start)))
    (fun start d flat => flattenBindings start d flat = insertAll flat ((leaves d).map (Leaf.entry start)))
    ?inner ?leaf ?done ?more start d flat
  case inner =>
    -- the inner mapping is flattened into a mapping of its own first, which makes no difference
    rintro key inner flat ih start k rfl
    have hnil : (keys ([] : Fields)).Nodup := List.nodup_nil
    rw [flattenValue, ih, leavesOf, entries_under]
    exact OrderedMap.insertAll_insertAll hnil ..
  case leaf =>
    rintro key v flat hv start k rfl
    rw [flattenValue.eq_2 _ _ _ hv, leavesOf.eq_2 _ hv]
    simp [Leaf.under, Leaf.entry, Leaf.key, insertAll]
  case done => exact fun start flat => rfl
  case more =>
    intro start k v rest flat ihv ihrest
    rw [flattenBindings, ihrest, ihv start k.plain rfl, leaves, List.map_append]
    exact (List.foldl_append ..).symm

theorem flatten_eq (start : String) (d : List (Value × Value)) :
    flatten start d = insertAll [] ((leaves d).map (Leaf.entry start)) :=
  flattenBindings_eq start d []

/-- The value of a key is that of the last leaf which spells it. -/
theorem find?_flatten_eq_some_iff (start : String) (d : List (Value × Value)) (key : String) (v : Value) :
    find? (flatten start d) key = some v ↔
      ∃ before l after, leaves d = before ++ l :: after ∧ l.key start = key ∧ l.value = v ∧
        ∀ l' ∈ after, l'.key start ≠ key := by
  have hnone : find? ([] : Fields) key = none := rfl
  rw [flatten_eq, OrderedMap.find?_insertAll_reverse, hnone, Option.or_none,
    OrderedMap.find?_reverse_eq_some_iff]
  -- the last binding with the key is that of the last leaf
  constructor
  · rintro ⟨before, after, heq, hlast⟩
    obtain ⟨before, rest, hd, rfl, hrest⟩ := List.map_eq_append_iff.mp heq
    obtain ⟨l, after, rfl, hl, rfl⟩ := List.map_eq_cons_iff.mp hrest
    refine ⟨before, l, after, hd, congrArg (·.1) hl, congrArg (·.2) hl, fun l' hl' e => hlast ?_⟩
    rw [← e]
    exact List.mem_map_of_mem (List.mem_map_of_mem hl')
  · rintro ⟨before, l, after, hd, rfl, rfl, hlast⟩
    refine ⟨before.map (Leaf.entry start), after.map (Leaf.entry start), by rw [hd]; simp [Leaf.entry], ?_⟩
    intro hmem
    obtain ⟨b, hb, hkey⟩ := List.mem_map.mp hmem
    obtain ⟨l', hl', rfl⟩ := List.mem_map.mp hb
    exact hlast l' hl' hkey

/-- The keys are the joined paths, each where it is spelled first. -/
theorem keys_flatten (start : String) (d : List (Value × Value)) :
    keys (flatten start d) = ((leaves d).map (Leaf.key start)).eraseDups := by
  rw [flatten_eq, OrderedMap.keys_insertAll_nil]
  exact congrArg List.eraseDups (List.map_map ..)

/-! ## Rebuilding a mapping from its flat form -/

mutual

/-- The bindings that can be added to: those of a mapping. -/
def bindingsOf : Option Value → List (Value × Value)
  | some (.dict bindings) => bindings
  | _ => []

/-- A mapping with further bindings; without any it stays as it is, also when there is none. -/
def extended (t : Option Value) (more : List (Value × Value)) : Option Value :=
  if more = [] then t else some (.dict (bindingsOf t ++ more))

/-- A value with its keys rendered and without mappings that hold no leaf; nothing if it is such a
mapping itself. -/
def pruned : Value → Option Value
  | .dict inner => extended none (prunedBindings inner)
  | v => some v

/-- The bindings of a mapping that lead to a leaf, with their keys rendered. -/
def prunedBindings : List (Value × Value) → List (Value × Value)
  | [] => []
  | (k, v) :: rest => (pruned v).toList.map (Value.text k.plain, ·) ++ prunedBindings rest

end

mutual

/-- Keys hold no dot and differ from the other keys of their mapping once rendered, at every depth. -/
def Unambiguous : Value → Prop
  | .dict inner => (inner.map (·.1.plain)).Nodup ∧ UnambiguousBindings inner
  | _ => True

/-- No key of a mapping holds a dot, and the values are unambiguous. -/
def UnambiguousBindings : List (Value × Value) → Prop
  | [] => True
  | (k, v) :: rest => '.' ∉ k.plain.toList ∧ Unambiguous v ∧ UnambiguousBindings rest

end

/-- Changes the value of a key among bindings with rendered keys, at the end if the key is new. -/
def adjustText (key : String) (change : Option Value → Value) : List (Value × Value) → List (Value × Value)
  | [] => [(.text key, change none)]
  | b :: rest => if b.1.isText key then (b.1, change (some b.2)) :: rest else b :: adjustText key change rest

/-- Puts a value at a path, under the mappings that are there already. -/
def graft : List String → Value → Option Value → Value
  | [], v, _ => v
  | key :: p, v, t => .dict (adjustText key (graft p v) (bindingsOf t))

/-- Puts leaves in their places one after another. -/
def grafted (ls : List Leaf) (t : Option Value) : Option Value :=
  ls.foldl (fun t l => some (graft l.path l.value t)) t

/-- The path that a key of the flat form spells. -/
def pathUnder (start key : String) : List String :=
  (List.splitOn '.' (key.toList.drop start.length)).map String.ofList

/-- The nested mapping that a flat form spells, nothing if it has no key. -/
def rebuild (start : String) (flat : Fields) : Option Value :=
  grafted (flat.map fun b => ⟨pathUnder start b.1, b.2⟩) none

/-- The path of a leaf is told by its key, as no key on the way holds a dot. -/
theorem pathUnder_key {start : String} {l : Leaf} (hne : l.path ≠ []) (hdots : ∀ k ∈ l.path, '.' ∉ k.toList) :
    pathUnder start (l.key start) = l.path := by
  have hdrop : (l.key start).toList.drop start.length = ['.'].intercalate (l.path.map String.toList) := by
    unfold Leaf.key
    rw [String.toList_append, String.toList_intercalate, ← String.length_toList, List.drop_left]
    rfl
  have hparts : ∀ cs ∈ l.path.map String.toList, '.' ∉ cs := by
    intro cs hcs
    obtain ⟨k, hk, rfl⟩ := List.mem_map.mp hcs
    exact hdots k hk
  unfold pathUnder
  rw [hdrop, List.splitOn_intercalate '.' hparts (by simpa using hne), List.map_map]
  exact (List.map_congr_left fun k _ => String.ofList_toList).trans (List.map_id _)

/-- The keys on the way to a leaf of an unambiguous mapping hold no dot. -/
theorem UnambiguousBindings.no_dots (d : List (Value × Value)) :
    UnambiguousBindings d → ∀ l ∈ leaves d, ∀ k ∈ l.path, '.' ∉ k.toList := by
  refine leaves.induct
    (fun v => Unambiguous v → ∀ l ∈ leavesOf v, ∀ k ∈ l.path, '.' ∉ k.toList)
    (fun d => UnambiguousBindings d → ∀ l ∈ leaves d, ∀ k ∈ l.path, '.' ∉ k.toList)
    ?inner ?leaf ?done ?more d
  case inner => exact fun inner ih h => ih h.2
  case leaf =>
    intro v hv _ l hl k hk
    rw [leavesOf.eq_2 _ hv] at hl
    simp_all
  case done => nofun
  case more =>
    rintro k v rest ihv ihrest ⟨hk, hv, hrest⟩ l hl key hkey
    rcases List.mem_append.mp hl with hl | hl
    · obtain ⟨l', hl', rfl⟩ := List.mem_map.mp hl
      rcases List.mem_cons.mp hkey with rfl | hkey
      · exact hk
      · exact ihv hv l' hl' key hkey
    · exact ihrest hrest l hl key hkey

/-- Distinct leaves of an unambiguous mapping have distinct paths. -/
theorem UnambiguousBindings.nodup_paths (d : List (Value × Value)) :
    UnambiguousBindings d → (d.map (·.1.plain)).Nodup → ((leaves d).map (·.path)).Nodup := by
  -- by the structure of the mapping: an inner mapping, a leaf, no bindings, one binding more
  refine leaves.induct (fun v => Unambiguous v → ((leavesOf v).map (·.path)).Nodup)
    (fun d => UnambiguousBindings d → (d.map (·.1.plain)).Nodup → ((leaves d).map (·.path)).Nodup)
    ?inner ?leaf ?done ?more d
  case inner => exact fun inner ih h => ih h.2 h.1
  case leaf =>
    intro v hv _
    rw [leavesOf.eq_2 _ hv]
    exact List.nodup_singleton _
  case done => exact fun _ _ => List.nodup_nil
  case more =>
    rintro k v rest ihv ihrest ⟨-, hv, hrest⟩ hkeys
    obtain ⟨hfresh, hkeys⟩ := List.nodup_cons.mp hkeys
    have hunder : ((leavesOf v).map (Leaf.under k.plain)).map (·.path) =
        ((leavesOf v).map (·.path)).map (k.plain :: ·) := by simp [Leaf.under]
    rw [leaves, List.map_append, hunder]
    refine List.nodup_append.mpr
      ⟨(ihv hv).map (List.cons_injective), ihrest hrest hkeys, fun p hp q hq e => ?_⟩
    -- the later leaves lie under other keys
    obtain ⟨p, -, rfl⟩ := List.mem_map.mp hp
    obtain ⟨l, hl, rfl⟩ := List.mem_map.mp hq
    obtain ⟨key, hkey, p', hp'⟩ := path_eq_cons hl
    have hhead : k.plain = key := (List.cons.inj (e.trans hp')).1
    rw [← hhead] at hkey
    exact hfresh hkey

/-- Distinct leaves of an unambiguous mapping have distinct keys in the flat form. -/
theorem Unambiguous.nodup_keys {d : List (Value × Value)} (h : Unambiguous (.dict d)) (start : String) :
    ((leaves d).map (Leaf.key start)).Nodup := by
  have hpaths : ((leaves d).map (Leaf.key start)).map (pathUnder start) = (leaves d).map (·.path) := by
    rw [List.map_map]
    exact List.map_congr_left fun l hl => pathUnder_key (path_ne_nil hl) (h.2.no_dots d l hl)
  exact List.Nodup.of_map (pathUnder start) (hpaths ▸ h.2.nodup_paths d h.1)

/-! ### Grafting -/

/-- A new key is bound at the end. -/
theorem adjustText_of_fresh {key : String} {bs : List (Value × Value)}
    (h : ∀ b ∈ bs, b.1.isText key = false) (change : Option Value → Value) :
    adjustText key change bs = bs ++ [(.text key, change none)] := by
  induction bs with
  | nil => rfl
  | cons b rest ih =>
    rw [adjustText, h b List.mem_cons_self, ih fun c hc => h c (List.mem_cons_of_mem b hc)]
    rfl

/-- The last key is changed in its place. -/
theorem adjustText_last {key : String} {bs : List (Value × Value)}
    (h : ∀ b ∈ bs, b.1.isText key = false) (v : Value) (change : Option Value → Value) :
    adjustText key change (bs ++ [(.text key, v)]) = bs ++ [(.text key, change (some v))] := by
  induction bs with
  | nil => simp [adjustText, Value.isText]
  | cons b rest ih =>
    rw [List.cons_append, adjustText, h b List.mem_cons_self, ih fun c hc => h c (List.mem_cons_of_mem b hc)]
    rfl

/-- The bindings of a mapping with further ones. -/
theorem bindingsOf_extended (t : Option Value) (more : List (Value × Value)) :
    bindingsOf (extended t more) = bindingsOf t ++ more := by
  unfold extended
  split
  · simp_all
  · rfl

/-- Further bindings may be added at once. -/
theorem extended_append (t : Option Value) (more later : List (Value × Value)) :
    extended (extended t more) later = extended t (more ++ later) := by
  by_cases hlater : later = []
  · simp [extended, hlater]
  · have hsome (u : Option Value) : extended u later = some (.dict (bindingsOf u ++ later)) := if_neg hlater
    rw [hsome, bindingsOf_extended, List.append_assoc]
    exact (if_neg (List.append_ne_nil_of_right_ne_nil more hlater)).symm

theorem grafted_append (ls ls' : List Leaf) (t : Option Value) :
    grafted (ls ++ ls') t = grafted ls' (grafted ls t) :=
  List.foldl_append ..

/-- Leaves under a new key: they are grafted among themselves, and the result is bound at the end. -/
theorem grafted_under {key : String} {t : Option Value}
    (h : ∀ b ∈ bindingsOf t, b.1.isText key = false) (ls : List Leaf) :
    grafted (ls.map (Leaf.under key)) t = extended t ((grafted ls none).toList.map (.text key, ·)) := by
  induction ls using List.reverseRecOn with
  | nil => rfl
  | append_singleton ls l ih =>
    have hstep : grafted (ls ++ [l]) none = some (graft l.path l.value (grafted ls none)) :=
      grafted_append ..
    rw [List.map_append, grafted_append, ih, hstep]
    -- the first leaf opens the key, and each further one is grafted into what is there
    cases grafted ls none with
    | none =>
      have hnew := adjustText_of_fresh h (graft l.path l.value)
      simp [grafted, extended, Leaf.under, graft, hnew]
    | some v =>
      have hlast := adjustText_last h v (graft l.path l.value)
      have hthere : bindingsOf (some (.dict (bindingsOf t ++ [(.text key, v)]))) =
          bindingsOf t ++ [(.text key, v)] := rfl
      simp [grafted, extended, Leaf.under, graft, hthere, hlast]

/-- **The leaves of an unambiguous mapping, grafted one after another, give the mapping back**: pruned,
behind the bindings that were there before. -/
theorem grafted_leaves (d : List (Value × Value)) :
    UnambiguousBindings d → (d.map (·.1.plain)).Nodup →
      ∀ t, (∀ b ∈ bindingsOf t, ∀ k ∈ d.map (·.1.plain), b.1.isText k = false) →
        grafted (leaves d) t = extended t (prunedBindings d) := by
  refine leaves.induct (fun v => Unambiguous v → grafted (leavesOf v) none = pruned v)
    (fun d => UnambiguousBindings d → (d.map (·.1.plain)).Nodup →
      ∀ t, (∀ b ∈ bindingsOf t, ∀ k ∈ d.map (·.1.plain), b.1.isText k = false) →
        grafted (leaves d) t = extended t (prunedBindings d))
    ?inner ?leaf ?done ?more d
  case inner => exact fun inner ih h => ih h.2 h.1 none nofun
  case leaf =>
    intro v hv _
    rw [leavesOf.eq_2 _ hv, pruned.eq_2 _ hv]
    rfl
  case done => exact fun _ _ t _ => rfl
  case more =>
    rintro k v rest ihv ihrest ⟨-, hv, hrest⟩ hkeys t ht
    obtain ⟨hfresh, hkeys⟩ := List.nodup_cons.mp hkeys
    rw [leaves, grafted_append, grafted_under (fun b hb => ht b hb _ List.mem_cons_self), ihv hv,
      prunedBindings, ← extended_append]
    refine ihrest hrest hkeys _ fun b hb key hkey => ?_
    -- what is there now are the earlier bindings and the one under `k`, which does not come again
    rw [bindingsOf_extended] at hb
    rcases List.mem_append.mp hb with hb | hb
    · exact ht b hb key (List.mem_cons_of_mem _ hkey)
    · obtain ⟨v', -, rfl⟩ := List.mem_map.mp hb
      exact decide_eq_false fun e => hfresh (e ▸ hkey)

/-- An unambiguous mapping is rebuilt from its flat form, pruned. -/
theorem Unambiguous.rebuild_flatten {d : List (Value × Value)} (h : Unambiguous (.dict d)) (start : String) :
    rebuild start (flatten start d) = pruned (.dict d) := by
  have hnodup : (keys ([] ++ (leaves d).map (Leaf.entry start))).Nodup := by
    rw [List.nil_append]
    unfold keys
    rw [List.map_map]
    exact h.nodup_keys start
  have hback : ((leaves d).map (Leaf.entry start)).map (fun b => Leaf.mk (pathUnder start b.1) b.2) =
      leaves d := by
    rw [List.map_map]
    refine (List.map_congr_left fun l hl => ?_).trans (List.map_id _)
    exact congrArg (Leaf.mk · l.value) (pathUnder_key (path_ne_nil hl) (h.2.no_dots d l hl))
  calc rebuild start (flatten start d)
      = grafted (leaves d) none := by
        unfold rebuild
        rw [flatten_eq, OrderedMap.insertAll_of_nodup hnodup, List.nil_append, hback]
    _ = pruned (.dict d) := grafted_leaves d h.2 h.1 none nofun

/-- **Flattening loses nothing but what it overwrites.** A key of the flat form has the value of the last
leaf, from left to right and at any depth, whose path spells it; the keys are the paths of the leaves in the
order in which each is spelled first. When no key holds a dot and the keys of each mapping differ once they
are rendered, no two leaves meet, and the flat form tells the mapping: it is rebuilt with its keys rendered
and without the inner mappings that hold no leaf. -/
theorem flatten_faithful (start : String) (d : List (Value × Value)) :
    (∀ key v, find? (flatten start d) key = some v ↔
      ∃ before l after, leaves d = before ++ l :: after ∧ l.key start = key ∧ l.value = v ∧
        ∀ l' ∈ after, l'.key start ≠ key) ∧
    keys (flatten start d) = ((leaves d).map (Leaf.key start)).eraseDups ∧
    (Unambiguous (.dict d) →
      ((leaves d).map (Leaf.key start)).Nodup ∧ rebuild start (flatten start d) = pruned (.dict d)) :=
  ⟨find?_flatten_eq_some_iff start d, keys_flatten start d,
    fun h => ⟨h.nodup_keys start, h.rebuild_flatten start⟩⟩

/-- A mapping with a number among its keys, an empty inner mapping and a list for a leaf is told by its flat
form. -/
theorem flatten_faithful_nested :
    Unambiguous (.dict [(.text "log", .dict [(.int 1, .list [.none]), (.text "void", .dict [])]),
      (.text "debug", .bool true)]) ∧
    rebuild "app." (flatten "app." [(.text "log", .dict [(.int 1, .list [.none]), (.text "void", .dict [])]),
      (.text "debug", .bool true)]) =
      some (.dict [(.text "log", .dict [(.text "1", .list [.none])]), (.text "debug", .bool true)]) := by
  have h : Unambiguous (.dict [(.text "log", .dict [(.int 1, .list [.none]), (.text "void", .dict [])]),
      (.text "debug", .bool true)]) := by
    refine ⟨by decide +kernel, by decide +kernel, ⟨by decide +kernel, by decide +kernel, ?_⟩,
      by decide +kernel, trivial, trivial⟩
    exact ⟨trivial, by decide +kernel, ⟨List.nodup_nil, trivial⟩, trivial⟩
  exact ⟨h, ((flatten_faithful "app." _).2.2 h).2.trans rfl⟩

/-- Below, `a.b` is spelled by a path of two keys and by one key with a dot: the later leaf has its value, at
the place of the first. -/
example :
    flatten "" [(.text "a", .dict [(.text "b", .int 1), (.text "c", .none)]), (.text "a.b", .int 2)] =
      [("a.b", .int 2), ("a.c", .none)] := by rfl

end EventHub.Settings
