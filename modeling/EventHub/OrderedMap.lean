/-! # Maps that remember the order of their keys

A map is the list of its bindings in the order in which the keys were first written. Writing to a key
that is present replaces its value and keeps its place.
-/

namespace EventHub

/-- Bindings in the order in which their keys were first written. -/
abbrev OrderedMap (κ : Type) (α : Type u) := List (κ × α)

namespace OrderedMap

variable {κ : Type} {α : Type u} [DecidableEq κ]

/-- The value bound to a key. -/
def find? (m : OrderedMap κ α) (k : κ) : Option α :=
  (List.find? (fun b => b.1 = k) m).map (·.2)

/-- Whether a key is bound. -/
def contains (m : OrderedMap κ α) (k : κ) : Bool := m.any fun b => b.1 = k

/-- Binds a key, in its place if it is bound already and at the end otherwise. -/
def insert (m : OrderedMap κ α) (k : κ) (a : α) : OrderedMap κ α :=
  match m with
  | [] => [(k, a)]
  | b :: rest => if b.1 = k then (k, a) :: rest else b :: insert rest k a

/-- Binds all keys of a second map, one after another. -/
def insertAll (m : OrderedMap κ α) (bindings : OrderedMap κ α) : OrderedMap κ α :=
  bindings.foldl (fun acc b => insert acc b.1 b.2) m

/-- Changes the value of a key, starting from a default when the key is not bound. -/
def adjust (m : OrderedMap κ α) (k : κ) (start : α) (f : α → α) : OrderedMap κ α :=
  insert m k (f ((find? m k).getD start))

/-- A map without one of its keys. -/
def erase (m : OrderedMap κ α) (k : κ) : OrderedMap κ α := m.filter fun b => b.1 ≠ k

/-- The keys in order. -/
def keys (m : OrderedMap κ α) : List κ := m.map (·.1)

/-- The values in the order of their keys. -/
def values (m : OrderedMap κ α) : List α := m.map (·.2)

theorem find?_cons (b : κ × α) (m : OrderedMap κ α) (k : κ) :
    find? (b :: m) k = if b.1 = k then some b.2 else find? m k := by
  by_cases h : b.1 = k <;> simp [find?, h]

/-- Nothing is found under a key that is not there. -/
theorem find?_eq_none {m : OrderedMap κ α} {k : κ} (h : k ∉ keys m) : find? m k = none := by
  unfold find?
  rw [Option.map_eq_none_iff, List.find?_eq_none]
  intro b hb hbk
  exact h (of_decide_eq_true hbk ▸ List.mem_map_of_mem hb)

/-- Nothing is found exactly under the keys that are not there. -/
theorem find?_eq_none_iff {m : OrderedMap κ α} {k : κ} : find? m k = none ↔ k ∉ keys m := by
  refine ⟨fun hnone hk => ?_, find?_eq_none⟩
  obtain ⟨b, hb, rfl⟩ := List.mem_map.mp hk
  unfold find? at hnone
  exact List.find?_eq_none.mp (Option.map_eq_none_iff.mp hnone) b hb (decide_eq_true rfl)

/-- Each binding is found in a map that has each key once. -/
theorem find?_of_mem {m : OrderedMap κ α} (hkeys : (keys m).Nodup) {b : κ × α} (hb : b ∈ m) :
    find? m b.1 = some b.2 := by
  induction m with
  | nil => cases hb
  | cons c rest ih =>
    obtain ⟨hfresh, hrest⟩ := List.nodup_cons.mp hkeys
    rw [find?_cons]
    rcases List.mem_cons.mp hb with rfl | hb
    · rw [if_pos rfl]
    · -- the first key does not come again
      have hmem : b.1 ∈ keys rest := List.mem_map_of_mem hb
      have hcb : c.1 ≠ b.1 := fun e => hfresh (by rwa [← e] at hmem)
      rw [if_neg hcb, ih hrest hb]

/-- After binding a key, this key is found with its new value, and others as before. -/
theorem find?_insert (m : OrderedMap κ α) (k l : κ) (a : α) :
    find? (insert m k a) l = if l = k then some a else find? m l := by
  induction m with
  | nil => by_cases h : k = l <;> simp [insert, find?, h, eq_comm]
  | cons b rest ih =>
    by_cases hb : b.1 = k
    · -- the key is bound here: its value is replaced in place
      by_cases h : l = k
      · simp [insert, find?, hb, h]
      · have hl : ¬ k = l := fun e => h e.symm
        have hbl : ¬ b.1 = l := fun e => h (e ▸ hb)
        simp [insert, find?, hb, h, hl]
    · -- it is bound further on, if at all
      by_cases hbl : b.1 = l
      · have h : ¬ l = k := fun e => hb (hbl.trans e)
        simp [insert, find?, hbl, h]
      · have step : find? (b :: rest) l = find? rest l := by simp [find?, hbl]
        have step' : find? (insert (b :: rest) k a) l = find? (insert rest k a) l := by
          simp [insert, hb, find?, hbl]
        rw [step', ih, step]

/-- Binding a key puts it last, unless it is there already. -/
theorem keys_insert (m : OrderedMap κ α) (k : κ) (a : α) :
    keys (insert m k a) = if k ∈ keys m then keys m else keys m ++ [k] := by
  induction m with
  | nil => simp [insert, keys]
  | cons b rest ih =>
    by_cases hb : b.1 = k
    · simp [insert, keys, hb]
    · have hk : ¬ k = b.1 := fun e => hb e.symm
      simp only [keys] at ih
      by_cases hmem : k ∈ rest.map (·.1) <;> simp [insert, hb, keys, hk, ih, hmem]

/-- Binding a key leaves each key there once. -/
theorem nodup_keys_insert {m : OrderedMap κ α} (h : (keys m).Nodup) (k : κ) (a : α) :
    (keys (insert m k a)).Nodup := by
  rw [keys_insert]
  split
  · exact h
  · rename_i hk
    exact List.nodup_append.mpr ⟨h, List.pairwise_singleton _ k, fun l hl l' hl' e =>
      hk (List.mem_singleton.mp hl' ▸ e ▸ hl)⟩

/-- Binding a key adds this key, and no other. -/
theorem mem_keys_insert {m : OrderedMap κ α} {k l : κ} {a : α} :
    l ∈ keys (insert m k a) ↔ l ∈ keys m ∨ l = k := by
  rw [keys_insert]
  split
  · rename_i hk
    exact ⟨.inl, fun h => h.elim id fun e => e ▸ hk⟩
  · rw [List.mem_append, List.mem_singleton]

/-- Binding the keys of a second map adds these keys, and no others. -/
theorem mem_keys_insertAll {m bindings : OrderedMap κ α} {k : κ} :
    k ∈ keys (insertAll m bindings) ↔ k ∈ keys m ∨ k ∈ keys bindings := by
  induction bindings generalizing m with
  | nil => simp [insertAll, keys]
  | cons b rest ih =>
    have hstep : insertAll m (b :: rest) = insertAll (insert m b.1 b.2) rest := rfl
    rw [hstep, ih, mem_keys_insert, or_assoc]
    exact or_congr_right List.mem_cons.symm

/-- Binding many keys leaves each key there once. -/
theorem nodup_keys_insertAll {m : OrderedMap κ α} (h : (keys m).Nodup) (bindings : OrderedMap κ α) :
    (keys (insertAll m bindings)).Nodup := by
  induction bindings generalizing m with
  | nil => exact h
  | cons b rest ih => exact ih (nodup_keys_insert h b.1 b.2)

/-- Changing all values changes the one that is found. -/
theorem find?_map {β : Type v} (f : α → β) (m : OrderedMap κ α) (k : κ) :
    find? (m.map fun b => (b.1, f b.2)) k = (find? m k).map f := by
  induction m with
  | nil => rfl
  | cons b rest ih =>
    rw [List.map_cons, find?_cons, find?_cons, ih]
    split <;> rfl

/-- Changing all values commutes with binding a key. -/
theorem map_insert {β : Type v} (f : α → β) (m : OrderedMap κ α) (k : κ) (a : α) :
    (insert m k a).map (fun b => (b.1, f b.2)) = insert (m.map fun b => (b.1, f b.2)) k (f a) := by
  induction m with
  | nil => rfl
  | cons b rest ih =>
    by_cases hb : b.1 = k
    · simp [insert, hb]
    · simp only [insert, hb, if_false, List.map_cons, ih]

/-- Binding the keys of a second map, which has each key once: its values win. -/
theorem find?_insertAll {bindings : OrderedMap κ α} (hkeys : (keys bindings).Nodup)
    (m : OrderedMap κ α) (k : κ) :
    find? (insertAll m bindings) k = (find? bindings k).or (find? m k) := by
  induction bindings generalizing m with
  | nil => rfl
  | cons b rest ih =>
    obtain ⟨hfresh, hrest⟩ := List.nodup_cons.mp hkeys
    have hstep : find? (insertAll m (b :: rest)) k =
        (find? rest k).or (find? (insert m b.1 b.2) k) := ih hrest (insert m b.1 b.2)
    rw [hstep, find?_insert, find?_cons]
    by_cases hk : k = b.1
    · -- the first key comes once, so that no later binding replaces it
      subst hk
      rw [find?_eq_none hfresh, if_pos rfl, if_pos rfl]
      rfl
    · rw [if_neg hk, if_neg (Ne.symm hk)]

/-- Binding other keys leaves a key as it is. -/
theorem find?_insertAll_of_notMem {bindings m : OrderedMap κ α} {k : κ} (h : k ∉ keys bindings) :
    find? (insertAll m bindings) k = find? m k := by
  induction bindings generalizing m with
  | nil => rfl
  | cons b rest ih =>
    have hstep : insertAll m (b :: rest) = insertAll (insert m b.1 b.2) rest := rfl
    rw [hstep, ih (List.not_mem_of_not_mem_cons h), find?_insert, if_neg (List.ne_of_not_mem_cons h)]

theorem contains_iff_mem_keys {m : OrderedMap κ α} {k : κ} : m.contains k = true ↔ k ∈ keys m := by
  unfold contains keys
  rw [List.any_eq_true, List.mem_map]
  exact exists_congr fun b => and_congr_right fun _ => decide_eq_true_iff

theorem contains_eq_isSome_find? (m : OrderedMap κ α) (k : κ) :
    contains m k = (find? m k).isSome := by
  unfold contains find?
  rw [Option.isSome_map, List.isSome_find?]

end OrderedMap

end EventHub
