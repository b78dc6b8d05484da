import EventHub.OrderedMap
import Mathlib.Algebra.GroupWithZero.Nat
import Mathlib.Data.List.Induction
import Mathlib.Data.List.Nodup
import Mathlib.Tactic.Common

/-! # Maps written one binding after another

Binding many keys one after another leaves each with its last value, at the place where it came first.
Therefore a map that is collected on its own and then written into another one does the same as its
bindings, written there directly (`OrderedMap.insertAll_insertAll`).
-/

namespace EventHub

/-- The distinct members of a list with one more member. -/
theorem eraseDups_concat {α : Type u} [DecidableEq α] (l : List α) (a : α) :
    (l ++ [a]).eraseDups = if a ∈ l then l.eraseDups else l.eraseDups ++ [a] := by
  rw [List.eraseDups_append]
  by_cases hmem : a ∈ l
  · have hnone : [a].removeAll l = [] := by simpa [List.removeAll] using hmem
    rw [hnone, if_pos hmem, List.eraseDups_nil, List.append_nil]
  · have hone : [a].removeAll l = [a] := by simpa [List.removeAll] using hmem
    rw [hone, if_neg hmem]
    rfl

namespace OrderedMap

variable {κ : Type} {α : Type u} [DecidableEq κ]

theorem insertAll_concat (m bindings : OrderedMap κ α) (b : κ × α) :
    insertAll m (bindings ++ [b]) = insert (insertAll m bindings) b.1 b.2 :=
  List.foldl_concat ..

/-- Of two bindings of one key the second replaces the first. -/
theorem insert_insert (m : OrderedMap κ α) (k : κ) (a b : α) :
    insert (insert m k a) k b = insert m k b := by
  induction m with
  | nil => simp [insert]
  | cons c rest ih => by_cases hc : c.1 = k <;> simp [insert, hc, ih]

/-- A new key comes last. -/
theorem insert_of_notMem {m : OrderedMap κ α} {k : κ} (h : k ∉ keys m) (a : α) :
    insert m k a = m ++ [(k, a)] := by
  induction m with
  | nil => rfl
  | cons c rest ih =>
    have hc : c.1 ≠ k := (List.ne_of_not_mem_cons h).symm
    rw [insert, if_neg hc, ih (List.not_mem_of_not_mem_cons h)]
    rfl

/-- A key that is bound keeps its place, whatever is bound before it is written again. -/
theorem insert_comm {m : OrderedMap κ α} {k l : κ} (hk : k ∈ keys m) (hkl : k ≠ l) (a b : α) :
    insert (insert m l b) k a = insert (insert m k a) l b := by
  induction m with
  | nil => cases hk
  | cons c rest ih =>
    -- the key is bound first here, and the other one comes behind it
    by_cases hc : c.1 = k
    · have hl : c.1 ≠ l := fun e => hkl (hc.symm.trans e)
      simp [insert, hc, hkl]
    · have hrest : k ∈ keys rest := (List.mem_cons.mp hk).resolve_left fun e => hc e.symm
      -- by the induction hypothesis, whether the other key is bound here or further on
      by_cases hl : c.1 = l
      · simp [insert, hl, hkl.symm]
      · simp [insert, hc, hl, ih hrest]

/-- Writing a key again that is already bound may be done before others are bound. -/
theorem insert_insertAll {m bindings : OrderedMap κ α} {k : κ} (hk : k ∈ keys m)
    (hfresh : k ∉ keys bindings) (a : α) :
    insert (insertAll m bindings) k a = insertAll (insert m k a) bindings := by
  induction bindings generalizing m with
  | nil => rfl
  | cons b rest ih =>
    have hkb : k ≠ b.1 := List.ne_of_not_mem_cons hfresh
    calc insert (insertAll (insert m b.1 b.2) rest) k a
        = insertAll (insert (insert m b.1 b.2) k a) rest :=
          ih (mem_keys_insert.mpr (.inl hk)) (List.not_mem_of_not_mem_cons hfresh)
      _ = insertAll (insert (insert m k a) b.1 b.2) rest := by rw [insert_comm hk hkb]

/-- Binding the keys of a map and then one key more, or first the one key more in that map. -/
theorem insertAll_insert {bindings : OrderedMap κ α} (hkeys : (keys bindings).Nodup)
    (m : OrderedMap κ α) (k : κ) (a : α) :
    insertAll m (insert bindings k a) = insert (insertAll m bindings) k a := by
  induction bindings generalizing m with
  | nil => rfl
  | cons b rest ih =>
    obtain ⟨hfresh, hrest⟩ := List.nodup_cons.mp hkeys
    by_cases hb : b.1 = k
    · -- the first key of the second map is the one that is written again
      subst hb
      have hmem : b.1 ∈ keys (insert m b.1 b.2) := mem_keys_insert.mpr (.inr rfl)
      calc insertAll m (insert (b :: rest) b.1 a)
          = insertAll (insert m b.1 a) rest := by simp [insert, insertAll]
        _ = insertAll (insert (insert m b.1 b.2) b.1 a) rest := by rw [insert_insert]
        _ = insert (insertAll (insert m b.1 b.2) rest) b.1 a := (insert_insertAll hmem hfresh a).symm
    · -- it comes later in the second map, or not at all
      calc insertAll m (insert (b :: rest) k a)
          = insertAll (insert m b.1 b.2) (insert rest k a) := by simp [insert, insertAll, hb]
        _ = insert (insertAll (insert m b.1 b.2) rest) k a := ih hrest _

/-- Collecting bindings in a map of their own first makes no difference. -/
theorem insertAll_insertAll {first : OrderedMap κ α} (hkeys : (keys first).Nodup)
    (m bindings : OrderedMap κ α) :
    insertAll m (insertAll first bindings) = insertAll (insertAll m first) bindings := by
  induction bindings generalizing first with
  | nil => rfl
  | cons b rest ih =>
    calc insertAll m (insertAll (insert first b.1 b.2) rest)
        = insertAll (insertAll m (insert first b.1 b.2)) rest := ih (nodup_keys_insert hkeys ..)
      _ = insertAll (insert (insertAll m first) b.1 b.2) rest := by rw [insertAll_insert hkeys]

/-- The last binding of a key decides its value. -/
theorem find?_insertAll_reverse (m bindings : OrderedMap κ α) (k : κ) :
    find? (insertAll m bindings) k = (find? bindings.reverse k).or (find? m k) := by
  induction bindings using List.reverseRecOn with
  | nil => rfl
  | append_singleton rest b ih =>
    rw [insertAll_concat, find?_insert, List.reverse_concat, find?_cons, ih]
    by_cases hk : k = b.1
    · rw [if_pos hk, if_pos hk.symm, Option.some_or]
    · rw [if_neg hk, if_neg (Ne.symm hk)]

/-- What is found from the end is the last binding of its key. -/
theorem find?_reverse_eq_some_iff {m : OrderedMap κ α} {k : κ} {a : α} :
    find? m.reverse k = some a ↔ ∃ before after, m = before ++ (k, a) :: after ∧ k ∉ keys after := by
  constructor
  · intro h
    obtain ⟨⟨l, b⟩, hfind, rfl⟩ := Option.map_eq_some_iff.mp h
    obtain ⟨hl, after, before, heq, hlast⟩ := List.find?_eq_some_iff_append.mp hfind
    obtain rfl : l = k := of_decide_eq_true hl
    -- what stands behind the binding in the reversed map stands before it in the map
    refine ⟨before.reverse, after.reverse, ?_, fun hmem => ?_⟩
    · rw [← List.reverse_reverse m, heq]
      simp
    · obtain ⟨c, hc, hck⟩ := List.mem_map.mp hmem
      simpa [hck] using hlast c (List.mem_reverse.mp hc)
  · rintro ⟨before, after, rfl, hlast⟩
    refine Option.map_eq_some_iff.mpr ⟨(k, a), List.find?_eq_some_iff_append.mpr
      ⟨decide_eq_true rfl, after.reverse, before.reverse, by simp, fun c hc => ?_⟩, rfl⟩
    have hck : c.1 ≠ k := fun e => hlast (e ▸ List.mem_map_of_mem (List.mem_reverse.mp hc))
    simpa using hck

/-- The keys of a map are those that were bound, each where it was bound first. -/
theorem keys_insertAll_nil (bindings : OrderedMap κ α) :
    keys (insertAll [] bindings) = (keys bindings).eraseDups := by
  induction bindings using List.reverseRecOn with
  | nil => rfl
  | append_singleton rest b ih =>
    have hmap : keys (rest ++ [b]) = keys rest ++ [b.1] := List.map_append ..
    rw [insertAll_concat, keys_insert, hmap, eraseDups_concat, ih]
    simp only [List.mem_eraseDups]

/-- Keys that come once and are all new are bound in order. -/
theorem insertAll_of_nodup {m bindings : OrderedMap κ α} (h : (keys (m ++ bindings)).Nodup) :
    insertAll m bindings = m ++ bindings := by
  induction bindings generalizing m with
  | nil => exact (List.append_nil m).symm
  | cons b rest ih =>
    have hsplit : keys (m ++ b :: rest) = keys m ++ b.1 :: keys rest := List.map_append ..
    have hfresh : b.1 ∉ keys m := fun hmem =>
      (List.nodup_append.mp (hsplit ▸ h)).2.2 _ hmem _ List.mem_cons_self rfl
    have hstep : insert m b.1 b.2 = m ++ [b] := insert_of_notMem hfresh b.2
    calc insertAll m (b :: rest) = insertAll (m ++ [b]) rest := by rw [← hstep]; rfl
      _ = m ++ [b] ++ rest := ih (by rwa [List.append_assoc])
      _ = m ++ b :: rest := List.append_assoc ..

theorem mem_of_find? {m : OrderedMap κ α} {k : κ} {a : α} (h : find? m k = some a) : (k, a) ∈ m := by
  obtain ⟨⟨l, b⟩, hfind, rfl⟩ := Option.map_eq_some_iff.mp h
  have hl : l = k := by simpa using List.find?_some hfind
  exact hl ▸ List.mem_of_find?_eq_some hfind

/-- What is found in a map made of two is found in the first, or else in the second. -/
theorem find?_append (m n : OrderedMap κ α) (k : κ) : find? (m ++ n) k = (find? m k).or (find? n k) := by
  induction m with
  | nil => rfl
  | cons b m ih =>
    rw [List.cons_append, find?_cons, find?_cons, ih]
    split <;> rfl

/-- Choosing bindings passes over a key that is not chosen, whatever it is bound to. -/
theorem filter_insert {p : κ × α → Bool} {k : κ} (h : ∀ a, p (k, a) = false) (m : OrderedMap κ α) (a : α) :
    (insert m k a).filter p = m.filter p := by
  induction m with
  | nil => simp [insert, h a]
  | cons b m ih =>
    -- only the binding itself is exchanged, and neither the old nor the new one is chosen
    by_cases hb : b.1 = k
    · have hpb : p b = false := by
        obtain ⟨l, c⟩ := b
        subst hb
        exact h c
      simp [insert, hb, h a, hpb]
    · simp only [insert, hb, if_false, List.filter_cons, ih]

/-- A key is not found in a map that draws its keys from others. -/
theorem find?_eq_none_of_sublist {m : OrderedMap κ α} {names : List κ} (h : (keys m).Sublist names) {k : κ}
    (hk : k ∉ names) : find? m k = none :=
  find?_eq_none fun hmem => hk (h.subset hmem)

/-- Names that are bound where `f` has a value for them. -/
theorem find?_filterMap (f : κ → Option α) (names : List κ) (k : κ) :
    find? (names.filterMap fun name => (f name).map (name, ·)) k = if k ∈ names then f k else none := by
  induction names with
  | nil => rfl
  | cons name names ih =>
    rw [List.filterMap_cons]
    cases hf : f name with
    | none =>
      -- the name has no value, so that the key is found further on or not at all
      refine ih.trans ?_
      by_cases hk : k = name
      · subst hk
        simp [hf]
      · simp [hk]
    | some a =>
      -- the name has a value, and it is found unless the key is another
      refine (find?_cons (name, a) _ k).trans ?_
      by_cases hk : name = k
      · subst hk
        simp [hf]
      · simp [hk, Ne.symm hk, ih]

omit [DecidableEq κ] in
/-- The keys are the names that have a value, in their order. -/
theorem keys_filterMap_sublist (f : κ → Option α) (names : List κ) :
    (keys (names.filterMap fun name => (f name).map (name, ·))).Sublist names := by
  induction names with
  | nil => exact List.Sublist.refl _
  | cons name names ih =>
    rw [List.filterMap_cons]
    cases f name with
    | none => exact ih.cons name
    | some a => exact ih.cons_cons name

/-- Binding a key exchanges its number in the sum. -/
theorem sum_values_insert (m : OrderedMap κ Nat) (k : κ) (a : Nat) :
    (values (insert m k a)).sum + (find? m k).getD 0 = (values m).sum + a := by
  induction m with
  | nil => simp [insert, values, find?]
  | cons b rest ih =>
      by_cases hb : b.1 = k
      · simp [insert, values, find?, hb]
        omega
      · simp only [insert, values, find?, hb, if_false, decide_false, List.map_cons, List.sum_cons,
          List.find?_cons] at ih ⊢
        omega

end OrderedMap

end EventHub
