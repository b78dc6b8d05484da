import EventHub.Proofs.Tally.History
import Mathlib.Data.List.DropRight
import Mathlib.Data.List.Perm.Subperm

/-! # Bounded counters stay exact

Counters that record and are reset in any order. What they hold depends on what was recorded since the last
reset alone (`follows_run`): a name among the first distinct ones has a count of its own, all others share
one bucket, and a key is there only with a count. So the number of keys is bounded, whatever names come
(`Follows.keys_subset`).

Main statement: `counts_after_run`.
-/

namespace EventHub

namespace Tally

/-! ## Runs -/

/-- What is done to counters. -/
inductive Operation where
  | record (what : Counted) (name : String)
  | noteSizes (entries active actors : Int)
  | reset

/-- Carries out an operation. -/
def carryOut (t : Tally) : Operation → Tally
  | .record what name => t.record what name
  | .noteSizes entries active actors => t.noteSizes entries active actors
  | .reset => t.reset

/-- Carries out operations from first to last. -/
def run (t : Tally) (ops : List Operation) : Tally := ops.foldl carryOut t

namespace Operation

/-- Whether an operation forgets what was recorded. -/
def isReset : Operation → Bool
  | .reset => true
  | _ => false

/-- What an operation records. -/
def recorded? : Operation → Option (Counted × String)
  | .record what name => some (what, name)
  | _ => none

end Operation

/-- What was recorded since the last reset, from first to last. -/
def sinceReset (ops : List Operation) : List (Counted × String) :=
  (ops.rtakeWhile fun op => !op.isReset).filterMap Operation.recorded?

/-- One more operation comes last. -/
theorem run_concat (t : Tally) (ops : List Operation) (op : Operation) :
    t.run (ops ++ [op]) = (t.run ops).carryOut op := by
  unfold run
  rw [List.foldl_append]
  rfl

/-- A reset forgets, and any other operation may record. -/
theorem sinceReset_concat (ops : List Operation) (op : Operation) :
    sinceReset (ops ++ [op]) = if op.isReset then [] else sinceReset ops ++ op.recorded?.toList := by
  unfold sinceReset
  by_cases h : op.isReset
  · rw [List.rtakeWhile_concat_neg _ _ _ (by simp [h]), if_pos h, List.filterMap_nil]
  · rw [List.rtakeWhile_concat_pos _ _ _ (by simp [h]), if_neg h, List.filterMap_append]
    cases hop : op.recorded? <;> simp [hop]

/-! ## What a run leaves -/

/-- No operation changes the limit. -/
theorem limit_carryOut (t : Tally) (op : Operation) : (t.carryOut op).limit = t.limit := by
  cases op with
  | record what name => exact limit_record
  | noteSizes entries active actors => rfl
  | reset => rfl

/-- Each operation keeps the counters exact. -/
theorem Follows.carryOut {t : Tally} {ops : List Operation} (h : t.Follows (sinceReset ops))
    (op : Operation) : (t.carryOut op).Follows (sinceReset (ops ++ [op])) := by
  rw [sinceReset_concat]
  cases op with
  | record what name => exact h.record what name
  | noteSizes entries active actors =>
      have hsame : sinceReset ops ++ (Operation.noteSizes entries active actors).recorded?.toList =
          sinceReset ops := List.append_nil _
      exact hsame.symm ▸ h.resized _
  | reset => exact follows_empty _

/-- **Counters follow what was recorded since the last reset.** -/
theorem follows_run (limit : Nat) (ops : List Operation) :
    ((run { limit := limit } ops).Follows (sinceReset ops)) ∧
      (run { limit := limit } ops).limit = limit := by
  induction ops using List.reverseRecOn with
  | nil => exact ⟨follows_empty limit, rfl⟩
  | append_singleton ops op ih =>
      rw [run_concat]
      exact ⟨ih.1.carryOut op, (limit_carryOut _ op).trans ih.2⟩

/-- A record adds a key that is not there, or none. -/
theorem nodup_keys_record {t : Tally} {what : Counted} {name : String} (other : Counted)
    (h : (OrderedMap.keys (t.counts other)).Nodup) :
    (OrderedMap.keys ((t.record what name).counts other)).Nodup := by
  rw [counts_record]
  split
  · exact OrderedMap.nodup_keys_insert h _ _
  · exact h

/-- No key is there twice. -/
theorem nodup_keys_run (limit : Nat) (ops : List Operation) (what : Counted) :
    (OrderedMap.keys ((run { limit := limit } ops).counts what)).Nodup := by
  induction ops using List.reverseRecOn with
  | nil => cases what <;> exact List.nodup_nil
  | append_singleton ops op ih =>
      rw [run_concat]
      cases op with
      | record other name => exact nodup_keys_record what ih
      | noteSizes entries active actors => cases what <;> exact ih
      | reset => cases what <;> exact List.nodup_nil

section Keys

variable {t : Tally} {h : List (Counted × String)}

/-- How often something was recorded that counts under a key: for a tracked name under itself, and for all
others under the shared key. -/
theorem recorded_eq (tracked : List String) (h : List (Counted × String)) (what : Counted) (key : String) :
    recorded tracked h what key =
      (if key ∈ tracked then h.countP fun e => e.1 = what ∧ e.2 = key else 0) +
        if key = overflowName then h.countP fun e => e.1 = what ∧ e.2 ∉ tracked else 0 := by
  unfold recorded
  induction h with
  | nil => simp
  | cons e h ih =>
      rw [List.countP_cons, List.countP_cons, List.countP_cons, ih]
      unfold home
      by_cases htracked : e.2 ∈ tracked
      · -- the name counts under itself, and nothing is shared
        by_cases hkey : e.2 = key
        · subst hkey
          simp only [htracked, if_true, and_true, not_true_eq_false, and_false, decide_false]
          split <;> simp
          omega
        · simp [htracked, hkey]
      · -- the name shares the key of the others
        by_cases hkey : key = overflowName
        · subst hkey
          by_cases hin : overflowName ∈ tracked
          · have hne : e.2 ≠ overflowName := fun heq => htracked (heq ▸ hin)
            simp [htracked, hin, hne]
            omega
          · simp [htracked, hin]
        · have hne : e.2 = key → key ∉ tracked := fun heq => heq ▸ htracked
          by_cases hin : key ∈ tracked
          · have hother : e.2 ≠ key := fun heq => hne heq hin
            simp [htracked, hkey, Ne.symm hkey, hin, hother]
          · simp [htracked, hkey, Ne.symm hkey, hin]

/-- Each key is that of a tracked name or the shared one. -/
theorem Follows.keys_subset (ht : t.Follows h) (what : Counted) :
    OrderedMap.keys (t.counts what) ⊆ overflowName :: t.tracked := by
  intro key hkey
  by_contra hout
  obtain ⟨hother, htracked⟩ := not_or.mp (List.mem_cons.not.mp hout)
  -- nothing counts under any other key
  have hzero : recorded t.tracked h what key = 0 := by
    rw [recorded_eq, if_neg htracked, if_neg hother]
  have hnone : (t.counts what).find? key = none := (ht.count what key).trans (if_pos hzero)
  exact OrderedMap.find?_eq_none_iff.mp hnone hkey

/-- There is one key more than tracked names at most. -/
theorem Follows.length_keys_le (ht : t.Follows h) (what : Counted)
    (hkeys : (OrderedMap.keys (t.counts what)).Nodup) :
    (OrderedMap.keys (t.counts what)).length ≤ t.limit + 1 := by
  have htracked : t.tracked.length ≤ t.limit := by
    rw [ht.tracked]
    exact List.length_take_le ..
  have hle := (hkeys.subperm (ht.keys_subset what)).length_le
  rw [List.length_cons] at hle
  omega

end Keys

/-- **Bounded counters stay exact.** Counters with a limit of at least one can be made. After any records and
resets, the counts of one kind tell what was recorded since the last reset: under the key of a name among the
first distinct ones, as many as the limit, how often that name was; under the shared key also how often all
other names were; and no key is there for nothing. So the sum of the counts is the number of records of
their kind, and there is at most one key more than the limit. -/
theorem counts_after_run {limit : Nat} (hlimit : 1 ≤ limit) :
    ∃ t, new? limit = some t ∧ ∀ ops what,
      let h := sinceReset ops
      let names := firstNames limit h
      let counts := (t.run ops).snapshot.counts what
      (∀ key,
        let number := (if key ∈ names then h.countP fun e => e.1 = what ∧ e.2 = key else 0) +
          if key = overflowName then h.countP fun e => e.1 = what ∧ e.2 ∉ names else 0
        counts.find? key = if number = 0 then none else some (number : Int)) ∧
      counts.keys.Nodup ∧ totalOf counts = (h.countP fun e => e.1 = what : Nat) ∧
      counts.keys.length ≤ limit + 1 := by
  refine ⟨{ limit := limit }, ?_, fun ops what => ?_⟩
  · unfold new?
    rw [if_neg (by omega), Int.toNat_natCast]
  · obtain ⟨hfollows, heq⟩ := follows_run limit ops
    have hnodup := nodup_keys_run limit ops what
    have hlength := hfollows.length_keys_le what hnodup
    have htracked := hfollows.tracked
    rw [heq] at hlength htracked
    -- numbers are shown as integers, under the same keys
    have hkeys : ∀ c : Counts, OrderedMap.keys (c.map fun b => (b.1, (b.2 : Int))) = OrderedMap.keys c := by
      intro c
      unfold OrderedMap.keys
      rw [List.map_map]
      rfl
    dsimp only
    refine ⟨fun key => ?_, ?_, ?_, ?_⟩
    · rw [counts_snapshot, ← htracked, ← recorded_eq]
      have hmap := OrderedMap.find?_map (fun n : Nat => (n : Int)) ((run { limit := limit } ops).counts what) key
      rw [hmap, hfollows.count]
      split <;> rfl
    · rw [counts_snapshot, hkeys]
      exact hnodup
    · rw [totalOf_snapshot, hfollows.total]
    · rw [counts_snapshot, hkeys]
      exact hlength

/-- Two names are tracked since the reset, and one of them is that of the shared key; the other names count
under it too. -/
theorem counts_after_run_shared :
    1 ≤ 2 ∧ ∃ t, new? 2 = some t ∧
      let counts := (t.run [.record .publish "z", .reset, .record .call "a", .record .publish "<other>",
        .record .publish "b", .record .publish "a", .record .publish "c"]).snapshot.published
      counts.find? "<other>" = some 3 ∧ counts.find? "a" = some 1 ∧ counts.find? "b" = none ∧
        totalOf counts = 4 := by
  obtain ⟨t, ht, hcounts⟩ := @counts_after_run 2 (by decide)
  obtain ⟨hfind, -, htotal, -⟩ := hcounts [.record .publish "z", .reset, .record .call "a",
    .record .publish "<other>", .record .publish "b", .record .publish "a", .record .publish "c"] .publish
  exact ⟨by decide, t, ht, hfind "<other>", hfind "a", hfind "b", htotal⟩

end Tally

end EventHub
