import EventHub.Tally.Report
import EventHub.Proofs.OrderedMap

/-! # The history of counters

Counters are determined by what was recorded since they were made or reset. `Tally.Follows` says so: the
tracked names are the first distinct names of the history, as many as fit; each key counts what was
recorded for the names that have their home under it; and the sums lose nothing. Recording keeps it
(`Follows.record`), because a name that is tracked later than others takes nothing from the shared bucket:
as long as there is room, the bucket is empty.
-/

namespace EventHub

namespace Tally

theorem find?_bump (c : Counts) (key other : String) :
    (Counts.bump c key).find? other = if other = key then some ((c.find? key).getD 0 + 1) else c.find? other :=
  OrderedMap.find?_insert ..

/-- One record more in all. -/
theorem sum_values_bump (c : Counts) (key : String) :
    (OrderedMap.values (Counts.bump c key)).sum = (OrderedMap.values c).sum + 1 := by
  have hinsert : (OrderedMap.values (Counts.bump c key)).sum + (c.find? key).getD 0 =
      (OrderedMap.values c).sum + ((c.find? key).getD 0 + 1) := OrderedMap.sum_values_insert ..
  omega

/-! ## What a history tells -/

/-- The first distinct names that were recorded, as many as a limit allows. -/
def firstNames (limit : Nat) (h : List (Counted × String)) : List String :=
  (h.map (·.2)).eraseDups.take limit

/-- The key under which a name counts when some names are tracked. -/
def home (tracked : List String) (name : String) : String :=
  if name ∈ tracked then name else overflowName

/-- How often something was recorded that counts under a key. -/
def recorded (tracked : List String) (h : List (Counted × String)) (what : Counted) (key : String) : Nat :=
  h.countP fun e => e.1 = what ∧ home tracked e.2 = key

/-- What holds of counters after records, from first to last. -/
structure Follows (t : Tally) (h : List (Counted × String)) : Prop where
  tracked : t.tracked = firstNames t.limit h
  count : ∀ what key, (t.counts what).find? key =
    if recorded t.tracked h what key = 0 then none else some (recorded t.tracked h what key)
  total : ∀ what, (OrderedMap.values (t.counts what)).sum = h.countP fun e => e.1 = what

theorem follows_empty (limit : Nat) : Follows { limit := limit } [] where
  tracked := by simp [firstNames]
  count := fun what key => by cases what <;> simp [counts, recorded, OrderedMap.find?]
  total := fun what => by cases what <;> simp [counts, OrderedMap.values]

/-! ## One more record -/

variable {t : Tally} {h : List (Counted × String)} {what : Counted} {name : String}

/-- A new name is tracked while there is room. -/
theorem firstNames_concat (limit : Nat) (h : List (Counted × String)) (what : Counted) (name : String) :
    firstNames limit (h ++ [(what, name)]) =
      if name ∈ firstNames limit h then firstNames limit h
      else if (firstNames limit h).length < limit then firstNames limit h ++ [name]
      else firstNames limit h := by
  have hdistinct : ((h ++ [(what, name)]).map (·.2)).eraseDups =
      if name ∈ h.map (·.2) then (h.map (·.2)).eraseDups else (h.map (·.2)).eraseDups ++ [name] := by
    rw [List.map_append]
    exact eraseDups_concat ..
  have hmem : name ∈ h.map (·.2) ↔ name ∈ (h.map (·.2)).eraseDups := List.mem_eraseDups.symm
  unfold firstNames
  rw [hdistinct]
  generalize (h.map (·.2)).eraseDups = names at hmem ⊢
  -- there is room, and every name is tracked
  by_cases hroom : names.length < limit
  · have htake : names.take limit = names := List.take_of_length_le (Nat.le_of_lt hroom)
    rw [htake]
    by_cases hin : name ∈ names
    · simp [hmem, hin, htake]
    · have hlonger : (names ++ [name]).take limit = names ++ [name] :=
        List.take_of_length_le (by rw [List.length_append]; exact hroom)
      simp [hmem, hin, hroom, hlonger]
  · -- there is no room, and nothing is tracked any more
    have hfull : ¬ (names.take limit).length < limit := by
      rw [List.length_take]
      omega
    have hprefix : (names ++ [name]).take limit = names.take limit :=
      List.take_append_of_le_length (by omega)
    rw [if_neg hfull, ite_self]
    split
    · rfl
    · exact hprefix

theorem tracked_record : (t.record what name).tracked = (t.bucket name).2 := by
  unfold record
  cases what <;> rfl

theorem limit_record : (t.record what name).limit = t.limit := by
  unfold record
  cases what <;> rfl

theorem counts_record (other : Counted) :
    (t.record what name).counts other =
      if other = what then Counts.bump (t.counts other) (t.bucket name).1 else t.counts other := by
  cases what <;> cases other <;> rfl

/-- The bucket of a name is its home among the names that are tracked then. -/
theorem bucket_eq (t : Tally) (name : String) :
    (t.bucket name).1 = home (t.bucket name).2 name := by
  unfold bucket home
  by_cases hmem : name ∈ t.tracked
  · simp [hmem]
  · by_cases hroom : t.tracked.length < t.limit <;> simp [hmem, hroom]

/-- Earlier records keep their homes. -/
theorem Follows.recorded_bucket (ht : Follows t h) (name : String) (what : Counted) (key : String) :
    recorded (t.bucket name).2 h what key = recorded t.tracked h what key := by
  unfold bucket
  by_cases hmem : name ∈ t.tracked
  · rw [if_pos hmem]
  · rw [if_neg hmem]
    by_cases hroom : t.tracked.length < t.limit
    · -- while there is room, all names are tracked
      rw [if_pos hroom]
      have hall : ∀ e ∈ h, e.2 ∈ t.tracked := by
        intro e he
        have hnames : e.2 ∈ (h.map (·.2)).eraseDups := List.mem_eraseDups.mpr (List.mem_map_of_mem he)
        rw [ht.tracked] at hroom ⊢
        unfold firstNames at hroom ⊢
        rw [List.length_take] at hroom
        rwa [List.take_of_length_le (by omega)]
      unfold recorded
      refine List.countP_congr fun e he => ?_
      simp [home, hall e he]
    · rw [if_neg hroom]

/-- One more record counts under its own key. -/
theorem recorded_concat (tracked : List String) (h : List (Counted × String)) (what other : Counted)
    (name key : String) :
    recorded tracked (h ++ [(what, name)]) other key =
      recorded tracked h other key + if what = other ∧ home tracked name = key then 1 else 0 := by
  unfold recorded
  rw [List.countP_append, List.countP_singleton]
  simp

/-- **One more record.** -/
theorem Follows.record (ht : Follows t h) (what : Counted) (name : String) :
    Follows (t.record what name) (h ++ [(what, name)]) where
  tracked := by
    rw [tracked_record, limit_record, firstNames_concat, ← ht.tracked]
    unfold bucket
    split
    · rfl
    · split <;> rfl
  count := fun other key => by
    rw [counts_record, tracked_record, recorded_concat, ht.recorded_bucket, ← bucket_eq]
    have hcount := ht.count other
    by_cases hwhat : other = what
    · subst hwhat
      rw [if_pos rfl, find?_bump, hcount, hcount]
      by_cases hkey : key = (t.bucket name).1
      · subst hkey
        -- the first record under the key, or one more
        by_cases hzero : recorded t.tracked h other (t.bucket name).1 = 0 <;> simp [hzero]
      · simp [hkey, Ne.symm hkey]
    · rw [if_neg hwhat, hcount]
      simp [Ne.symm hwhat]
  total := fun other => by
    have htotal := ht.total other
    rw [counts_record, List.countP_append, List.countP_singleton]
    by_cases hwhat : other = what
    · subst hwhat
      rw [if_pos rfl, sum_values_bump]
      simpa using htotal
    · rw [if_neg hwhat]
      simpa [Ne.symm hwhat] using htotal

/-- A tracked name has a key of its own, unless it is the name of the shared bucket. -/
theorem Follows.count_of_tracked (ht : Follows t h) (what : Counted) (hname : name ∈ t.tracked)
    (hother : name ≠ overflowName) :
    ((t.counts what).find? name).getD 0 = h.countP fun e => e.1 = what ∧ e.2 = name := by
  -- no other name shares the key
  have hhome : ∀ other : String, home t.tracked other = name ↔ other = name := by
    intro other
    unfold home
    constructor
    · intro heq
      split at heq
      · exact heq
      · exact absurd heq.symm hother
    · rintro rfl
      exact if_pos hname
  have hrecorded : recorded t.tracked h what name = h.countP fun e => e.1 = what ∧ e.2 = name := by
    unfold recorded
    simp only [hhome]
  rw [ht.count what name, ← hrecorded]
  split <;> simp_all

/-- Noting sizes records nothing. -/
theorem Follows.resized (ht : Follows t h) (sizes : Sizes) : Follows { t with sizes := sizes } h where
  tracked := ht.tracked
  count := fun what key => by
    have hcount := ht.count what key
    cases what <;> exact hcount
  total := fun what => by
    have htotal := ht.total what
    cases what <;> exact htotal

/-! ## Snapshots -/

end Tally

/-- The counts of one kind. -/
def Snapshot.counts (s : Snapshot) : Counted → OrderedMap String Int
  | .publish => s.published
  | .call => s.called
  | .failure => s.failed

namespace Tally

theorem counts_snapshot (t : Tally) (what : Counted) :
    t.snapshot.counts what = (t.counts what).map fun (k, n) => (k, (n : Int)) := by
  cases what <;> rfl

/-- A key that is not there counts as zero. -/
theorem find?_snapshot (t : Tally) (what : Counted) (key : String) :
    ((t.snapshot.counts what).find? key).getD 0 = (((t.counts what).find? key).getD 0 : Nat) := by
  rw [counts_snapshot]
  induction t.counts what with
  | nil => rfl
  | cons b rest ih =>
      by_cases hb : b.1 = key
      · simp [OrderedMap.find?, hb]
      · simpa [OrderedMap.find?, hb] using ih

/-- The sum of the counts that are shown. -/
theorem totalOf_snapshot (t : Tally) (what : Counted) :
    totalOf (t.snapshot.counts what) = ((OrderedMap.values (t.counts what)).sum : Nat) := by
  rw [counts_snapshot]
  unfold totalOf
  rw [← List.sum_eq_foldl]
  induction t.counts what with
  | nil => rfl
  | cons b rest ih =>
      simp only [OrderedMap.values, List.map_cons, List.sum_cons] at ih ⊢
      omega

end Tally

end EventHub
