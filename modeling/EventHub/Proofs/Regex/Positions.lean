import EventHub.Regex.Search
import Mathlib.Data.List.Infix

/-! # Positions reached in a search

A search carries sets of positions. For a step that acts on each position by itself, given by a relation
`R`, the positions found by `reach` are those at the end of a path of `R`:

* `mem_reach`: up to `n` steps are paths of length at most `n`, although a step is taken from new
  positions only;
* `mem_ends_star`: an unbounded repetition of a single character runs over a piece of the text in which
  every character is admitted.
-/

namespace EventHub.Regex

/-- `j` is at the end of a path of `R` that begins at `i` and has `k` steps. -/
def Path (R : Nat → Nat → Prop) : Nat → Nat → Nat → Prop
  | 0, i, j => i = j
  | k + 1, i, j => ∃ m, R i m ∧ Path R k m j

variable {R : Nat → Nat → Prop} {step : List Nat → List Nat}

/-- A set that no step leaves holds the end of every path that begins in it. -/
theorem mem_of_path {seen : List Nat} (hclosed : ∀ y ∈ seen, ∀ z, R y z → z ∈ seen) :
    ∀ k i j, i ∈ seen → Path R k i j → j ∈ seen := by
  intro k
  induction k with
  | zero =>
      intro i j hi hpath
      exact hpath ▸ hi
  | succ k ih =>
      rintro i j hi ⟨m, hR, hpath⟩
      exact ih m j (hclosed i hi m hR) hpath

/-- What holds of the positions seen and of the frontier at every stage of `reach`: a step that leaves
the positions seen begins in the frontier. -/
structure Explored (R : Nat → Nat → Prop) (seen frontier : List Nat) : Prop where
  frontier_seen : ∀ y ∈ frontier, y ∈ seen
  closed : ∀ y ∈ seen, y ∉ frontier → ∀ z, R y z → z ∈ seen

/-- One stage: what is new becomes the frontier. -/
theorem Explored.advance {seen frontier : List Nat} (hstep : ∀ s j, j ∈ step s ↔ ∃ i ∈ s, R i j)
    (h : Explored R seen frontier) :
    Explored R (seen ++ (step frontier).filter fun i => !seen.contains i)
      ((step frontier).filter fun i => !seen.contains i) := by
  constructor
  · intro y hy
    exact List.mem_append_right _ hy
  · intro y hy hnew z hR
    -- the positions seen that are not on the frontier now were there before, or were on it
    have hseen : y ∈ seen := by
      rcases List.mem_append.mp hy with hy | hy
      · exact hy
      · exact absurd hy hnew
    by_cases hz : z ∈ seen
    · exact List.mem_append_left _ hz
    · have hfront : y ∈ frontier := by
        by_contra hout
        exact hz (h.closed y hseen hout z hR)
      have hmem : z ∈ step frontier := (hstep frontier z).mpr ⟨y, hfront, hR⟩
      exact List.mem_append_right _ (by simp [hmem, hz])

/-- By induction on the stages: what is reached from explored positions is at the end of a path with as many
steps at most. -/
theorem mem_reach_of_explored (hstep : ∀ s j, j ∈ step s ↔ ∃ i ∈ s, R i j) (j : Nat) :
    ∀ n seen frontier, Explored R seen frontier →
      (j ∈ reach step n seen frontier ↔ ∃ i ∈ seen, ∃ k ≤ n, Path R k i j) := by
  intro n
  induction n with
  | zero =>
      intro seen frontier _
      simp [reach, Path]
  | succ n ih =>
      intro seen frontier h
      rw [reach]
      by_cases hfresh : ((step frontier).filter fun i => !seen.contains i).isEmpty = true
      · -- nothing is new, so that no path leaves the positions seen
        have hclosed : ∀ y ∈ seen, ∀ z, R y z → z ∈ seen := by
          intro y hy z hR
          by_cases hfront : y ∈ frontier
          · have hmem : z ∈ step frontier := (hstep frontier z).mpr ⟨y, hfront, hR⟩
            simp only [List.isEmpty_iff, List.filter_eq_nil_iff] at hfresh
            simpa using hfresh z hmem
          · exact h.closed y hy hfront z hR
        simp only [hfresh, if_true]
        constructor
        · intro hj
          exact ⟨j, hj, 0, Nat.zero_le _, rfl⟩
        · rintro ⟨i, hi, k, -, hpath⟩
          exact mem_of_path hclosed k i j hi hpath
      · simp only [hfresh]
        rw [if_neg (by simp), ih _ _ (h.advance hstep)]
        constructor
        · rintro ⟨i, hi, k, hk, hpath⟩
          rcases List.mem_append.mp hi with hi | hi
          · exact ⟨i, hi, k, by omega, hpath⟩
          · -- a new position is one step away from the frontier, and the path is longer by this step
            obtain ⟨m, hm, hR⟩ := (hstep frontier i).mp (List.mem_filter.mp hi).1
            exact ⟨m, h.frontier_seen m hm, k + 1, by omega, i, hR, hpath⟩
        · rintro ⟨i, hi, k, hk, hpath⟩
          cases k with
          | zero => exact ⟨i, List.mem_append_left _ hi, 0, Nat.zero_le _, hpath⟩
          | succ k =>
              -- the first step ends in the positions seen or among the new ones
              obtain ⟨m, hR, hpath⟩ := hpath
              refine ⟨m, ?_, k, by omega, hpath⟩
              by_cases hm : m ∈ seen
              · exact List.mem_append_left _ hm
              · have hfront : i ∈ frontier := by
                  by_contra hout
                  exact hm (h.closed i hi hout m hR)
                have hmem : m ∈ step frontier := (hstep frontier m).mpr ⟨i, hfront, hR⟩
                exact List.mem_append_right _ (by simp [hmem, hm])

theorem mem_reach (hstep : ∀ s j, j ∈ step s ↔ ∃ i ∈ s, R i j) (n : Nat) (s : List Nat) (j : Nat) :
    j ∈ reach step n s s ↔ ∃ i ∈ s, ∃ k ≤ n, Path R k i j :=
  mem_reach_of_explored hstep j n s s ⟨fun _ hy => hy, fun _ hy hout => absurd hy hout⟩

/-! ## Runs of single characters -/

/-- The positions behind a single character. -/
theorem mem_after (text : List Char) (p : Char → Bool) (s : List Nat) (j : Nat) :
    j ∈ after text.toArray p s ↔ ∃ i ∈ s, text[i]?.any p = true ∧ j = i + 1 := by
  simp only [after, List.mem_filterMap, List.getElem?_toArray]
  constructor
  · rintro ⟨i, hi, h⟩
    split at h
    · exact ⟨i, hi, ‹_›, by simpa using h.symm⟩
    · simp at h
  · rintro ⟨i, hi, hp, rfl⟩
    exact ⟨i, hi, by simp [hp]⟩

/-- Paths of single characters with a property are the pieces of the text that have it throughout. -/
theorem path_iff_piece (text : List Char) (p : Char → Bool) (k i j : Nat) :
    Path (fun i j => text[i]?.any p = true ∧ j = i + 1) k i j ↔
      ∃ piece, piece <+: text.drop i ∧ (∀ c ∈ piece, p c = true) ∧ piece.length = k
        ∧ j = i + k := by
  induction k generalizing i with
  | zero =>
      constructor
      · intro h
        exact ⟨[], List.nil_prefix, by simp, rfl, h.symm⟩
      · rintro ⟨_, _, _, _, h⟩
        exact h.symm
  | succ k ih =>
      constructor
      · rintro ⟨m, ⟨hp, rfl⟩, hpath⟩
        -- one character, and then the rest of the piece
        obtain ⟨piece, hpre, hall, hlen, hj⟩ := (ih (i + 1)).mp hpath
        obtain ⟨c, hc, hpc⟩ : ∃ c, text[i]? = some c ∧ p c = true := by
          simpa [Option.any_eq_true] using hp
        obtain ⟨hi, rfl⟩ := List.getElem?_eq_some_iff.mp hc
        refine ⟨text[i] :: piece, ?_, ?_, by simp [hlen], by omega⟩
        · rw [List.drop_eq_getElem_cons hi]
          exact (List.cons_prefix_cons).mpr ⟨rfl, hpre⟩
        · intro x hx
          rcases List.mem_cons.mp hx with rfl | hx
          · exact hpc
          · exact hall x hx
      · rintro ⟨piece, hpre, hall, hlen, hj⟩
        -- the piece has a first character, and what is behind it is shorter
        cases piece with
        | nil => simp at hlen
        | cons c piece =>
            obtain ⟨rest, hrest⟩ := hpre
            have hc : text[i]? = some c := by
              rw [← Nat.add_zero i, ← List.getElem?_drop, ← hrest]
              simp
            have hdrop : text.drop (i + 1) = piece ++ rest := by
              rw [← List.tail_drop, ← hrest]
              simp
            refine ⟨i + 1, ⟨by simp [hc, hall c (by simp)], rfl⟩, (ih (i + 1)).mpr ?_⟩
            refine ⟨piece, ?_, fun x hx => hall x (by simp [hx]), by simpa using hlen, by omega⟩
            rw [hdrop]
            exact List.prefix_append piece rest

/-- An expression that takes one character with the property `p`. -/
def TakesOne (m : Modes) (text : List Char) (r : Regex) (p : Char → Bool) : Prop :=
  ∀ s, ends m text.toArray r s = after text.toArray p s

/-- The end of one character with the property. -/
theorem mem_ends_one {m : Modes} {text : List Char} {r : Regex} {p : Char → Bool}
    (h : TakesOne m text r p) (s : List Nat) (j : Nat) :
    j ∈ ends m text.toArray r s ↔
      ∃ i ∈ s, ∃ c, [c] <+: text.drop i ∧ p c = true ∧ j = i + 1 := by
  rw [h s, mem_after]
  refine exists_congr fun i => and_congr_right fun _ => ?_
  have hone := path_iff_piece text p 1 i j
  constructor
  · intro hi
    obtain ⟨piece, hpre, hall, hlen, hj⟩ := hone.mp ⟨j, hi, rfl⟩
    obtain ⟨c, rfl⟩ := List.length_eq_one_iff.mp hlen
    exact ⟨c, hpre, hall c (by simp), hj⟩
  · rintro ⟨c, hpre, hc, hj⟩
    obtain ⟨m, hm, rfl⟩ := hone.mpr ⟨[c], hpre, by simpa using hc, rfl, hj⟩
    exact hm

/-- The ends of a run of such characters, the empty run among them. -/
theorem mem_ends_star {m : Modes} {text : List Char} {r : Regex} {p : Char → Bool}
    (h : TakesOne m text r p) (s : List Nat) (j : Nat) :
    j ∈ ends m text.toArray (.repeated 0 none r) s ↔
      ∃ i ∈ s, ∃ piece, piece <+: text.drop i ∧ (∀ c ∈ piece, p c = true)
        ∧ j = i + piece.length := by
  have hstep : ∀ s j, j ∈ ends m text.toArray r s ↔
      ∃ i ∈ s, text[i]?.any p = true ∧ j = i + 1 := by
    intro s j
    rw [h s, mem_after]
  simp only [ends, steps, extraSteps]
  rw [mem_reach hstep]
  refine exists_congr fun i => and_congr_right fun _ => ?_
  constructor
  · rintro ⟨k, -, hpath⟩
    obtain ⟨piece, hpre, hall, rfl, hj⟩ := (path_iff_piece text p k i j).mp hpath
    exact ⟨piece, hpre, hall, hj⟩
  · rintro ⟨piece, hpre, hall, hj⟩
    -- no piece is longer than the text, so that the bound on the steps is never felt
    have hlen : piece.length ≤ text.length + 1 := by
      have hle := hpre.length_le
      simp at hle
      omega
    exact ⟨piece.length, by simpa using hlen,
      (path_iff_piece text p _ i j).mpr ⟨piece, hpre, hall, rfl, hj⟩⟩

end EventHub.Regex
