import EventHub.Proofs.Registry.History
import EventHub.Proofs.Run.Outcome

/-! # Effects

Every change of the world is one of a few effects. `Performs P act w` says that `act`, when it begins in
the world `w`, leaves a world that comes about by effects that all satisfy `P`, however it ends. Sequences,
attempts, scopes and repetitions perform the effects of their parts, so that one lemma for each operation
says what the operation can do; what an operation does not touch, and what the journal gains, follows from
the effects (`Performs.journal`).
-/

namespace EventHub

/-- A change of the world. -/
inductive Effect where
  | note (o : Occurrence)
  | issue
  | countRun (serial : Nat)
  | keep (name : String) (k : Kept)
  | registry (n : Nat) (op : Registry.Operation Actor)
  | tally (n : Nat) (t : Tally)
  | record (n : Nat) (what : Counted) (name : String)
  | sizes (n registry : Nat)
  | reset (n : Nat)
  | hub (n : Nat) (h : Hub)
  | context (c : Fields)
  | correlation
  | settle (m : Machine) (c : Settings.Configuration)
  | machine (m : Machine)
  | sink (s? : Option Log.Sink)
  | level (l : Int)

/-- The kinds of effects. Occurrences that tell a depth are of a kind of their own. -/
inductive Effect.Kind where
  | dispatched
  | answered
  | ran
  | warned
  | logged
  | issue
  | countRun
  | keep
  | registry
  | tally
  | record
  | sizes
  | reset
  | hub
  | context
  | correlation
  | settle
  | machine
  | sink
  | level
deriving DecidableEq

/-- How deeply nested an occurrence of a dispatch is; others do not tell. -/
def Occurrence.depth? : Occurrence → Option Nat
  | .published depth .. => some depth
  | .called depth .. => some depth
  | .failed depth .. => some depth
  | .handled depth .. => some depth
  | _ => none

namespace Effect

/-- The kind of an occurrence. -/
@[simp]
def kindOf : Occurrence → Kind
  | .answered _ => .answered
  | .ran .. => .ran
  | .warned _ => .warned
  | .logged _ => .logged
  | _ => .dispatched

/-- The kind of an effect. -/
@[simp]
def kind : Effect → Kind
  | note o => kindOf o
  | issue => .issue
  | countRun _ => .countRun
  | keep .. => .keep
  | registry .. => .registry
  | tally .. => .tally
  | record .. => .record
  | sizes .. => .sizes
  | reset _ => .reset
  | hub .. => .hub
  | context _ => .context
  | correlation => .correlation
  | settle .. => .settle
  | machine _ => .machine
  | sink _ => .sink
  | level _ => .level

/-- The world after an effect. -/
def apply (w : World) : Effect → World
  | note o => w.note o
  | issue => { w with issued := w.issued + 1 }
  | countRun serial =>
    { w with runs := w.runs.insert serial ((w.runs.find? serial).getD 0 + 1) }
  | keep name k => { w with kept := w.kept.insert name k }
  | registry n op => w.setRegistry n ((w.registry n).carryOut op).1
  | tally n t => w.setTally n t
  | record n what name => w.setTally n ((w.tally n).record what name)
  | sizes n reg =>
    let r := w.registry reg
    w.setTally n ((w.tally n).noteSizes r.size r.activeCount r.actorCount)
  | reset n => w.setTally n (w.tally n).reset
  | hub n h => w.setHub n h
  | context c => { w with context := c }
  | correlation => { w with correlations := w.correlations + 1 }
  | settle m c => { w with machine := m, configuration := c }
  | machine m => { w with machine := m }
  | sink s? => { w with sink? := s? }
  | level l => { w with logLevel := l }

/-- The occurrence that an effect enters into the journal. -/
def occurrence? : Effect → Option Occurrence
  | note o => some o
  | _ => none

theorem journal_apply (w : World) (e : Effect) :
    (e.apply w).journal = e.occurrence?.toList ++ w.journal := by
  cases e <;> rfl

end Effect

/-- The world after effects, from first to last. -/
def World.after (w : World) (es : List Effect) : World := es.foldl Effect.apply w

namespace World

@[simp] theorem after_nil (w : World) : w.after [] = w := rfl

@[simp] theorem after_cons (w : World) (e : Effect) (es : List Effect) :
    w.after (e :: es) = (e.apply w).after es := rfl

theorem after_append (w : World) (es fs : List Effect) :
    w.after (es ++ fs) = (w.after es).after fs := List.foldl_append

/-- By induction on the effects: the journal gains the occurrences that they enter. -/
theorem journal_after (w : World) (es : List Effect) :
    (w.after es).journal = (es.filterMap Effect.occurrence?).reverse ++ w.journal := by
  induction es generalizing w with
  | nil => rfl
  | cons e es ih =>
      rw [after_cons, ih, Effect.journal_apply]
      cases he : e.occurrence? <;> simp [he]

/-- What happened since an earlier world, from first to last. -/
def since (w v : World) : List Occurrence :=
  (v.journal.take (v.journal.length - w.journal.length)).reverse

theorem since_eq {w v : World} {os : List Occurrence} (h : v.journal = os.reverse ++ w.journal) :
    w.since v = os := by
  simp [since, h]

end World

namespace Run

variable {α β : Type} {P Q : Effect → Prop} {w : World}

/-- Beginning in `w`, an action leaves a world that comes about by effects that satisfy `P`. -/
def Performs (P : Effect → Prop) (act : Run α) (w : World) : Prop :=
  ∃ es : List Effect, (∀ e ∈ es, P e) ∧ (outcome act w).2 = w.after es

namespace Performs

theorem mono {act : Run α} (h : Performs P act w) (hPQ : ∀ e, P e → Q e) : Performs Q act w := by
  obtain ⟨es, hes, hw⟩ := h
  exact ⟨es, fun e he => hPQ e (hes e he), hw⟩

theorem pure (a : α) : Performs P (Pure.pure a : Run α) w := ⟨[], by simp, rfl⟩

theorem throw (s : Stop) : Performs P (throw s : Run α) w := ⟨[], by simp, rfl⟩

theorem raise (f : Fault) : Performs P (raise f : Run α) w := ⟨[], by simp, rfl⟩

/-- The effects of a sequence are those of its parts, as far as it gets. -/
theorem bind {act : Run α} {f : α → Run β} (h : Performs P act w)
    (hf : ∀ a v, outcome act w = (.ok a, v) → Performs P (f a) v) : Performs P (act >>= f) w := by
  obtain ⟨es, hes, hw⟩ := h
  rcases hact : outcome act w with ⟨a | s, v⟩
  · -- the second part is not reached
    refine ⟨es, hes, ?_⟩
    rw [outcome_bind_error hact, ← hw, hact]
  · -- it goes on from the world that the effects of the first part make
    obtain ⟨fs, hfs, hv⟩ := hf s v hact
    refine ⟨es ++ fs, ?_, ?_⟩
    · intro e he
      rcases List.mem_append.mp he with he | he
      · exact hes e he
      · exact hfs e he
    · have hmid : v = w.after es := by rw [← hw, hact]
      rw [outcome_bind_ok hact, hv, World.after_append, ← hmid]

/-- What follows a fault is not reached. -/
theorem raise_bind (f : Fault) (g : α → Run β) : Performs P (Run.raise f >>= g) w :=
  bind (raise f) fun _ _ h => by simp at h

theorem get_bind {f : World → Run β} (h : Performs P (f w) w) : Performs P (get >>= f) w := h

theorem update {f : World → World} (es : List Effect) (hes : ∀ e ∈ es, P e) (hf : f w = w.after es) :
    Performs P (modify f : Run PUnit) w := ⟨es, hes, hf⟩

theorem store {v : World} (es : List Effect) (hes : ∀ e ∈ es, P e) (hv : v = w.after es) :
    Performs P (set v : Run PUnit) w := ⟨es, hes, hv⟩

theorem enter (o : Occurrence) (ho : P (.note o)) : Performs P (note o) w :=
  update [.note o] (by simpa using ho) rfl

/-- An attempt has the effects of what it attempts, also if this fails. -/
theorem attempt {act : Run α} (h : Performs P act w) : Performs P (attempt act) w := by
  obtain ⟨es, hes, hw⟩ := h
  refine ⟨es, hes, ?_⟩
  rw [outcome_attempt, ← hw]
  -- a fault, nesting that is too deep, or a result
  rcases outcome act w with ⟨(f | _) | a, v⟩ <;> rfl

/-- A scope changes the context when it is entered and when it is left. -/
theorem inScope {fields : Fields} {act : Run α} (hcorrelation : P .correlation)
    (hcontext : ∀ c, P (.context c)) (h : Performs P act (w.inside fields)) :
    Performs P (inScope fields act) w := by
  obtain ⟨es, hes, hw⟩ := h
  -- a new identifier, the context inside, the effects of the action, the context outside
  refine ⟨.correlation :: .context (w.inside fields).context :: (es ++ [.context w.context]), ?_, ?_⟩
  · intro e he
    simp only [List.mem_cons, List.mem_append, List.not_mem_nil, or_false] at he
    rcases he with rfl | rfl | he | rfl
    · exact hcorrelation
    · exact hcontext _
    · exact hes e he
    · exact hcontext _
  · rw [outcome_inScope, hw]
    simp only [World.after_cons, World.after_append, World.after_nil]
    rfl

/-- By induction on the list: its actions have their effects one after another. -/
theorem forM {xs : List β} {f : β → Run PUnit} (h : ∀ x ∈ xs, ∀ v, Performs P (f x) v) :
    Performs P (xs.forM f) w := by
  induction xs generalizing w with
  | nil => exact pure _
  | cons x xs ih =>
      refine bind (h x (by simp) w) fun _ v _ => ih fun y hy => ?_
      exact h y (List.mem_cons_of_mem x hy)

/-- By induction on the list: so have those whose results are collected. -/
theorem mapM {γ : Type} {xs : List β} {f : β → Run γ} (h : ∀ x ∈ xs, ∀ v, Performs P (f x) v) :
    Performs P (xs.mapM f) w := by
  induction xs generalizing w with
  | nil =>
      rw [List.mapM_nil]
      exact pure _
  | cons x xs ih =>
      rw [List.mapM_cons]
      refine bind (h x (by simp) w) fun _ v _ => bind (ih fun y hy => ?_) fun _ _ _ => pure _
      exact h y (List.mem_cons_of_mem x hy)

/-- What an action enters into the journal. -/
theorem journal {act : Run α} (h : Performs P act w) :
    ∃ os : List Occurrence, (∀ o ∈ os, P (.note o)) ∧
      (outcome act w).2.journal = os.reverse ++ w.journal := by
  obtain ⟨es, hes, hw⟩ := h
  refine ⟨es.filterMap Effect.occurrence?, ?_, by rw [hw, World.journal_after]⟩
  intro o ho
  obtain ⟨e, he, heo⟩ := List.mem_filterMap.mp ho
  cases e with
  | note o' =>
      obtain rfl : o' = o := by simpa [Effect.occurrence?] using heo
      exact hes _ he
  | _ => simp [Effect.occurrence?] at heo

/-- The journal afterwards is what happened since, on top of the journal before. -/
theorem journal_since {act : Run α} (h : Performs P act w) :
    (outcome act w).2.journal = (w.since (outcome act w).2).reverse ++ w.journal := by
  obtain ⟨os, _, hos⟩ := h.journal
  rw [World.since_eq hos, hos]

theorem since {act : Run α} (h : Performs P act w) : ∀ o ∈ w.since (outcome act w).2, P (.note o) := by
  obtain ⟨os, hP, hos⟩ := h.journal
  rw [World.since_eq hos]
  exact hP

end Performs

/-! ## Kinds -/

/-- An action has effects of some kinds only. -/
abbrev Does (ks : List Effect.Kind) (act : Run α) (w : World) : Prop :=
  Performs (fun e => e.kind ∈ ks) act w

namespace Performs

variable {ks ls : List Effect.Kind}

theorem widen {act : Run α} (h : Does ks act w) (hsub : ks.all ls.contains = true) : Does ls act w :=
  h.mono fun e he => by simpa using List.all_eq_true.mp hsub e.kind he

/-- An action without effects leaves the world as it was. -/
theorem left_eq {act : Run α} (h : Does [] act w) : (outcome act w).2 = w := by
  obtain ⟨es, hes, hw⟩ := h
  have hnil : es = [] := List.eq_nil_iff_forall_not_mem.mpr fun e he => by simpa using hes e he
  rw [hw, hnil, World.after_nil]

/-- A change that is one effect. -/
theorem effect {f : World → World} (e : Effect) (hf : f w = e.apply w)
    (he : ks.contains e.kind = true) : Does ks (modify f : Run PUnit) w :=
  update [e] (by simpa using he) hf

/-- A change that is a few effects. -/
theorem effects {v : World} (es : List Effect) (hv : v = w.after es)
    (hes : es.all (fun e => ks.contains e.kind) = true) : Does ks (set v : Run PUnit) w :=
  store es (by simpa using hes) hv

theorem occurrence (o : Occurrence) (ho : ks.contains (Effect.kindOf o) = true) : Does ks (note o) w :=
  enter o (by simpa using ho)

end Performs

end Run

end EventHub
