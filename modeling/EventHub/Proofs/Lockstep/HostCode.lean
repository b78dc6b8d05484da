import EventHub.Proofs.Lockstep.Commands

/-! # Host code that behaves the same in two runs

`Swap.Tasks` says of host code in two runs that it decides the same in both: it has the same commands carried
out, but for the payload that it hands on, and ends the same. Nothing is asked of what the library does
meanwhile, and nothing of host code that does not run: a decision counts where both runs come to it, and
host code that runs during a command is compared at the same place in both.

Main statement: host code that behaves the same, and whose commands go in lockstep, ends alike
(`Swap.Alike.ends`).
-/

namespace EventHub

open Run

/-! ## What is compared -/

/-- What stands at the same place in two lists is related. Either list may be longer. -/
def AtSamePlaces {α β : Type} (R : α → β → Prop) (xs : List α) (ys : List β) : Prop :=
  ∀ (i : Nat) (x : α) (y : β), xs[i]? = some x → ys[i]? = some y → R x y

/-- What is left of host code once its first command was carried out, if the host code goes on. -/
def Task.next? (nested : Perform) (t : Task) : Option Task :=
  match t.code with
  | .perform c guarded next =>
    match outcome (nested c) t.world with
    | (.ok r, v) => some ⟨next (.ok r), v.note (.answered (.ok r))⟩
    | (.error (.fault f), v) =>
      if guarded && !f.isInterrupt then some ⟨next (.error f), v.note (.answered (.error f))⟩ else none
    | (.error .tooDeep, _) => none
  | _ => none

/-- How host code ends, and the world that it leaves. -/
def Task.run (nested : Perform) (t : Task) : Except Stop Value × World := outcome (t.code.run nested) t.world

/-- How an emitter starts that is built into the host language and through whose bridge a step emits. -/
def Step.builtinStart? (s : Step) : Option (Except CallError Started) :=
  match s.command with
  | .bridge (.emit name event args named) =>
    (s.world.bridgeNamed? name).bind fun b =>
      b.emitter.shape.builtin?.map fun _ => b.emitter.start (event :: args) named
  | _ => none

namespace Swap

/-- Host code decides the same in two runs. Commands that are carried out at the same place are compared by
`inner`. -/
inductive Alike (s : Swap) (nested : Perform)
    (inner : Command Behaviour × World → Command Behaviour × World → Prop) : Task → Task → Prop
  | finish {v v' : Value} (h : s.Values v v') (w w' : World) :
      Alike s nested inner ⟨.finish v, w⟩ ⟨.finish v', w'⟩
  | fail (f : Fault) (w w' : World) : Alike s nested inner ⟨.fail f, w⟩ ⟨.fail f, w'⟩
  | perform {c c' : Command Behaviour} (h : s.Commands c c') (guarded : Bool)
      {next next' : Except Fault Reply → Behaviour} {w w' : World} (hinner : inner (c, w) (c', w'))
      (hnext : ∀ t ∈ Task.next? nested ⟨.perform c guarded next, w⟩,
        ∀ t' ∈ Task.next? nested ⟨.perform c' guarded next', w'⟩, Alike s nested inner t t') :
      Alike s nested inner ⟨.perform c guarded next, w⟩ ⟨.perform c' guarded next', w'⟩

/-- The host code of two steps behaves the same: that which runs at the same places, and an emitter that is
built into the host language. -/
structure HostCode (s : Swap) (R : Task → Task → Prop) (a b : Step) : Prop where
  tasks : AtSamePlaces R a.tasks b.tasks
  builtin : ∀ r ∈ a.builtinStart?, ∀ r' ∈ b.builtinStart?, Agree s.Starts r r'

/-- **Host code behaves the same in two runs**, when its commands are carried out at a depth with some levels
left, and so does the host code that runs during its commands. -/
def Tasks (s : Swap) : Nat → Nat → Task → Task → Prop
  | 0, depth => s.Alike (Session.perform depth 0) fun _ _ => True
  | fuel + 1, depth => s.Alike (Session.perform depth (fuel + 1)) fun x x' =>
    s.HostCode (Tasks s fuel (depth + 1)) ⟨depth, fuel, x.1, x.2⟩ ⟨depth, fuel, x'.1, x'.2⟩

end Swap

namespace AtSamePlaces

variable {α β : Type} {R : α → β → Prop} {xs xs' : List α} {ys ys' : List β}

/-- What stands in front stands at the same places. -/
theorem first (h : AtSamePlaces R (xs ++ xs') (ys ++ ys')) : AtSamePlaces R xs ys := by
  intro i x y hx hy
  obtain ⟨hi, -⟩ := List.getElem?_eq_some_iff.mp hx
  obtain ⟨hi', -⟩ := List.getElem?_eq_some_iff.mp hy
  exact h i x y ((List.getElem?_append_left hi).trans hx) ((List.getElem?_append_left hi').trans hy)

/-- Behind parts that are equally long, the same places are the same places. -/
theorem rest (h : AtSamePlaces R (xs ++ xs') (ys ++ ys')) (hlength : xs.length = ys.length) :
    AtSamePlaces R xs' ys' := by
  intro i x y hx hy
  refine h (xs.length + i) x y ?_ ?_
  · rw [List.getElem?_append_right (Nat.le_add_right _ _), Nat.add_sub_cancel_left, hx]
  · rw [hlength, List.getElem?_append_right (Nat.le_add_right _ _), Nat.add_sub_cancel_left, hy]

theorem of_zip (h : ∀ x ∈ xs.zip ys, R x.1 x.2) : AtSamePlaces R xs ys := fun i x y hx hy =>
  h (x, y) (List.mem_iff_getElem?.mpr ⟨i, List.getElem?_zip_eq_some.mpr ⟨hx, hy⟩⟩)

theorem single {x : α} {y : β} (h : AtSamePlaces R [x] [y]) : R x y := h 0 x y rfl rfl

end AtSamePlaces

namespace Swap

variable {s : Swap}

/-! ## Behaviours -/

/-- By induction on what is decided: the commands go in lockstep, and the answers with which the host code
goes on are related. -/
theorem Alike.ends {nested : Perform}
    {inner : Command Behaviour × World → Command Behaviour × World → Prop}
    (hinner : ∀ x x', inner x x' → s.Commands x.1 x'.1 → s.Worlds x.2 x'.2 →
      s.Ends s.Replies (outcome (nested x.1) x.2) (outcome (nested x'.1) x'.2))
    {t t' : Task} (h : s.Alike nested inner t t') (hw : s.Worlds t.world t'.world) :
    s.Ends s.Values (t.run nested) (t'.run nested) := by
  induction h with
  | finish h w w' => exact .ok h hw
  | fail f w w' => exact .error _ hw
  | @perform c c' h guarded next next' w w' hin hnext ih =>
      -- both runs carry out a command, note its answer, and go on with it
      have hends := hinner (c, w) (c', w') hin h hw
      unfold Task.run Behaviour.run
      rw [outcome_bind, outcome_bind, outcome_attempt, outcome_attempt]
      unfold Task.next? at ih
      dsimp only at hends ih ⊢
      rcases hc : outcome (nested c) w with ⟨r, v⟩
      rcases hc' : outcome (nested c') w' with ⟨r', v'⟩
      rw [hc, hc'] at hends ih
      cases hends with
      | ok hr hv => exact ih _ rfl _ rfl (hv.note (.answered (.ok hr)))
      | error stop hv =>
          cases stop with
          | tooDeep => exact .error _ hv
          | fault f =>
              dsimp only at ih ⊢
              -- a fault ends the behaviour, unless it is handed to the rest
              cases hguarded : guarded && !f.isInterrupt with
              | false => exact .error _ hv
              | true =>
                  simp only [hguarded, if_true] at ih
                  exact ih _ rfl _ rfl (hv.note (.answered (.error f)))

/-! ## Calls -/

section

variable {c c' : Callable Behaviour} {args args' : List Value} {named named' : Fields} {w w' : World}

/-- Runs of a body are counted alike. -/
theorem Worlds.countRun (h : s.Worlds w w') (serial : Nat) :
    s.Worlds ((Effect.countRun serial).apply w) ((Effect.countRun serial).apply w') := by
  refine { h with runs := ?_ }
  change w.runs.insert serial _ = w'.runs.insert serial _
  rw [h.runs]

/-- Bodies begin in related worlds. -/
theorem related_bodyTask (hc : s.Callables c c') (serial : Nat) {bound bound' : Fields}
    (hbound : s.Named bound bound') (hw : s.Worlds w w') :
    s.Worlds (Hub.bodyTask c serial bound w).world (Hub.bodyTask c' serial bound' w').world := by
  unfold Hub.bodyTask
  rw [hc.label_eq, hc.showsContext_eq, hw.context]
  exact (hw.countRun serial).note (.ran _ hbound _ _)

/-- Calls that start alike run a body both, or none both. -/
theorem related_callTask (hc : s.Callables c c')
    (hstart : Agree s.Starts (c.start args named) (c'.start args' named')) (serial : Nat) (awaited : Bool)
    (hw : s.Worlds w w') :
    Option.Rel (fun t t' : Task => s.Worlds t.world t'.world)
      (Hub.callTask? c serial awaited args named w) (Hub.callTask? c' serial awaited args' named' w') := by
  unfold Hub.callTask?
  generalize c.start args named = started at hstart ⊢
  generalize c'.start args' named' = started' at hstart ⊢
  -- a call that is refused runs nothing
  cases hstart with
  | error e => exact .none
  | ok hstarted =>
      cases hstarted with
      | runs hbound => exact .some (related_bodyTask hc serial hbound hw)
      | suspended hbound =>
          cases awaited with
          | true => exact .some (related_bodyTask hc serial hbound hw)
          -- what is suspended runs only if it is awaited
          | false => exact .none
      | gives _ => exact .none

/-- At most one body runs on either side, and it ends alike if it behaves the same. -/
theorem ends_body {nested : Perform} {R : Task → Task → Prop}
    (hrun : ∀ t t', R t t' → s.Worlds t.world t'.world → s.Ends s.Values (t.run nested) (t'.run nested))
    {body? body?' : Option Task}
    (hbody : Option.Rel (fun t t' : Task => s.Worlds t.world t'.world) body? body?')
    (hR : AtSamePlaces R body?.toList body?'.toList) :
    ∀ t ∈ body?, ∀ t' ∈ body?', s.Ends s.Values (t.run nested) (t'.run nested) := by
  rintro t ht t' ht'
  rw [Option.mem_def.mp ht, Option.mem_def.mp ht'] at hbody hR
  cases hbody with
  | some hworlds => exact hrun t t' hR.single hworlds

/-- Calls that start alike end alike, if their bodies do. -/
theorem ends_call {nested : Perform}
    (hstart : Agree s.Starts (c.start args named) (c'.start args' named')) (serial : Nat) (awaited : Bool)
    (hw : s.Worlds w w')
    (hbody : ∀ t ∈ Hub.callTask? c serial awaited args named w,
      ∀ t' ∈ Hub.callTask? c' serial awaited args' named' w', s.Ends s.Values (t.run nested) (t'.run nested)) :
    s.Ends s.Values (outcome (Hub.call nested c serial awaited args named) w)
      (outcome (Hub.call nested c' serial awaited args' named') w') := by
  unfold Hub.callTask? at hbody
  unfold Hub.call
  generalize c.start args named = started at hstart hbody ⊢
  generalize c'.start args' named' = started' at hstart hbody ⊢
  -- a body that runs ends as its task does
  have hruns : ∀ bound bound', s.Ends s.Values ((Hub.bodyTask c serial bound w).run nested)
      ((Hub.bodyTask c' serial bound' w').run nested) →
        s.Ends s.Values (outcome (Hub.runBody nested c serial bound) w)
          (outcome (Hub.runBody nested c' serial bound') w') := by
    intro bound bound' h
    rw [Hub.outcome_runBody, Hub.outcome_runBody]
    exact h
  cases hstart with
  | error e => exact .error _ hw
  | ok hstarted =>
      cases hstarted with
      | runs hbound => exact hruns _ _ (hbody _ rfl _ rfl)
      | suspended hbound =>
          cases awaited with
          | true => exact hruns _ _ (hbody _ rfl _ rfl)
          | false => exact .ok (.same .none) hw
      | gives hv => exact .ok hv hw

end

end Swap

end EventHub
