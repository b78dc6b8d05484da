import EventHub.Proofs.Session.Effects

/-! # Depth

A publish enters its own occurrences into the journal with its depth. Host code that runs during the
publish has its commands carried out one level deeper, so that whatever it does, and whatever host code
runs in turn, enters only occurrences of greater depth (`perform_deep`). The depth therefore tells the
calls that a publish makes itself from all calls that are made meanwhile.
-/

namespace EventHub

namespace Effect

/-- An effect enters no occurrence of a lesser depth than `d`. -/
def Deep (d : Nat) (e : Effect) : Prop :=
  ∀ o k, e.occurrence? = some o → o.depth? = some k → d ≤ k

theorem Deep.mono {c d : Nat} {e : Effect} (h : Deep d e) (hcd : c ≤ d) : Deep c e :=
  fun o k ho hk => Nat.le_trans hcd (h o k ho hk)

/-- Noting an occurrence is deep if the occurrence is, where it tells a depth. -/
theorem deep_note {d : Nat} {o : Occurrence} (h : ∀ k, o.depth? = some k → d ≤ k) :
    Deep d (.note o) := by
  intro o' k ho hk
  cases ho
  exact h k hk

/-- Only occurrences of a dispatch tell a depth. -/
theorem deep_of_kind {d : Nat} {e : Effect} (h : e.kind ≠ .dispatched) : Deep d e := by
  intro o k ho hk
  cases e with
  | note o' =>
      cases ho
      cases o <;> simp_all [Occurrence.depth?]
  | _ =>
      -- no occurrence is entered
      cases ho

end Effect

/-- Whether an occurrence is one of a dispatch at a depth. -/
def Occurrence.isAt (d : Nat) (o : Occurrence) : Bool := o.depth? = some d

/-- Deeper occurrences are none of this depth. -/
theorem filter_isAt_of_deep {d : Nat} {os : List Occurrence}
    (h : ∀ o ∈ os, Effect.Deep (d + 1) (.note o)) : os.filter (Occurrence.isAt d) = [] := by
  refine List.filter_eq_nil_iff.mpr fun o ho hat => ?_
  have hd : o.depth? = some d := of_decide_eq_true hat
  exact Nat.not_succ_le_self d (h o ho o d rfl hd)

/-- A record tells no depth. -/
theorem filter_isAt_records {d : Nat} (w : World) (r : Log.Record) :
    (w.records r).filter (Occurrence.isAt d) = [] := by
  unfold World.records
  split <;> simp [Occurrence.isAt, Occurrence.depth?]

namespace Occurrence

/-- The call of an actor at a depth: the hub, the event, the payload and the actor. -/
def call? (d : Nat) : Occurrence → Option (Nat × Event × Value × Actor)
  | .called k n event payload a _ => if k = d then some (n, event, payload, a) else none
  | _ => none

/-- The failure of a call at a depth: the hub, the event, the actor and the fault. -/
def failure? (d : Nat) : Occurrence → Option (Nat × Event × Actor × Fault)
  | .failed k n event a f => if k = d then some (n, event, a, f) else none
  | _ => none

/-- What an error handler of a hub is told at a depth. -/
def told? (d : Nat) : Occurrence → Option (Nat × Fault)
  | .handled k n f _ _ => if k = d then some (n, f) else none
  | _ => none

variable {d : Nat} {o : Occurrence}

theorem call?_of_not_isAt (h : o.isAt d = false) : call? d o = none := by
  cases o <;> simp_all [call?, isAt, depth?]

theorem failure?_of_not_isAt (h : o.isAt d = false) : failure? d o = none := by
  cases o <;> simp_all [failure?, isAt, depth?]

/-- An occurrence of another depth tells no handler anything at this one. -/
theorem told?_of_not_isAt (h : o.isAt d = false) : told? d o = none := by
  cases o <;> simp_all [told?, isAt, depth?]

end Occurrence

namespace Run.Performs

open Effect (Deep)

variable {α : Type} {act : Run α} {w : World} {d : Nat}

/-- What enters no occurrence of a dispatch may happen at any depth. -/
theorem deep {ks : List Effect.Kind} (h : Does ks act w)
    (hks : ks.contains .dispatched = false) : Performs (Deep d) act w := by
  refine h.mono fun e he => Effect.deep_of_kind fun hkind => ?_
  have hmem : .dispatched ∈ ks := hkind ▸ he
  simp [hmem] at hks

theorem deepen (h : Performs (Deep (d + 1)) act w) : Performs (Deep d) act w :=
  h.mono fun _ he => he.mono (Nat.le_succ d)

theorem deep_scope {fields : Fields} (h : Performs (Deep d) act (w.inside fields)) :
    Performs (Deep d) (Run.inScope fields act) w :=
  .inScope (Effect.deep_of_kind (by simp)) (fun _ => Effect.deep_of_kind (by simp)) h

theorem dispatched (o : Occurrence) (h : o.depth? = some d) :
    Performs (Deep d) (note o) w :=
  .enter o (Effect.deep_note fun k hk => by simp_all)

/-- An occurrence that tells no depth. -/
theorem aside (o : Occurrence) (h : o.depth? = none) : Performs (Deep d) (note o) w :=
  .enter o (Effect.deep_note fun k hk => by simp_all)

end Run.Performs

open Run
open Effect (Deep)

/-! ## Host code -/

section

variable {nested : Perform} {d : Nat} (hnested : ∀ c v, Performs (Deep (d + 1)) (nested c) v)
include hnested

/-- By induction on the behaviour: each of its commands is carried out one level deeper. -/
theorem Behaviour.run_deep : ∀ (b : Behaviour) (w : World), Performs (Deep (d + 1)) (b.run nested) w
  | .finish _, _ => .pure _
  | .fail _, _ => .raise _
  | .perform c guarded next, w => by
    unfold Behaviour.run
    refine .bind (.attempt (hnested c w)) fun r v _ => ?_
    -- the answer tells no depth, and the rest is a smaller behaviour
    split
    · exact .bind (.aside _ rfl) fun _ v _ => Behaviour.run_deep (next _) v
    · split
      · exact .bind (.aside _ rfl) fun _ v _ => Behaviour.run_deep (next _) v
      · exact .raise _

namespace Hub

variable {w : World}

/-- A body is one level deeper than the call that runs it. -/
theorem runBody_deep (c : Callable Behaviour) (serial : Nat) (bound : Fields) :
    Performs (Deep (d + 1)) (runBody nested c serial bound) w := by
  unfold runBody
  refine .bind ((countRun_does serial).deep rfl) fun before v _ => .get_bind ?_
  refine .bind (.aside _ rfl) fun _ v _ => ?_
  exact Behaviour.run_deep hnested _ v

/-- So is all that a call runs. -/
theorem call_deep (c : Callable Behaviour) (serial : Nat) (awaited : Bool) (args : List Value)
    (named : Fields) : Performs (Deep (d + 1)) (call nested c serial awaited args named) w := by
  unfold call
  split
  · exact .raise _
  · exact .pure _
  · exact runBody_deep hnested ..
  · split
    · exact runBody_deep hnested ..
    · exact .pure _

/-- Telling a handler is at the depth of the publish, and what the handler does is one deeper. -/
theorem runHandler_deep (n : Nat) (h : InstalledHandler) (f : Fault) :
    Performs (Deep d) (runHandler nested d n h f) w := by
  unfold runHandler
  refine .bind ((countRun_does h.serial).deep rfl) fun before v _ => .get_bind ?_
  refine .bind (.dispatched _ rfl) fun _ v _ => ?_
  exact .bind (Behaviour.run_deep hnested _ v).deepen fun _ _ _ => .pure _

/-! ## Dispatch -/

/-- The same where the handler fails in turn. -/
theorem tellHandler_deep (n : Nat) (event : Event) (a : Actor) (failure : Fault) :
    Performs (Deep d) (tellHandler nested d n event a failure) w := by
  unfold tellHandler
  refine .get_bind ?_
  split
  · exact .pure _
  · refine .bind (.attempt (runHandler_deep hnested ..)) fun r v _ => ?_
    split
    · exact .pure _
    · split
      · exact .raise _
      · -- the failure of the handler is logged, which tells no depth
        exact (log_does ..).deep rfl

/-- Reporting a failure is at the depth of the publish. -/
theorem report_deep (n : Nat) (event : Event) (a : Actor) (f : Fault) :
    Performs (Deep d) (report nested d n event a f) w := by
  unfold report
  refine .bind ((count_does ..).deep rfl) fun _ _ _ => ?_
  refine .bind ((log_does ..).deep rfl) fun _ _ _ => ?_
  exact tellHandler_deep hnested ..

/-- Calling an actor is at the depth of the publish. -/
theorem invoke_deep (n : Nat) (payload : Value) (target : Event × Actor) :
    Performs (Deep d) (invoke nested d n payload target) w := by
  unfold invoke
  refine .bind ((count_does ..).deep rfl) fun _ v _ => .deep_scope (.get_bind ?_)
  refine .bind (.dispatched _ rfl) fun _ v _ => ?_
  -- the callable is one level deeper, its failure is reported at this level
  refine .bind (.attempt (call_deep hnested ..).deepen) fun r v _ => ?_
  split
  · exact .pure _
  · split
    · exact .raise _
    · exact .bind (.dispatched _ rfl) fun _ v _ => report_deep hnested ..

/-- A publish is at its own depth. -/
theorem publishNamed_deep (n : Nat) (name : String) (payload : Value) :
    Performs (Deep d) (publishNamed nested d n name payload) w := by
  unfold publishNamed
  refine .bind (.dispatched _ rfl) fun _ v _ => .bind ((count_does ..).deep rfl) fun _ v _ => ?_
  refine .deep_scope (.get_bind ?_)
  dsimp only
  split
  · exact (hubLog_does ..).deep rfl
  · refine .bind ((hubLog_does ..).deep rfl) fun _ v _ => ?_
    exact .forM fun target _ v => invoke_deep hnested ..

/-- So is one that is refused. -/
theorem publish_deep (n : Nat) (name payload : Value) :
    Performs (Deep d) (publish nested d n name payload) w := by
  unfold publish
  split
  · exact publishNamed_deep hnested ..
  · exact .raise _

/-- So are several, one after another. -/
theorem publishTimes_deep (n : Nat) (name payload : Value) (times : Nat) :
    Performs (Deep d) (publishTimes nested d n name payload times) w := by
  induction times generalizing w with
  | zero => exact .pure _
  | succ times ih => exact .bind (publish_deep hnested ..) fun _ _ _ => ih

/-! ## Bridges -/

/-- The publish of a bridge is at the depth of the bridge, and its emitter one deeper. -/
theorem emit_deep (b : Bridge) (name : Value) (args : List Value) (named : Fields) :
    Performs (Deep d) (emit nested d b name args named) w := by
  unfold emit
  split
  · exact .raise_bind _ _
  · exact .bind (publish_deep hnested ..) fun _ _ _ => (call_deep hnested ..).deepen

end Hub

/-! ## Commands -/

namespace Session

variable {w : World}

/-- A command on a hub that is carried out at a depth enters no occurrence of a lesser depth. -/
theorem hub_deep (c : HubCommand Behaviour) : Performs (Deep d) (hub nested d c) w := by
  cases c with
  | create name options =>
      refine .bind ((optionally_does (fun _ _ => find_does ..) _).deep rfl) fun registry _ _ => ?_
      refine .bind ((optionally_does (fun _ _ => find_does ..) _).deep rfl) fun tally _ _ => ?_
      refine .bind ((Hub.create_does ..).deep rfl) fun n _ _ => ?_
      exact .bind ((keep_does ..).deep rfl) fun _ _ _ => .get_bind (.pure _)
  | listen name pattern handle? actors =>
      refine .bind ((find_does ..).deep rfl) fun n _ _ => ?_
      refine .bind ((Hub.listen_does n pattern).deep rfl) fun ref v _ => ?_
      split
      on_goal 1 => refine .bind ((keep_does ..).deep rfl) fun _ _ _ => ?_
      all_goals
        refine .bind (.forM fun a _ _ => (Hub.attach_does ..).deep rfl) fun _ _ _ => ?_
        exact (replyHandle_does ref).deep rfl
  | attach handle a identifier? =>
      refine .bind ((find_does ..).deep rfl) fun (n, ref) _ _ => ?_
      exact .bind ((Hub.attach_does ..).deep rfl) fun _ _ _ => (replyHandle_does ref).deep rfl
  | describe handle =>
      refine .bind ((find_does ..).deep rfl) fun (n, ref) _ _ => ?_
      exact .bind ((Hub.entry_does ref).deep rfl) fun _ _ _ => .pure _
  | unlistenHandle handle =>
      refine .bind ((find_does ..).deep rfl) fun (n, ref) _ _ => ?_
      refine .bind ((Hub.entry_does ref).deep rfl) fun e _ _ => ?_
      exact .bind ((Hub.unlisten_does ..).deep rfl) fun _ _ _ => .pure _
  | unlisten name pattern =>
      refine .bind ((find_does ..).deep rfl) fun n _ _ => ?_
      exact .bind ((Hub.unlisten_does ..).deep rfl) fun _ _ _ => .pure _
  | clear name =>
      refine .bind ((find_does ..).deep rfl) fun n _ _ => ?_
      exact .bind ((Hub.clear_does n).deep rfl) fun _ _ _ => .pure _
  | setHandler name handler? =>
      refine .bind ((find_does ..).deep rfl) fun n _ _ => ?_
      exact .bind ((Hub.setHandler_does ..).deep rfl) fun _ _ _ => .pure _
  | setMetrics name on =>
      refine .bind ((find_does ..).deep rfl) fun n _ _ => ?_
      exact .bind ((Hub.setMetrics_does ..).deep rfl) fun _ _ _ => .pure _
  | publish name event payload times =>
      -- only a publish enters occurrences that tell a depth
      refine .bind ((find_does ..).deep rfl) fun n _ _ => ?_
      exact .bind (Hub.publishTimes_deep hnested ..) fun _ _ _ => .pure _
  | snapshot name => exact .bind ((find_does ..).deep rfl) fun n _ _ => .get_bind (.pure _)
  | summary name =>
      refine .bind ((find_does ..).deep rfl) fun n v _ => .get_bind ?_
      split
      · exact .pure _
      · split
        · exact .pure _
        · exact .raise _
  | survey name names? patterns? =>
      refine .bind ((find_does ..).deep rfl) fun n v _ => .get_bind ?_
      refine .bind ?_ fun _ _ _ => .pure _
      cases patterns? with
      | none => exact .pure _
      | some ps => exact .bind ((isActive_does _ ps).deep rfl) fun _ _ _ => .pure _

/-- The same for a command on a bridge. -/
theorem bridge_deep (c : BridgeCommand Behaviour) : Performs (Deep d) (bridge nested d c) w := by
  cases c with
  | install name hub emitter =>
      refine .bind ((find_does ..).deep rfl) fun n _ _ => ?_
      refine .bind ((Hub.bridge_does n emitter).deep rfl) fun b _ _ => ?_
      exact .bind ((keep_does ..).deep rfl) fun _ _ _ => .pure _
  | emit name event args named =>
      refine .bind ((find_does ..).deep rfl) fun b _ _ => ?_
      exact .bind (Hub.emit_deep hnested ..) fun _ _ _ => .pure _

/-- One step: a command that is carried out at a depth enters no occurrence of a lesser depth. -/
theorem step_deep (c : Command Behaviour) : Performs (Deep d) (step nested d c) w := by
  cases c with
  | hub c => exact hub_deep hnested c
  | bridge c => exact bridge_deep hnested c
  | registry c => exact (registry_does c).deep rfl
  | tally c => exact (tally_does c).deep rfl
  | settings c => exact (settingsCommand_does c).deep rfl
  | machine c => exact (machine_does c).deep rfl
  | context c => exact (context_does c).deep rfl
  | log c => exact (logging_does c).deep rfl

end Session

end

/-- **Nothing that a command brings about is less deep than the command.** By induction on the levels
that are left: those of host code start one deeper. -/
theorem Session.perform_deep (fuel d : Nat) (c : Command Behaviour) (w : World) :
    Performs (Deep d) (Session.perform d fuel c) w := by
  induction fuel generalizing d c w with
  | zero =>
      -- no level is left, and nothing is done
      exact .throw _
  | succ fuel ih => exact Session.step_deep (ih (d + 1)) c

end EventHub
