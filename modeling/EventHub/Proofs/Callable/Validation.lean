import EventHub.Hub.Registration
import EventHub.Proofs.Callable.Stored
import EventHub.Proofs.Run.Outcome

/-! # Checked actors can be called

An actor is checked by the signature that its caller sees, and called by binding its arguments to that of its
body. Where arguments are stored in advance the two differ, and the check is right as far as the first tells of
the second (`Shape.describes`): when the signature can be told, and some call of the callable gets through. A
callable that no call gets through, since its stored arguments do not fit, is accepted all the same.

Main statement: `check_agrees_with_call`.
-/

namespace EventHub

open Run

namespace Signature

/-- With nothing stored by name, the parameters that are left are those that were not stored by position. -/
theorem leftParams_nil (s : Signature) (count : Nat) :
    s.leftParams count [] = s.positional.drop count ++ s.params.filter fun p => !p.isPositional := by
  have honward : s.onwardPart count [] = [] := by
    refine List.dropWhile_eq_nil_iff.mpr fun p _ => ?_
    simp [isStored, OrderedMap.contains]
  have hkept : s.keptPart count [] = s.positional.drop count := by
    rw [keptPart_append_onwardPart s count [], honward, List.append_nil]
  have hstored : withStored [] = id := by
    funext p
    unfold withStored asKeyword
    split
    · rename_i hkind
      rw [← hkind]
      rfl
    · rfl
  unfold leftParams
  rw [hkept, honward, hstored, List.map_nil, List.nil_append, List.map_id]
  simp

end Signature

namespace Shape

variable {shape : Shape} {own s : Signature}

/-- The signature of the body of a callable, with the object that it is handed first. -/
def bodySignature (own : Signature) : Shape → Signature
  | .method _ => withReceiver own
  | .object _ => withReceiver own
  | .constructor _ => withReceiver own
  | .stored target _ _ => target.bodySignature own
  | _ => own

/-- The object that is handed over first is given by position. -/
theorem isPositional_receiver (own : Signature) : (receiver own).isPositional = true := by
  unfold receiver
  split
  · split <;> rfl
  · rfl

/-- The body of a method that can be written is left with a signature that can be written. -/
theorem wellFormed_of_withReceiver (h : (withReceiver own).WellFormed) : own.WellFormed :=
  ⟨(List.nodup_cons.mp h.names).2, (List.pairwise_cons.mp h.ordered).2⟩

/-- Handing over the object leaves the signature that a caller sees. -/
theorem derive?_receiver (h : (withReceiver own).WellFormed) :
    (withReceiver own).derive? [.none] [] = some own := by
  have hpositional : (withReceiver own).positional = receiver own :: own.positional :=
    List.filter_cons_of_pos (isPositional_receiver own)
  have hothers : ((withReceiver own).params.filter fun p => !p.isPositional) =
      own.params.filter fun p => !p.isPositional :=
    List.filter_cons_of_neg (by rw [isPositional_receiver]; decide)
  have haccepts : (withReceiver own).acceptsStored [.none] [] = true := by
    unfold Signature.acceptsStored
    rw [hpositional]
    simp [OrderedMap.keys]
  rw [h.derive?_eq, if_pos haccepts, Signature.leftParams_nil, hpositional, hothers]
  exact congrArg (fun ps => some { own with params := ps }) (wellFormed_of_withReceiver h).params_eq.symm

/-- The signature that a caller of a method sees describes its calls. -/
theorem describes_withReceiver (h : (withReceiver own).WellFormed) :
    own.WellFormed ∧ own.Describes fun count isGiven => (withReceiver own).Fits (1 + count) isGiven := by
  obtain ⟨hwf, hdescribes⟩ :=
    (Signature.describes_fits (withReceiver own)).derived h (derive?_receiver h)
  refine ⟨hwf, ?_⟩
  simpa [OrderedMap.keys] using hdescribes

/-- **The signature that a caller sees describes the calls of a callable**, if it can be told. -/
theorem describes (hbody : shape.HasBody) (hwf : (shape.bodySignature own).WellFormed)
    (htold : shape.signature? own = some s) : s.WellFormed ∧ s.Describes (shape.Reaches own) := by
  induction shape generalizing s with
  | function =>
      cases htold
      exact ⟨hwf, Signature.describes_fits own⟩
  | method owner =>
      cases htold
      exact describes_withReceiver hwf
  | object owner =>
      cases htold
      exact describes_withReceiver hwf
  | constructor asynchronousCall =>
      cases htold
      exact describes_withReceiver hwf
  | builtin b => exact hbody.elim
  | plain v => exact hbody.elim
  | stored target args named ih =>
      -- by induction: what the target describes, less what is stored
      obtain ⟨t, htarget, hderived⟩ := Option.bind_eq_some_iff.mp htold
      obtain ⟨ht, hdescribes⟩ := ih hbody.1 hwf htarget
      exact hdescribes.derived ht hderived

end Shape

namespace Callable

variable {β : Type} {c : Callable β}

/-- What can be written as a callable with a body: a function, a method, an object that can be called or a
class, also with arguments stored in advance, once or repeatedly, whose body has a signature that can be
written. -/
structure IsWritten (c : Callable β) : Prop where
  body : c.shape.HasBody
  signature : (c.shape.bodySignature c.signature).WellFormed

/-- The signature of a callable can be told, and some call of it gets through to the body. -/
def IsTold (c : Callable β) : Prop :=
  c.signature?.isSome = true ∧
    ∃ args, ∃ named : Fields, named.keys.Nodup ∧ ∃ started, c.start args named = .ok started

/-- A call starts exactly if it gets through to the body. -/
theorem start_ok_iff_reaches (h : c.IsWritten) {args : List Value} {named : Fields}
    (hkeys : named.keys.Nodup) :
    (∃ started, c.start args named = .ok started) ↔
      c.shape.Reaches c.signature args.length (· ∈ named.keys) :=
  Shape.start_ok_iff h.body hkeys

/-- The same for a call that gives no names. -/
theorem start_ok_iff_unnamed (h : c.IsWritten) {args : List Value} :
    (∃ started, c.start args [] = .ok started) ↔
      c.shape.Reaches c.signature args.length fun _ => False := by
  have hkeys : (OrderedMap.keys ([] : Fields)).Nodup := List.nodup_nil
  have hnone : (fun x => x ∈ OrderedMap.keys ([] : Fields)) = fun _ => False :=
    funext fun _ => propext ⟨nofun, False.elim⟩
  rw [← hnone]
  exact c.start_ok_iff_reaches h hkeys

theorem isCallable_of_hasBody {shape : Shape} (h : shape.HasBody) : shape.isCallable = true := by
  cases shape with
  | plain v => exact h.elim
  | _ => rfl

/-- **When a callable is accepted that is not called asynchronously**: if two arguments fit its signature, as far
as that can be told. -/
theorem check_ok_iff (hbody : c.shape.HasBody) (hasync : c.isAsynchronous = false)
    (hcalls : c.callsAsynchronously = false) :
    c.check = .ok ⟨⟩ ↔ ∀ s, c.signature? = some s → s.Fits 2 fun _ => False := by
  have hcheck : c.check = .ok ⟨⟩ ↔ c.objection? = none := by
    unfold check
    cases c.objection? with
    | none => exact ⟨fun _ => rfl, fun _ => rfl⟩
    | some reason => exact ⟨nofun, nofun⟩
  rw [hcheck]
  unfold objection?
  rw [isCallable_of_hasBody hbody, hasync, hcalls]
  cases c.signature? with
  -- a callable whose signature cannot be told is not objected to
  | none => exact ⟨fun _ => nofun, fun _ => rfl⟩
  | some s =>
      have haccepts : (∀ t, some s = some t → t.Fits 2 fun _ => False) ↔ s.accepts 2 = true :=
        ⟨fun h => Signature.accepts_iff.mpr (h s rfl), fun h t ht => by
          cases ht
          exact Signature.accepts_iff.mp h⟩
      rw [haccepts]
      dsimp only
      cases s.accepts 2 <;> simp

/-- A call without names that gets through fits the signature that its caller sees. -/
theorem fits_of_start (h : c.IsWritten) {args : List Value}
    (hstart : ∃ started, c.start args [] = .ok started) {s : Signature} (hs : c.signature? = some s) :
    s.Fits args.length fun _ => False :=
  (Shape.describes h.body h.signature hs).2.fits _ _ ((c.start_ok_iff_unnamed h).mp hstart)

/-- A call without names that fits the signature that its caller sees gets through, if any call does. -/
theorem start_of_fits (h : c.IsWritten) (htold : c.IsTold) (args : List Value)
    (hfits : ∀ s, c.signature? = some s → s.Fits args.length fun _ => False) :
    ∃ started, c.start args [] = .ok started := by
  obtain ⟨hsome, args₀, named₀, hkeys, hstart⟩ := htold
  obtain ⟨s, hs⟩ := Option.isSome_iff_exists.mp hsome
  have hreaches := (c.start_ok_iff_reaches h hkeys).mp hstart
  refine (c.start_ok_iff_unnamed h).mpr ?_
  exact (Shape.describes h.body h.signature hs).2.reaches _ _ _ _ hreaches nofun (hfits s hs)

end Callable

/-- A hub that checks callables attaches only those that it accepts. -/
theorem Hub.check_of_attach {n : Nat} {ref : EntryRef} {c : Callable Behaviour} {identifier? : Option String}
    {w v : World} (hchecks : (w.hub n).validates = true)
    (h : outcome (Hub.attach n ref c identifier?) w = (.ok ⟨⟩, v)) : c.check = .ok ⟨⟩ := by
  unfold Hub.attach at h
  rw [outcome_get_bind] at h
  obtain ⟨e, u, -, h⟩ := exists_of_outcome_bind h
  dsimp only at h
  rw [if_pos hchecks] at h
  cases hc : c.check with
  | ok _ => rfl
  | error f =>
      -- the hub raises the objection, and does not get to the attachment
      rw [hc] at h
      obtain ⟨_, _, hraise, -⟩ := exists_of_outcome_bind h
      cases hraise

/-- **The check of an actor agrees with its call.** For a callable that is not called asynchronously: if a call
with an event and a payload gets through, the callable is accepted; if its signature can be told and some call
gets through, also the other way round, so that an actor that was attached to a hub that checks them can be
called whenever an event is published. A callable whose signature cannot be told is accepted unseen. -/
theorem check_agrees_with_call {c : Callable Behaviour} (hwritten : c.IsWritten)
    (hasync : c.isAsynchronous = false) (hcalls : c.callsAsynchronously = false) (event payload : Value) :
    ((∃ started, c.start [event, payload] [] = .ok started) → c.check = .ok ⟨⟩) ∧
      (c.signature? = none → c.check = .ok ⟨⟩) ∧
      (c.IsTold →
        (c.check = .ok ⟨⟩ → ∃ started, c.start [event, payload] [] = .ok started) ∧
        ∀ n ref identifier? w v, (w.hub n).validates = true →
          outcome (Hub.attach n ref c identifier?) w = (.ok ⟨⟩, v) →
          ∃ started, c.start [event, payload] [] = .ok started) := by
  have hcheck := c.check_ok_iff hwritten.body hasync hcalls
  have hstart : c.IsTold → c.check = .ok ⟨⟩ → ∃ started, c.start [event, payload] [] = .ok started :=
    fun htold hok => c.start_of_fits hwritten htold _ (hcheck.mp hok)
  refine ⟨fun h => hcheck.mpr fun s hs => c.fits_of_start hwritten h hs, fun hnone => ?_, fun htold => ?_⟩
  · -- there is no signature that the two arguments would have to fit
    refine hcheck.mpr fun s hs => ?_
    rw [hnone] at hs
    cases hs
  · exact ⟨hstart htold, fun n ref identifier? w v hchecks hattach =>
      hstart htold (Hub.check_of_attach hchecks hattach)⟩

/-- A callable of a shape, whose parameters have no defaults. -/
def Sample.callable (shape : Shape) (params : List (String × ParamKind)) : Callable Behaviour where
  shape := shape
  name := "handle"
  asynchronous := false
  signature := ⟨params.map fun (name, kind) => ⟨name, kind, none, none⟩, none⟩
  label := "handle"
  showsContext := false
  body := fun _ _ => .finish .none

/-- A method with its first argument stored, and then one by name, in a layer of its own: the inner layer has an
attribute, so that the two are not merged. -/
def Sample.tagged : Callable Behaviour :=
  callable (.stored (.stored (.method "Orders") [.text "shop"] []) [] [("tag", .int 7)])
    [("shop", .standard), ("event", .standard), ("payload", .standard), ("tag", .keywordOnly),
      ("extra", .keywordRest)]

/-- A callable in two layers is accepted, and its call starts. -/
theorem check_agrees_with_call_tagged :
    Sample.tagged.IsWritten ∧ Sample.tagged.isAsynchronous = false ∧
      Sample.tagged.callsAsynchronously = false ∧ Sample.tagged.IsTold ∧ Sample.tagged.check = .ok ⟨⟩ ∧
      ∃ started, Sample.tagged.start [.event ⟨"order:created", "order:*"⟩, .int 3] [] = .ok started := by
  have hwritten : Sample.tagged.IsWritten :=
    ⟨⟨⟨trivial, List.nodup_nil⟩, by decide⟩, by decide⟩
  have htold : Sample.tagged.IsTold :=
    ⟨by decide, [.none], [("payload", .none)], by decide, _, rfl⟩
  have hcheck : Sample.tagged.check = .ok ⟨⟩ := rfl
  have hagrees := check_agrees_with_call hwritten rfl rfl (.event ⟨"order:created", "order:*"⟩) (.int 3)
  exact ⟨hwritten, rfl, rfl, htold, hcheck, (hagrees.2.2 htold).1 hcheck⟩

/-- A function with more arguments stored than it takes. -/
def Sample.overfilled : Callable Behaviour :=
  callable (.stored .function [.int 1, .int 2, .int 3] []) [("event", .standard), ("payload", .standard)]

/-- A method that takes the rest by name, with a value stored under the name of the object that it is handed
first. -/
def Sample.doubled : Callable Behaviour :=
  callable (.stored (.method "Orders") [] [("self", .int 1)])
    [("event", .standard), ("payload", .standard), ("extra", .keywordRest)]

/-- Callables are accepted that no call gets through: one whose signature cannot be told, and one whose
signature does not tell that a name is given twice. -/
theorem check_accepts_uncallable :
    (Sample.overfilled.IsWritten ∧ Sample.overfilled.isAsynchronous = false ∧
      Sample.overfilled.callsAsynchronously = false ∧ Sample.overfilled.check = .ok ⟨⟩ ∧
      ¬ ∃ started, Sample.overfilled.start [.event ⟨"a", "a"⟩, .none] [] = .ok started) ∧
    (Sample.doubled.IsWritten ∧ Sample.doubled.isAsynchronous = false ∧
      Sample.doubled.callsAsynchronously = false ∧ Sample.doubled.signature?.isSome = true ∧
      Sample.doubled.check = .ok ⟨⟩ ∧
      ¬ ∃ started, Sample.doubled.start [.event ⟨"a", "a"⟩, .none] [] = .ok started) := by
  refine ⟨⟨⟨⟨trivial, List.nodup_nil⟩, by decide⟩, rfl, rfl, rfl, ?_⟩,
    ⟨⟨⟨trivial, by decide⟩, by decide⟩, rfl, rfl, by decide, rfl, ?_⟩⟩
  · rintro ⟨started, h⟩
    cases h
  · rintro ⟨started, h⟩
    cases h

end EventHub
