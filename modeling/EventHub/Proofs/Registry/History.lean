import EventHub.Registry
import Mathlib.Data.List.DropRight
import Mathlib.Logic.Function.Basic

/-! # The history of a registry

Several registries are used side by side. Every call is entered, with its answer, into a history, and the
functions of this module say what a history tells about one registry: which patterns were activated
since it was last cleared, which of them are switched on, and which actors were attached to an entry.
None of them looks at a registry.
-/

namespace EventHub.Registry

variable {α : Type}

/-- A call on a registry. -/
inductive Operation (α : Type) where
  | activate (m : Matcher)
  | deactivate (m : Matcher)
  | attach (ref : EntryRef) (a : α)
  | clear

/-- A call with its answer. A refused attachment has no count. -/
inductive Call (α : Type) where
  | activate (m : Matcher) (ref : EntryRef) (found : Activation)
  | deactivate (m : Matcher) (ref? : Option EntryRef)
  | attach (ref : EntryRef) (a : α) (count? : Option Nat)
  | clear (actors : Nat)

/-- Carries out a call. A refused attachment leaves the registry as it is. -/
def carryOut (r : Registry α) : Operation α → Registry α × Call α
  | .activate m => ((r.activate m).1, .activate m (r.activate m).2.1 (r.activate m).2.2)
  | .deactivate m => ((r.deactivate m).1, .deactivate m (r.deactivate m).2)
  | .attach ref a =>
    match r.attach? ref a with
    | none => (r, .attach ref a none)
    | some (r, count) => (r, .attach ref a (some count))
  | .clear => (r.clear.1, .clear r.clear.2)

/-- Registries under their numbers, and the calls on them from first to last. -/
structure Shelf (α : Type) where
  registry : Nat → Registry α
  calls : List (Nat × Call α)

/-- Registries on which nothing was called. -/
def Shelf.empty : Shelf α := ⟨fun i => { id := i }, []⟩

/-- Carries out a call on one of the registries. -/
def Shelf.call (s : Shelf α) (x : Nat × Operation α) : Shelf α :=
  ⟨Function.update s.registry x.1 ((s.registry x.1).carryOut x.2).1,
    s.calls ++ [(x.1, ((s.registry x.1).carryOut x.2).2)]⟩

/-- Carries out calls from first to last. -/
def Shelf.run (ops : List (Nat × Operation α)) : Shelf α := ops.foldl Shelf.call Shelf.empty

/-- The calls on one registry from first to last. -/
def Shelf.history (s : Shelf α) (i : Nat) : List (Call α) :=
  s.calls.filterMap fun c => if c.1 = i then some c.2 else none

theorem run_concat (ops : List (Nat × Operation α)) (x : Nat × Operation α) :
    Shelf.run (ops ++ [x]) = (Shelf.run ops).call x := by
  simp [Shelf.run]

theorem registry_call_self (s : Shelf α) (i : Nat) (op : Operation α) :
    (s.call (i, op)).registry i = ((s.registry i).carryOut op).1 := by
  simp [Shelf.call]

theorem registry_call_ne (s : Shelf α) {i j : Nat} (h : j ≠ i) (op : Operation α) :
    (s.call (i, op)).registry j = s.registry j := by
  simp [Shelf.call, h]

theorem history_call_self (s : Shelf α) (i : Nat) (op : Operation α) :
    (s.call (i, op)).history i = s.history i ++ [((s.registry i).carryOut op).2] := by
  simp [Shelf.call, Shelf.history]

theorem history_call_ne (s : Shelf α) {i j : Nat} (h : j ≠ i) (op : Operation α) :
    (s.call (i, op)).history j = s.history j := by
  simp [Shelf.call, Shelf.history, Ne.symm h]

namespace Call

/-- Whether a call clears the registry. -/
def isClear : Call α → Bool
  | .clear _ => true
  | _ => false

/-- The pattern that a call activates, with the entry it answers. -/
def activated? : Call α → Option (Matcher × EntryRef)
  | .activate m ref _ => some (m, ref)
  | _ => none

/-- Whether a call switches a key on or off. -/
def switch? (key : String) : Call α → Option Bool
  | .activate m _ _ => if m.key = key then some true else none
  | .deactivate m _ => if m.key = key then some false else none
  | _ => none

/-- The actor that a call attached to an entry. -/
def attached? (ref : EntryRef) : Call α → Option α
  | .attach other a (some _) => if other = ref then some a else none
  | _ => none

end Call

/-! ## What a history tells -/

/-- The calls since the registry was last cleared. -/
def recent (h : List (Call α)) : List (Call α) := h.rtakeWhile fun c => !c.isClear

/-- The patterns activated since the last clearing, each time with the entry that was answered. -/
def activations (h : List (Call α)) : List (Matcher × EntryRef) :=
  (recent h).filterMap Call.activated?

/-- Of activations, the first one of each key. -/
def firsts : List (Matcher × EntryRef) → List (Matcher × EntryRef)
  | [] => []
  | x :: xs => x :: (firsts xs).filter fun y => y.1.key ≠ x.1.key

/-- The entries that were ever answered. -/
def answered (h : List (Call α)) : List EntryRef := (h.filterMap Call.activated?).map (·.2)

/-- Whether a key is switched on: the last activation or deactivation of the key since the last
clearing was an activation. -/
def isOn (h : List (Call α)) (key : String) : Bool :=
  ((recent h).filterMap (Call.switch? key)).getLast? = some true

/-- The actors that were attached to an entry, in the order of the calls. -/
def attachedTo (h : List (Call α)) (ref : EntryRef) : List α := h.filterMap (Call.attached? ref)

/-- The entry of a key whose first activation is given. -/
def entryOf (h : List (Call α)) (x : Matcher × EntryRef) : Entry α :=
  ⟨x.2, x.1, isOn h x.1.key, attachedTo h x.2⟩

/-- The entries that a history leaves: one for each key activated since the last clearing, in the
order of the first activations. -/
def entries (h : List (Call α)) : List (Entry α) := (firsts (activations h)).map (entryOf h)

/-! ## One more call -/

/-- A clearing begins anew, and any other call is added. -/
theorem recent_concat (h : List (Call α)) (c : Call α) :
    recent (h ++ [c]) = if c.isClear then [] else recent h ++ [c] := by
  unfold recent
  rw [List.rtakeWhile_concat]
  cases c.isClear <;> simp

/-- One more call may be one more activation. -/
theorem activations_concat (h : List (Call α)) {c : Call α} (hc : c.isClear = false) :
    activations (h ++ [c]) = activations h ++ c.activated?.toList := by
  unfold activations
  rw [recent_concat, hc]
  cases hx : c.activated? <;> simp [hx]

/-- A key is switched by the call, or else as it was. -/
theorem isOn_concat (h : List (Call α)) {c : Call α} (hc : c.isClear = false) (key : String) :
    isOn (h ++ [c]) key = (c.switch? key).getD (isOn h key) := by
  unfold isOn
  rw [recent_concat, hc]
  cases hx : c.switch? key <;> simp [hx]

theorem attachedTo_concat (h : List (Call α)) (c : Call α) (ref : EntryRef) :
    attachedTo (h ++ [c]) ref = attachedTo h ref ++ (c.attached? ref).toList := by
  unfold attachedTo
  cases hx : c.attached? ref <;> simp [hx]

theorem answered_concat (h : List (Call α)) (c : Call α) :
    answered (h ++ [c]) = answered h ++ (c.activated?.map (·.2)).toList := by
  unfold answered
  cases hx : c.activated? <;> simp [hx]

/-- Activations since the last clearing are activations. -/
theorem activations_subset (h : List (Call α)) :
    ∀ {x}, x ∈ activations h → x ∈ h.filterMap Call.activated? := by
  intro x hx
  obtain ⟨c, hc, hcx⟩ := List.mem_filterMap.mp hx
  exact List.mem_filterMap.mpr ⟨c, (List.rtakeWhile_suffix _ h).subset hc, hcx⟩

/-! ## First activations -/

/-- The first activation of a key is found among the first ones as among all. -/
theorem find?_firsts (l : List (Matcher × EntryRef)) (key : String) :
    (firsts l).find? (·.1.key = key) = l.find? (·.1.key = key) := by
  induction l with
  | nil => rfl
  | cons x xs ih =>
      by_cases hx : x.1.key = key
      · simp [firsts, hx]
      · -- the keys left out are not the one that is looked for
        have hrest : ((firsts xs).filter fun y => y.1.key ≠ x.1.key).find? (·.1.key = key)
            = (firsts xs).find? (·.1.key = key) := by
          rw [List.find?_filter]
          congr 1
          funext y
          by_cases hy : y.1.key = key
          · simp [hy, Ne.symm hx]
          · simp [hy]
        simp only [firsts, List.find?_cons, hx, decide_false]
        rw [hrest, ih]

/-- One more activation is a first one, unless its key was activated. -/
theorem firsts_concat (l : List (Matcher × EntryRef)) (x : Matcher × EntryRef) :
    firsts (l ++ [x]) = if l.any (·.1.key = x.1.key) then firsts l else firsts l ++ [x] := by
  induction l with
  | nil => rfl
  | cons y ys ih =>
      rw [List.cons_append, firsts, ih]
      by_cases hyx : y.1.key = x.1.key
      · by_cases hany : ys.any (·.1.key = x.1.key) = true
        · simp [firsts, hany, hyx]
        · simp [firsts, hany, hyx]
      · by_cases hany : ys.any (·.1.key = x.1.key) = true
        · simp [firsts, hany]
        · simp [firsts, hany, hyx, Ne.symm hyx]

/-! ## Entries without actors -/

/-- Entries without actors add nothing to the calls of an event. -/
theorem flatMap_filter_nonempty {β : Type} (l : List β) (p q : β → Bool) (f : β → List α) :
    (l.filter fun x => p x && !(f x).isEmpty && q x).flatMap f
      = (l.filter fun x => p x && q x).flatMap f := by
  induction l with
  | nil => rfl
  | cons x xs ih =>
      by_cases hempty : f x = []
      · by_cases hpq : (p x && q x) = true
        · simp [hempty, hpq, ih]
        · simp [hempty, hpq, ih]
      · by_cases hpq : (p x && q x) = true
        · simp_all
        · simp_all

end EventHub.Registry
