import EventHub.Hub.World
import Mathlib.Tactic.Common

/-! # Outcomes of runs

`Run.outcome act w` is how `act` ends when it begins in the world `w`, and the world that it leaves. The
simp lemmas of this module compute it along the structure of an action: a sequence goes on from the
world that its first part leaves, and stops where the first part stops.
-/

namespace EventHub

/-- The world inside a scope that is entered. -/
def World.inside (w : World) (fields : Fields) : World :=
  { w with
    correlations := w.correlations + 1
    context := Log.within w.context fields (Log.generatedId (w.correlations + 1)) }

/-- The world after a record was written: it is in the journal, and on the console and in the file where
logging is set up. -/
def World.logged (w : World) (r : Log.Record) : World :=
  match w.sink? with
  | none => w.note (.logged r)
  | some s =>
    { w.note (.logged r) with sink? := some (s.write w.machine r).1, machine := (s.write w.machine r).2 }

/-- What logging a record enters into the journal: the record, stamped from the context, unless its level
is too low. -/
def World.records (w : World) (r : Log.Record) : List Occurrence :=
  if r.level < w.logLevel then [] else [.logged (r.stamped w.context)]

/-- The world after a record was logged. -/
def World.afterLog (w : World) (r : Log.Record) : World :=
  if r.level < w.logLevel then w else w.logged (r.stamped w.context)

namespace World

@[simp] theorem journal_logged (w : World) (r : Log.Record) :
    (w.logged r).journal = .logged r :: w.journal := by
  unfold logged
  cases w.sink? <;> rfl

@[simp] theorem hubs_logged (w : World) (r : Log.Record) : (w.logged r).hubs = w.hubs := by
  unfold logged
  cases w.sink? <;> rfl

/-- The journal after logging has the record on top, unless its level is too low. -/
theorem journal_afterLog (w : World) (r : Log.Record) :
    (w.afterLog r).journal = (w.records r).reverse ++ w.journal := by
  unfold afterLog records
  split <;> simp

@[simp] theorem hubs_afterLog (w : World) (r : Log.Record) : (w.afterLog r).hubs = w.hubs := by
  unfold afterLog
  split <;> simp

end World

namespace Run

variable {α β : Type}

/-- How an action ends when it begins in a world, and the world that it leaves. -/
def outcome (act : Run α) (w : World) : Except Stop α × World := act.run w

@[simp] theorem outcome_pure (a : α) (w : World) : outcome (pure a) w = (.ok a, w) := rfl

/-- A sequence goes on from the world that its first part leaves, unless that part stops. -/
theorem outcome_bind (act : Run α) (f : α → Run β) (w : World) :
    outcome (act >>= f) w =
      match outcome act w with
      | (.ok a, v) => outcome (f a) v
      | (.error s, v) => (.error s, v) := by
  -- the bind of the transformer, taken apart by hand
  change (ExceptT.bindCont f (act.run w).1 : StateM World _) (act.run w).2 = _
  unfold outcome
  rcases act.run w with ⟨a | s, v⟩ <;> rfl

/-- A result that is changed afterwards leaves the same world. -/
theorem outcome_map (f : α → β) (act : Run α) (w : World) :
    outcome (f <$> act) w =
      match outcome act w with
      | (.ok a, v) => (.ok (f a), v)
      | (.error s, v) => (.error s, v) := by
  rw [map_eq_pure_bind, outcome_bind]
  rfl

/-- Forming the result leaves the world as it is. -/
theorem left_bind_pure (act : Run α) (f : α → β) (w : World) :
    (outcome (act >>= fun a => pure (f a)) w).2 = (outcome act w).2 := by
  rw [outcome_bind]
  rcases outcome act w with ⟨stop | a, v⟩ <;> rfl

theorem outcome_bind_ok {act : Run α} {w v : World} {a : α} (h : outcome act w = (.ok a, v))
    (f : α → Run β) : outcome (act >>= f) w = outcome (f a) v := by
  rw [outcome_bind, h]

theorem outcome_bind_error {act : Run α} {w v : World} {s : Stop} (h : outcome act w = (.error s, v))
    (f : α → Run β) : outcome (act >>= f) w = (.error s, v) := by
  rw [outcome_bind, h]

/-- A sequence that returns goes on from a result of its first part. -/
theorem exists_of_outcome_bind {act : Run α} {f : α → Run β} {w v : World} {b : β}
    (h : outcome (act >>= f) w = (.ok b, v)) :
    ∃ a u, outcome act w = (.ok a, u) ∧ outcome (f a) u = (.ok b, v) := by
  rcases hact : outcome act w with ⟨s | a, u⟩
  · rw [outcome_bind_error hact] at h
    simp at h
  · rw [outcome_bind_ok hact] at h
    exact ⟨a, u, rfl, h⟩

@[simp] theorem outcome_get_bind (f : World → Run β) (w : World) :
    outcome (get >>= f) w = outcome (f w) w := rfl

@[simp] theorem outcome_set (v w : World) : outcome (set v) w = (.ok ⟨⟩, v) := rfl

@[simp] theorem outcome_modify (f : World → World) (w : World) :
    outcome (modify f) w = (.ok ⟨⟩, f w) := rfl

@[simp] theorem outcome_set_bind (v w : World) (f : PUnit → Run β) :
    outcome (set v >>= f) w = outcome (f ⟨⟩) v := rfl

@[simp] theorem outcome_modify_bind (g : World → World) (w : World) (f : PUnit → Run β) :
    outcome (modify g >>= f) w = outcome (f ⟨⟩) (g w) := rfl

@[simp] theorem outcome_throw (s : Stop) (w : World) :
    outcome (throw s : Run α) w = (.error s, w) := rfl

@[simp] theorem outcome_raise (f : Fault) (w : World) :
    outcome (raise f : Run α) w = (.error (.fault f), w) := rfl

@[simp] theorem outcome_note (o : Occurrence) (w : World) :
    outcome (note o) w = (.ok ⟨⟩, w.note o) := rfl

@[simp] theorem outcome_note_bind (o : Occurrence) (w : World) (f : PUnit → Run β) :
    outcome (note o >>= f) w = outcome (f ⟨⟩) (w.note o) := rfl

/-- A fault that an attempt holds back is its result; nesting that is too deep is not held back. -/
theorem outcome_attempt (act : Run α) (w : World) :
    outcome (attempt act) w =
      match outcome act w with
      | (.ok a, v) => (.ok (.ok a), v)
      | (.error (.fault f), v) => (.ok (.error f), v)
      | (.error .tooDeep, v) => (.error .tooDeep, v) := rfl

/-- A scope gives back the context around it, however the action inside ends. -/
theorem outcome_inScope (fields : Fields) (act : Run α) (w : World) :
    outcome (inScope fields act) w =
      ((outcome act (w.inside fields)).1,
        { (outcome act (w.inside fields)).2 with context := w.context }) := rfl

theorem outcome_inScope_of {fields : Fields} {act : Run α} {w v : World} {r : Except Stop α}
    (h : outcome act (w.inside fields) = (r, v)) :
    outcome (inScope fields act) w = (r, { v with context := w.context }) := by
  rw [outcome_inScope, h]

theorem outcome_ite (p : Prop) [Decidable p] (act other : Run α) (w : World) :
    outcome (if p then act else other) w = if p then outcome act w else outcome other w := by
  split <;> rfl

/-! ## Logging -/

/-- A record whose extra fields clash with none of its own is written unless its level is too low. -/
theorem outcome_log {logger : String} {level : Int} {message : Value} {args : List Value}
    {extra : Fields} {fault? : Option Fault} (hclash : Log.clash? extra = none) (w : World) :
    outcome (log logger level message args extra fault?) w =
      (.ok ⟨⟩, w.afterLog
        { logger := logger, level := level, message := message, args := args, attributes := extra
          fault? := fault?, created := Log.sessionMoment }) := by
  rw [log, outcome_get_bind, outcome_ite, hclash, World.afterLog]
  split
  · rfl
  · rw [World.logged]
    cases w.sink? <;> rfl

/-- A record with a clashing extra field is refused unless its level is too low. -/
theorem outcome_log_clash {logger : String} {level : Int} {message : Value} {args : List Value}
    {extra : Fields} {fault? : Option Fault} {name : String} (hclash : Log.clash? extra = some name)
    (w : World) :
    outcome (log logger level message args extra fault?) w =
      (if level < w.logLevel then .ok ⟨⟩ else .error (.fault (.reservedField name)), w) := by
  rw [log, outcome_get_bind, outcome_ite, hclash]
  split <;> rfl

/-! ## Lists of actions -/

/-- A list of actions goes on with its rest where the first one returns. -/
theorem outcome_forM_cons (x : β) (xs : List β) (f : β → Run PUnit) (w : World) :
    outcome ((x :: xs).forM f) w =
      match outcome (f x) w with
      | (.ok _, v) => outcome (xs.forM f) v
      | (.error s, v) => (.error s, v) := by
  change outcome (f x >>= fun _ => xs.forM f) w = _
  rw [outcome_bind]
  rcases outcome (f x) w with ⟨a | s, v⟩ <;> rfl

end Run

end EventHub
