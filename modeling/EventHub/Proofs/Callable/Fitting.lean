import EventHub.Callable.Profile
import Mathlib.Tactic.Common

/-! # Arguments that fit

When a call gives a signature what it needs: as many arguments by position as there is room for, names that
stand for parameters not given by position, and all parameters that have no default. Which values are given
makes no difference to that, so that a call is told by how many arguments it gives by position and which names
(`bind_ok_iff`).

Main statement: `start_ok_iff`.
-/

namespace EventHub

namespace Signature

/-- Whether some parameter can be given under a name. -/
def takesName (s : Signature) (x : String) : Bool := s.params.any fun p => p.isNamed && p.name = x

/-- A call may give a name beside what it gives by position. -/
def AdmitsName (s : Signature) (direct : List Param) (x : String) : Prop :=
  if s.takesName x then ∀ p ∈ direct, p.name ≠ x else s.has .keywordRest = true

/-- A call fits that gives so many arguments by position, and others by name. -/
structure Fits (s : Signature) (count : Nat) (isGiven : String → Prop) : Prop where
  named : ∀ x, isGiven x → s.AdmitsName (s.positional.take count) x
  room : count ≤ s.positional.length ∨ s.has .rest = true
  positional : ∀ p ∈ s.positional.drop count, p.isRequired = true →
    s.takesName p.name = true ∧ isGiven p.name
  keywords : ∀ p ∈ s.keywordOnly, p.isRequired = true → isGiven p.name

variable {s : Signature} {callee : String} {direct : List Param} {names : List String}

/-- A name is taken exactly if it is that of a parameter which can be given by name. -/
theorem takesName_iff {x : String} :
    s.takesName x = true ↔ ∃ p ∈ s.params, p.isNamed = true ∧ p.name = x := by
  simp [takesName]

theorem takesName_of_keywordOnly {p : Param} (h : p ∈ s.keywordOnly) : s.takesName p.name = true := by
  obtain ⟨hp, hkind⟩ := List.mem_filter.mp h
  refine takesName_iff.mpr ⟨p, hp, ?_, rfl⟩
  simp [Param.isNamed, of_decide_eq_true hkind]

/-! ## Binding names -/

/-- What is bound by name once one more argument is given. -/
def Named.give (s : Signature) (acc : Named) (arg : String × Value) : Named :=
  if s.takesName arg.1 then { acc with bound := acc.bound ++ [arg] }
  else { acc with others := acc.others ++ [arg] }

/-- One more argument is bound by name exactly if the signature admits its name. -/
theorem bindNamed_eq_ok_iff {acc taken : Named} {arg : String × Value} (hfresh : arg.1 ∉ acc.bound.keys) :
    s.bindNamed callee direct names acc arg = .ok taken ↔
      s.AdmitsName direct arg.1 ∧ acc.give s arg = taken := by
  obtain ⟨x, v⟩ := arg
  have hnew : acc.bound.contains x = false :=
    Bool.eq_false_iff.mpr fun h => hfresh (OrderedMap.contains_iff_mem_keys.mp h)
  unfold bindNamed AdmitsName Named.give
  dsimp only
  rw [← takesName]
  cases s.takesName x with
  | true =>
      -- the name is that of a parameter, and is refused if this parameter is given by position already
      rw [if_pos rfl, if_pos rfl, if_pos rfl, hnew, Bool.or_false]
      cases hdirect : direct.any (·.name = x) with
      | true =>
          obtain ⟨p, hp, hname⟩ := List.any_eq_true.mp hdirect
          rw [if_pos rfl]
          exact ⟨nofun, fun h => absurd (of_decide_eq_true hname) (h.1 p hp)⟩
      | false =>
          rw [if_neg Bool.false_ne_true, Except.ok.injEq]
          refine (and_iff_right fun p hp hname => ?_).symm
          rw [List.any_eq_true.mpr ⟨p, hp, decide_eq_true hname⟩] at hdirect
          cases hdirect
  | false =>
      -- the name is that of no parameter, and is taken only by the rest
      rw [if_neg Bool.false_ne_true, if_neg Bool.false_ne_true, if_neg Bool.false_ne_true]
      cases s.has .keywordRest with
      | true =>
          rw [if_pos rfl, Except.ok.injEq]
          exact (and_iff_right rfl).symm
      | false =>
          rw [if_neg Bool.false_ne_true]
          refine ⟨fun h => ?_, fun h => absurd h.1 Bool.false_ne_true⟩
          split at h <;> cases h

/-- An argument that a parameter takes is bound under its name, and what the rest takes is not. -/
theorem keys_give (acc : Named) (arg : String × Value) :
    (acc.give s arg).bound.keys =
      if s.takesName arg.1 then acc.bound.keys ++ [arg.1] else acc.bound.keys := by
  unfold Named.give
  split
  · exact List.map_append
  · rfl

/-- Arguments are bound by name exactly if the signature admits each of the names. -/
theorem foldlM_bindNamed_eq_ok_iff {named : Fields} {acc taken : Named}
    (hkeys : (acc.bound.keys ++ named.keys).Nodup) :
    named.foldlM (s.bindNamed callee direct names) acc = .ok taken ↔
      (∀ x ∈ named.keys, s.AdmitsName direct x) ∧ named.foldl (Named.give s) acc = taken := by
  induction named generalizing acc with
  | nil => simp [OrderedMap.keys, pure, Except.pure]
  | cons arg rest ih =>
      obtain ⟨hbound, hgiven, hapart⟩ := List.nodup_append.mp hkeys
      have hfresh : arg.1 ∉ acc.bound.keys := fun h => hapart _ h _ List.mem_cons_self rfl
      -- names that come once still come once when the first of them is bound
      have hnext : ((acc.give s arg).bound.keys ++ OrderedMap.keys rest).Nodup := by
        rw [keys_give]
        split
        · rw [List.append_assoc]
          exact hkeys
        · exact hkeys.sublist (List.Sublist.append_left (List.sublist_cons_self _ _) _)
      rw [List.foldlM_cons, List.foldl_cons]
      -- the first name is bound, and then the others are, or fail to be, from what is bound by then
      constructor
      · intro h
        cases hstep : s.bindNamed callee direct names acc arg with
        | error e =>
            rw [hstep] at h
            cases h
        | ok next =>
            rw [hstep] at h
            obtain ⟨hadmits, rfl⟩ := (bindNamed_eq_ok_iff hfresh).mp hstep
            obtain ⟨hrest, htaken⟩ := (ih hnext).mp h
            exact ⟨List.forall_mem_cons.mpr ⟨hadmits, hrest⟩, htaken⟩
      · rintro ⟨hall, htaken⟩
        obtain ⟨hadmits, hrest⟩ := List.forall_mem_cons.mp hall
        rw [(bindNamed_eq_ok_iff hfresh).mpr ⟨hadmits, rfl⟩]
        exact (ih hnext).mpr ⟨hrest, htaken⟩

/-- By induction on the arguments: bound are the names that parameters take, in their order. -/
theorem keys_foldl_give (named : Fields) (acc : Named) :
    (named.foldl (Named.give s) acc).bound.keys = acc.bound.keys ++ named.keys.filter s.takesName := by
  induction named generalizing acc with
  | nil => exact (List.append_nil _).symm
  | cons arg rest ih =>
      have hkeys : OrderedMap.keys (arg :: rest) = arg.1 :: OrderedMap.keys rest := rfl
      rw [List.foldl_cons, ih, keys_give, hkeys, List.filter_cons]
      split
      · rw [List.append_assoc]
        rfl
      · rfl

/-! ## Calls -/

/-- A guard that does not refuse lets through what stands behind it. -/
theorem exists_ok_guarded {ε α : Type} {refuses : Bool} {e : ε} {x : Except ε α} :
    (∃ a, (if refuses = true then .error e else x) = .ok a) ↔ refuses = false ∧ ∃ a, x = .ok a := by
  cases refuses with
  | true => simp
  | false => simp

/-- No parameter that has to be given is left out. -/
theorem isEmpty_missing {ps : List Param} {isGiven : Param → Bool} :
    (!(ps.filter fun p => p.isRequired && !isGiven p).isEmpty) = false ↔
      ∀ p ∈ ps, p.isRequired = true → isGiven p = true := by
  rw [Bool.not_eq_false', List.isEmpty_iff, List.filter_eq_nil_iff]
  refine forall₂_congr fun p _ => ?_
  cases p.isRequired <;> cases isGiven p <;> simp

/-- **When arguments are bound**: exactly if the call fits. -/
theorem bind_ok_iff {args : List Value} {named : Fields} (hkeys : named.keys.Nodup) :
    (∃ bound, s.bind callee args named = .ok bound) ↔ s.Fits args.length (· ∈ named.keys) := by
  have hfold := fun taken => @foldlM_bindNamed_eq_ok_iff s callee (s.positional.take args.length)
    named.keys named {} taken hkeys
  unfold bind
  dsimp only
  cases htaken : named.foldlM (s.bindNamed callee (s.positional.take args.length) named.keys) {} with
  | error e =>
      -- a name is refused, so that it is not admitted
      refine ⟨fun h => h.elim nofun, fun hfits => ?_⟩
      rw [(hfold _).mpr ⟨hfits.named, rfl⟩] at htaken
      cases htaken
  | ok taken =>
      -- all names are bound, and what remains are the guards for the number and for what is missing
      obtain ⟨hadmits, rfl⟩ := (hfold taken).mp htaken
      clear htaken
      have hgiven : ∀ p : Param, (named.foldl (Named.give s) {}).bound.contains p.name = true ↔
          s.takesName p.name = true ∧ p.name ∈ named.keys := by
        intro p
        rw [OrderedMap.contains_iff_mem_keys, keys_foldl_give]
        exact List.mem_filter.trans and_comm
      refine exists_ok_guarded.trans ((and_congr_right fun _ => exists_ok_guarded.trans
        (and_congr_right fun _ => exists_ok_guarded)).trans ?_)
      rw [isEmpty_missing, isEmpty_missing]
      constructor
      · rintro ⟨hroom, hpositional, hkeywords, -⟩
        refine ⟨hadmits, ?_, fun p hp hp' => (hgiven p).mp (hpositional p hp hp'),
          fun p hp hp' => ((hgiven p).mp (hkeywords p hp hp')).2⟩
        -- too many arguments are refused, as no rest takes them
        by_contra hno
        obtain ⟨hmany, hrest⟩ := not_or.mp hno
        rw [Bool.eq_false_iff.mpr hrest, decide_eq_true (Nat.not_le.mp hmany)] at hroom
        cases hroom
      · intro hfits
        refine ⟨?_, fun p hp hp' => (hgiven p).mpr (hfits.positional p hp hp'), fun p hp hp' =>
          (hgiven p).mpr ⟨takesName_of_keywordOnly hp, hfits.keywords p hp hp'⟩, _, rfl⟩
        rcases hfits.room with hfew | hrest
        · rw [decide_eq_false (Nat.not_lt.mpr hfew), Bool.false_and]
        · rw [hrest, Bool.not_true, Bool.and_false]

/-- **What a check of the number of arguments says**: whether so many arguments by position fit. -/
theorem accepts_iff {count : Nat} : s.accepts count = true ↔ s.Fits count fun _ => False := by
  -- counting arguments is the same as a call without any names
  unfold accepts
  rw [Bool.and_eq_true, Bool.and_eq_true, Bool.or_eq_true, decide_eq_true_iff, List.all_eq_true,
    List.all_eq_true]
  constructor
  · rintro ⟨⟨hroom, hpositional⟩, hkeywords⟩
    refine ⟨nofun, hroom, fun p hp hp' => ?_, fun p hp hp' => ?_⟩
    · have hopen := hpositional p hp
      rw [hp'] at hopen
      cases hopen
    · have hopen := hkeywords p hp
      rw [hp'] at hopen
      cases hopen
  · intro hfits
    refine ⟨⟨hfits.room, fun p hp => ?_⟩, fun p hp => ?_⟩
    · rw [Bool.eq_false_iff.mpr fun hp' => (hfits.positional p hp hp').2]
      rfl
    · rw [Bool.eq_false_iff.mpr (hfits.keywords p hp)]
      rfl

end Signature

namespace Shape

/-- The signature of a body that is handed an object first. -/
def withReceiver (own : Signature) : Signature := { own with params := receiver own :: own.params }

/-- A call of a callable gets through to its body, where `own` is the signature of the body. -/
def Reaches (own : Signature) : Shape → Nat → (String → Prop) → Prop
  | .function, count, isGiven => own.Fits count isGiven
  | .stored target args named, count, isGiven =>
    target.Reaches own (args.length + count) fun x => x ∈ named.keys ∨ isGiven x
  | .builtin _, _, _ => False
  | .plain _, _, _ => False
  | _, count, isGiven => (withReceiver own).Fits (1 + count) isGiven

/-- A callable has a body, and each name of the arguments that are stored in advance comes once. -/
def HasBody : Shape → Prop
  | .stored target _ named => target.HasBody ∧ named.keys.Nodup
  | .builtin _ => False
  | .plain _ => False
  | _ => True

/-- A result that is changed afterwards is there exactly if it was before. -/
theorem exists_ok_map {ε α β : Type} {f : α → β} {x : Except ε α} :
    (∃ b, x.map f = .ok b) ↔ ∃ a, x = .ok a := by
  cases x with
  | error e => exact ⟨fun h => h.elim nofun, fun h => h.elim nofun⟩
  | ok a => exact ⟨fun _ => ⟨a, rfl⟩, fun _ => ⟨f a, rfl⟩⟩

variable {shape : Shape} {own : Signature} {callee : String} {asynchronous : Bool} {args : List Value}
  {named : Fields}

theorem bind_withReceiver_ok_iff (f : Fields → Started) (hkeys : named.keys.Nodup) :
    (∃ started, ((withReceiver own).bind callee (.none :: args) named).map f = .ok started) ↔
      (withReceiver own).Fits (1 + args.length) (· ∈ named.keys) := by
  rw [exists_ok_map, Signature.bind_ok_iff hkeys, List.length_cons, Nat.add_comm]

/-- **When a call starts**: exactly if its arguments, together with those stored in advance, get through to
the body. -/
theorem start_ok_iff (hbody : shape.HasBody) (hkeys : named.keys.Nodup) :
    (∃ started, shape.start callee own asynchronous args named = .ok started) ↔
      shape.Reaches own args.length (· ∈ named.keys) := by
  induction shape generalizing args named with
  | function => exact exists_ok_map.trans (Signature.bind_ok_iff hkeys)
  | method owner => exact bind_withReceiver_ok_iff _ hkeys
  | object owner => exact bind_withReceiver_ok_iff _ hkeys
  | constructor asynchronousCall => exact bind_withReceiver_ok_iff _ hkeys
  | builtin b => exact hbody.elim
  | plain v => exact hbody.elim
  | stored target first before ih =>
      -- what is stored is put in front, or bound behind the names that are given
      obtain ⟨htarget, hbefore⟩ := hbody
      have hcall := @ih (first ++ args) _ htarget (OrderedMap.nodup_keys_insertAll hbefore named)
      rw [List.length_append, funext fun x => propext (OrderedMap.mem_keys_insertAll (k := x))] at hcall
      exact hcall

end Shape

end EventHub
