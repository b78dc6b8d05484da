import EventHub.Hub.Behaviour
import Mathlib.Data.List.Forall2

/-! # Calls with another payload

`Swap.Values` relates a value to the same value with one payload in place of another. Binding the arguments
of a call looks at no argument: related arguments are bound alike, or refused with the same complaint
(`Swap.binds`). Hence calls start alike (`Swap.starts`), but for functions built into the host language, which
do what they do with their arguments. As actors, these are given an event first, which compares with nothing,
so that they do not come to look at the payload (`Swap.builtin_after_event`).
-/

namespace EventHub

/-! ## Related maps and results -/

/-- Related options are both nothing, or both something. -/
theorem related_options {α : Type u} {β : Type v} {R : α → β → Prop} {x : Option α} {y : Option β}
    (h : Option.Rel R x y) : x = none ∧ y = none ∨ ∃ a b, x = some a ∧ y = some b ∧ R a b := by
  cases h with
  | none => exact .inl ⟨rfl, rfl⟩
  | some hab => exact .inr ⟨_, _, rfl, rfl, hab⟩

/-- Related options stay related when related functions are applied. -/
theorem related_options_map {α : Type u} {β : Type v} {γ : Type u'} {δ : Type v'} {R : α → β → Prop}
    {S : γ → δ → Prop} {f : α → γ} {g : β → δ} {x : Option α} {y : Option β} (h : Option.Rel R x y)
    (hf : ∀ a b, R a b → S (f a) (g b)) : Option.Rel S (x.map f) (y.map g) := by
  cases h with
  | none => exact .none
  | some hab => exact .some (hf _ _ hab)

namespace OrderedMap

variable {κ : Type} {α : Type u} {β : Type v} {R : α → β → Prop} {m n : OrderedMap κ α}
  {m' n' : OrderedMap κ β}

/-- Two maps with the same keys in the same order and with related values. -/
def Rel (R : α → β → Prop) (m : OrderedMap κ α) (m' : OrderedMap κ β) : Prop :=
  List.Forall₂ (fun b b' => b.1 = b'.1 ∧ R b.2 b'.2) m m'

theorem Rel.keys (h : Rel R m m') : m.keys = m'.keys := by
  induction h with
  | nil => rfl
  | cons hb _ ih => exact congrArg₂ List.cons hb.1 ih

theorem Rel.values (h : Rel R m m') : List.Forall₂ R m.values m'.values := by
  induction h with
  | nil => exact .nil
  | cons hb _ ih => exact .cons hb.2 ih

theorem Rel.append (h : Rel R m m') (hn : Rel R n n') : Rel R (m ++ n) (m' ++ n') := List.rel_append h hn

theorem Rel.of_refl {R : α → α → Prop} (hR : ∀ a, R a a) (m : OrderedMap κ α) : Rel R m m :=
  List.forall₂_same.mpr fun b _ => ⟨rfl, hR b.2⟩

variable [DecidableEq κ]

/-- By induction on the maps: the same bindings are passed over until the key is found. -/
theorem Rel.find? (h : Rel R m m') (k : κ) : Option.Rel R (m.find? k) (m'.find? k) := by
  induction h with
  | nil => exact .none
  | @cons b b' _ _ hb _ ih =>
      rw [find?_cons, find?_cons, ← hb.1]
      by_cases hk : b.1 = k
      · rw [if_pos hk, if_pos hk]
        exact .some hb.2
      · rw [if_neg hk, if_neg hk]
        exact ih

/-- Related maps bind the same keys. -/
theorem Rel.contains (h : Rel R m m') (k : κ) : m.contains k = m'.contains k := by
  rw [contains_eq_isSome_find?, contains_eq_isSome_find?]
  rcases related_options (h.find? k) with ⟨hm, hm'⟩ | ⟨a, b, hm, hm', -⟩
  · rw [hm, hm']
    rfl
  · rw [hm, hm']
    rfl

/-- A binding is replaced in both maps at the same place, or added to both at the end. -/
theorem Rel.insert (h : Rel R m m') (k : κ) {a : α} {a' : β} (ha : R a a') :
    Rel R (m.insert k a) (m'.insert k a') := by
  induction h with
  | nil => exact .cons ⟨rfl, ha⟩ .nil
  | @cons b b' _ _ hb hrest ih =>
      unfold OrderedMap.insert
      rw [← hb.1]
      by_cases hk : b.1 = k
      · rw [if_pos hk, if_pos hk]
        exact .cons ⟨rfl, ha⟩ hrest
      · rw [if_neg hk, if_neg hk]
        exact .cons hb ih

/-- Bindings are added to related maps one after another. -/
theorem Rel.insertAll (h : Rel R m m') (hn : Rel R n n') : Rel R (m.insertAll n) (m'.insertAll n') := by
  unfold OrderedMap.insertAll
  induction hn generalizing m m' with
  | nil => exact h
  | @cons b b' _ _ hb _ ih =>
      rw [List.foldl_cons, List.foldl_cons, ← hb.1]
      exact ih (h.insert b.1 hb.2)

end OrderedMap

/-- Both fail alike, or both succeed with related results. -/
inductive Agree {ε : Type u} {α : Type v} {β : Type w} (R : α → β → Prop) : Except ε α → Except ε β → Prop
  | ok {a : α} {b : β} (h : R a b) : Agree R (.ok a) (.ok b)
  | error (e : ε) : Agree R (.error e) (.error e)

namespace Agree

variable {ε α β γ δ : Type} {R : α → β → Prop} {S : γ → δ → Prop} {x : Except ε α} {y : Except ε β}

theorem of_eq {R : α → α → Prop} (hR : ∀ a, R a a) {x y : Except ε α} (h : x = y) : Agree R x y := by
  subst h
  cases x with
  | ok a => exact .ok (hR a)
  | error e => exact .error e

/-- A sequence agrees, if its first part does, and the rest on related results. -/
theorem bind {f : α → Except ε γ} {g : β → Except ε δ} (h : Agree R x y)
    (hf : ∀ a b, R a b → Agree S (f a) (g b)) : Agree S (x >>= f) (y >>= g) := by
  cases h with
  | ok h => exact hf _ _ h
  | error e => exact .error e

/-- Results that agree still do after related functions. -/
theorem map {f : α → γ} {g : β → δ} (h : Agree R x y) (hf : ∀ a b, R a b → S (f a) (g b)) :
    Agree S (x.map f) (y.map g) := by
  cases h with
  | ok h => exact .ok (hf _ _ h)
  | error e => exact .error e

/-- Agreement is kept along lists of related items. -/
theorem foldlM {f : γ → α → Except ε γ} {g : δ → β → Except ε δ} {xs : List α} {ys : List β} {c : γ}
    {d : δ} (hxs : List.Forall₂ R xs ys) (hf : ∀ a b c d, R a b → S c d → Agree S (f c a) (g d b))
    (h : S c d) : Agree S (xs.foldlM f c) (ys.foldlM g d) := by
  induction hxs generalizing c d with
  | nil => exact .ok h
  | cons hab _ ih =>
      rw [List.foldlM_cons, List.foldlM_cons]
      exact (hf _ _ _ _ hab h).bind fun _ _ h => ih h

end Agree

/-! ## Values -/

/-- A payload and another one of the same type in its place, and which host code may stand in place of which
other when it is brought in. -/
structure Swap where
  first : Value
  second : Value
  sameType : first.typeName = second.typeName
  code : Behaviour → Behaviour → Prop
  code_refl (b : Behaviour) : code b b

namespace Swap

/-- The same value, but for the payload: as a whole, or inside lists and dictionaries. -/
inductive Values (s : Swap) : Value → Value → Prop
  | same (v : Value) : Values s v v
  | payload : Values s s.first s.second
  | list {vs vs' : List Value} (h : List.Forall₂ (Values s) vs vs') : Values s (.list vs) (.list vs')
  | dict {bs bs' : List (Value × Value)} (hkeys : bs.map (·.1) = bs'.map (·.1))
      (h : List.Forall₂ (Values s) (bs.map (·.2)) (bs'.map (·.2))) : Values s (.dict bs) (.dict bs')

/-- The same named values, but for the payload. -/
abbrev Named (s : Swap) : Fields → Fields → Prop := OrderedMap.Rel s.Values

/-- The same start of a call, but for the payload. -/
inductive Starts (s : Swap) : Started → Started → Prop
  | runs {bound bound' : Fields} (h : s.Named bound bound') : Starts s (.runs bound) (.runs bound')
  | suspended {bound bound' : Fields} (h : s.Named bound bound') :
      Starts s (.suspended bound) (.suspended bound')
  | gives {v v' : Value} (h : s.Values v v') : Starts s (.gives v) (.gives v')

variable {s : Swap}

/-- Related values have the same type. -/
theorem Values.typeName_eq {v v' : Value} (h : s.Values v v') : v.typeName = v'.typeName := by
  cases h with
  | same => rfl
  | payload => exact s.sameType
  | list => rfl
  | dict => rfl

theorem Values.refl_list (vs : List Value) : List.Forall₂ s.Values vs vs :=
  List.forall₂_same.mpr fun v _ => .same v

theorem Named.refl (fs : Fields) : s.Named fs fs := .of_refl .same fs

/-- Named values that are collected in a dictionary. -/
theorem Values.ofFields {fs fs' : Fields} (h : s.Named fs fs') :
    s.Values (Value.ofFields fs) (Value.ofFields fs') := by
  refine .dict ?_ ?_
  · have hkeys := congrArg (List.map Value.text) h.keys
    simpa [OrderedMap.keys, Function.comp_def] using hkeys
  · simpa [OrderedMap.values, Function.comp_def] using h.values

/-! ## Binding -/

variable {args args' : List Value} {named named' : Fields}

/-- What named arguments bind is the same, but for the payload. -/
structure Taken (s : Swap) (acc acc' : Signature.Named) : Prop where
  bound : s.Named acc.bound acc'.bound
  others : s.Named acc.others acc'.others

/-- One named argument more: it binds a parameter, or goes to the others, or is refused, whatever its value. -/
theorem Taken.bindNamed {acc acc' : Signature.Named} (h : s.Taken acc acc') (sig : Signature)
    (callee : String) (direct : List Param) (names : List String) (name : String) {v v' : Value}
    (hv : s.Values v v') :
    Agree s.Taken (sig.bindNamed callee direct names acc (name, v))
      (sig.bindNamed callee direct names acc' (name, v')) := by
  unfold Signature.bindNamed
  dsimp only
  rw [h.bound.contains name]
  split
  · split
    · exact .error _
    · exact .ok ⟨h.bound.append (.cons ⟨rfl, hv⟩ .nil), h.others⟩
  · split
    · -- no parameter of this name, but others are accepted
      exact .ok ⟨h.bound, h.others.append (.cons ⟨rfl, hv⟩ .nil)⟩
    · split <;> exact .error _

/-- What a parameter receives. -/
theorem Taken.received? {acc acc' : Signature.Named} (h : s.Taken acc acc') {direct direct' : Fields}
    (hdirect : s.Named direct direct') {extra extra' : List Value}
    (hextra : List.Forall₂ s.Values extra extra') (p : Param) :
    Option.Rel s.Values (Signature.received? direct extra acc p)
      (Signature.received? direct' extra' acc' p) := by
  have hdefault : Option.Rel s.Values p.default? p.default? := by
    cases p.default? with
    | none => exact .none
    | some v => exact .some (.same v)
  unfold Signature.received?
  split
  · exact .some (.list hextra)
  · exact .some (.ofFields h.others)
  · -- by place, or else by name, or else the default
    rcases related_options (hdirect.find? p.name) with ⟨hv, hv'⟩ | ⟨v, v', hv, hv', hrel⟩
    · rcases related_options (h.bound.find? p.name) with ⟨hw, hw'⟩ | ⟨w, w', hw, hw', hrel⟩
      · rw [hv, hv', hw, hw']
        exact hdefault
      · rw [hv, hv', hw, hw']
        exact .some hrel
    · rw [hv, hv']
      exact .some hrel

/-- Arguments in their places. -/
theorem named_zip (names : List String) (h : List.Forall₂ s.Values args args') :
    s.Named (names.zip args) (names.zip args') := by
  induction h generalizing names with
  | nil =>
      cases names <;> exact .nil
  | cons hv _ ih =>
      cases names with
      | nil => exact .nil
      | cons name names => exact .cons ⟨rfl, hv⟩ (ih names)

/-- Binding looks at no argument. -/
theorem binds (sig : Signature) (callee : String) (hargs : List.Forall₂ s.Values args args')
    (hnamed : s.Named named named') :
    Agree s.Named (sig.bind callee args named) (sig.bind callee args' named') := by
  unfold Signature.bind
  rw [← hargs.length_eq, ← hnamed.keys]
  dsimp only
  -- named arguments first, one after another
  have htaken : Agree s.Taken
      (named.foldlM (sig.bindNamed callee (sig.positional.take args.length) named.keys) {})
      (named'.foldlM (sig.bindNamed callee (sig.positional.take args.length) named.keys) {}) := by
    refine .foldlM hnamed ?_ ⟨.nil, .nil⟩
    rintro ⟨name, v⟩ ⟨name', v'⟩ acc acc' ⟨hname, hv⟩ hacc
    obtain rfl : name = name' := hname
    exact hacc.bindNamed sig callee _ _ name hv
  refine htaken.bind fun acc acc' hacc => ?_
  have hcontains := hacc.bound.contains
  simp only [hcontains]
  split
  · exact .error _
  · split
    · exact .error _
    · split
      · exact .error _
      · refine .ok (List.rel_filterMap (R := Eq) ?_ (List.forall₂_same.mpr fun _ _ => rfl))
        rintro p _ rfl
        exact related_options_map (hacc.received? (named_zip _ hargs) (List.forall₂_drop _ hargs) p)
          fun _ _ hv => ⟨rfl, hv⟩

/-! ## Starting calls -/

end Swap

/-- The function of the host language that a call reaches, if it does. -/
def Shape.builtin? : Shape → Option Builtin
  | .builtin b => some b
  | .stored target _ _ => target.builtin?
  | _ => none

namespace Swap

variable {s : Swap} {args args' : List Value} {named named' : Fields}

/-- Calls start alike, if a function of the host language does whatever arguments are stored in advance. -/
theorem starts (shape : Shape) (callee : String) (own : Signature) (asynchronous : Bool)
    (hbuiltin : ∀ b, shape.builtin? = some b → ∀ stored : List Value,
      Agree s.Values (b.call (stored ++ args)) (b.call (stored ++ args')))
    (hargs : List.Forall₂ s.Values args args') (hnamed : s.Named named named') :
    Agree s.Starts (shape.start callee own asynchronous args named)
      (shape.start callee own asynchronous args' named') := by
  have hbody : ∀ bound bound', s.Named bound bound' →
      s.Starts (Shape.startBody asynchronous bound) (Shape.startBody asynchronous bound') := by
    intro bound bound' hbound
    unfold Shape.startBody
    split
    · exact .suspended hbound
    · exact .runs hbound
  have hreceived := binds ({ own with params := Shape.receiver own :: own.params } : Signature) callee
    (.cons (.same .none) hargs) hnamed
  induction shape generalizing args args' named named' with
  | builtin b => exact (hbuiltin b rfl []).map fun _ _ hv => .gives hv
  | plain v => exact .error _
  | stored target first before ih =>
      -- what is stored comes first; by induction, the target starts alike with it
      unfold Shape.start
      have hfirst := List.rel_append (Values.refl_list (s := s) first) hargs
      have hbefore := (Named.refl (s := s) before).insertAll hnamed
      refine ih (fun b hb stored => ?_) hfirst hbefore (binds _ callee (.cons (.same .none) hfirst) hbefore)
      simpa using hbuiltin b hb (stored ++ first)
  | function => exact (binds own callee hargs hnamed).map hbody
  | constructor asynchronousCall =>
      exact hreceived.map fun _ _ hbound => .runs (List.forall₂_drop 1 hbound)
  | method owner => exact hreceived.map fun _ _ hbound => hbody _ _ (List.forall₂_drop 1 hbound)
  | object owner => exact hreceived.map fun _ _ hbound => hbody _ _ (List.forall₂_drop 1 hbound)

/-- A function of the host language that is given an event before the payload does not look at the payload.
-/
theorem builtin_after_event (b : Builtin) (stored : List Value) (event : Event) {v v' : Value}
    (hv : s.Values v v') :
    Agree s.Values (b.call (stored ++ [.event event, v])) (b.call (stored ++ [.event event, v'])) := by
  refine .of_eq .same ?_
  cases b with
  | length => cases stored with
    | nil => rfl
    | cons a rest => cases rest <;> simp [Builtin.call]
  | dictionary => cases stored with
    | nil => rfl
    | cons a rest => cases rest <;> simp [Builtin.call]
  | greatest => cases stored with
    | nil =>
        -- the payload's type is all that the complaint tells
        change Except.error (CallError.notOrdered v.typeName "Event") = .error (.notOrdered v'.typeName "Event")
        rw [hv.typeName_eq]
    | cons a rest =>
        have hcall : ∀ u, Builtin.call .greatest (a :: rest ++ [.event event, u]) =
            (rest ++ [.event event, u]).foldlM Builtin.greater a := fun u => by
          cases rest <;> cases a <;> rfl
        -- the comparison stops at the event
        have hevent : ∀ c u, [.event event, u].foldlM Builtin.greater c =
            .error (.notOrdered "Event" c.typeName) := fun c u => by
          cases c <;> rfl
        rw [hcall, hcall, List.foldlM_append, List.foldlM_append]
        simp only [hevent]

end Swap

end EventHub
