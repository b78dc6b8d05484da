import EventHub.Proofs.Callable.Remainder
import Mathlib.Data.List.TakeWhile

/-! # Arguments stored in advance

The signature that a caller sees once arguments are stored is that of what is left (`WellFormed.leaves`), and
can be written again, so that more arguments can be stored. If a signature describes the calls of something,
then the signature that is left describes those calls of it that hand over the stored arguments as well.

Main statement: `Describes.derived`.
-/

namespace EventHub.Signature

variable {s s' : Signature} {args : List Value} {named : Fields} {count : Nat}

/-- A parameter that keeps its kind, with what is stored for it as its default if it is given by name only. -/
def withStored (named : Fields) (p : Param) : Param :=
  if p.kind = .keywordOnly then asKeyword named p else p

/-- Storing a value leaves the kind of a parameter. -/
theorem kind_withStored (named : Fields) (p : Param) : (withStored named p).kind = p.kind := by
  unfold withStored
  split
  · rename_i hkind
    exact hkind.symm
  · rfl

theorem name_withStored (named : Fields) (p : Param) : (withStored named p).name = p.name := by
  unfold withStored
  split <;> rfl

/-- Only a parameter that is given by name only takes a stored value as its default. -/
theorem withStored_of_ne {p : Param} (h : p.kind ≠ .keywordOnly) : withStored named p = p := if_neg h

/-- The stored value is the default, if there is one, as the code of a derived signature spells it. -/
theorem withStored_eq (named : Fields) (p : Param) :
    (if p.kind = .keywordOnly then
      { p with default? := match named.find? p.name with
        | some v => some v
        | none => p.default? }
    else p) = withStored named p := by
  unfold withStored asKeyword
  split
  · rename_i hkind
    rw [← hkind]
    cases named.find? p.name <;> rfl
  · rfl

/-- A standard parameter behind one that is stored by name is given by name only. -/
theorem byName_of_standard {p : Param} (h : p.kind = .standard) : byName named p = [asKeyword named p] := by
  unfold byName asKeyword
  rw [h]
  cases named.find? p.name <;> rfl

/-- A parameter that was not given by position stays, unless it is the rest of what is. -/
theorem byName_of_not_positional {p : Param} (h : p.isPositional = false) :
    byName named p = if p.kind = .rest then [] else [withStored named p] := by
  unfold byName withStored asKeyword
  cases hkind : p.kind with
  | positionalOnly => simp [Param.isPositional, hkind] at h
  | standard => simp [Param.isPositional, hkind] at h
  | rest => rfl
  | keywordOnly => rw [← hkind]; cases named.find? p.name <;> simp [hkind]
  | keywordRest => simp

/-- A parameter that is stored by name although it could be given by position. -/
def isStored (named : Fields) (p : Param) : Bool := p.kind = .standard && named.contains p.name

/-- The parameters that can still be given by position: those up to the first that is stored by name. -/
def keptPart (s : Signature) (count : Nat) (named : Fields) : List Param :=
  (s.positional.drop count).takeWhile fun p => !isStored named p

/-- The parameters from the first that is stored by name. -/
def onwardPart (s : Signature) (count : Nat) (named : Fields) : List Param :=
  (s.positional.drop count).dropWhile fun p => !isStored named p

/-- The parameters that are left. A rest of positional arguments has no place behind parameters that are given
by name. -/
def leftParams (s : Signature) (count : Nat) (named : Fields) : List Param :=
  s.keptPart count named ++ ((s.onwardPart count named).map (asKeyword named) ++
    (s.params.filter fun p => !p.isPositional && ((s.onwardPart count named).isEmpty || p.kind ≠ .rest)).map
      (withStored named))

theorem keptPart_append_onwardPart (s : Signature) (count : Nat) (named : Fields) :
    s.positional.drop count = s.keptPart count named ++ s.onwardPart count named :=
  List.takeWhile_append_dropWhile.symm

theorem isPositional_of_mem_drop {p : Param} (hp : p ∈ s.positional.drop count) : p.isPositional = true :=
  (List.mem_filter.mp (List.mem_of_mem_drop hp)).2

/-- Nothing that is kept is stored by name. -/
theorem isStored_of_mem_keptPart (s : Signature) (count : Nat) (named : Fields) :
    ∀ p ∈ s.keptPart count named, (!isStored named p) = true := by
  intro p hp
  unfold keptPart at hp
  exact List.mem_takeWhile_imp (p := fun p => !isStored named p) hp

/-- The first parameter that is passed on is stored by name. -/
theorem isStored_head (s : Signature) (count : Nat) (named : Fields) {p : Param}
    (hp : (s.onwardPart count named).head? = some p) : isStored named p = true := by
  have h := List.head?_dropWhile_not (fun p => !isStored named p) (s.positional.drop count)
  unfold onwardPart at hp
  rw [hp] at h
  simpa using h

/-- From the first parameter that is stored by name on, all that could be given by position are standard. -/
theorem WellFormed.onward_standard (h : s.WellFormed) {p : Param} (hp : p ∈ s.onwardPart count named) :
    p.kind = .standard := by
  cases honward : s.onwardPart count named with
  | nil =>
      rw [honward] at hp
      cases hp
  | cons q qs =>
      -- the first of them is standard, and none behind it stands before it in the order of kinds
      have hq : q.kind = .standard :=
        of_decide_eq_true (Bool.and_eq_true_iff.mp (isStored_head s count named (by rw [honward]; rfl))).1
      have hsublist : (s.onwardPart count named).Sublist s.params :=
        (List.dropWhile_sublist _).trans ((List.drop_sublist _ _).trans (List.filter_sublist))
      have hordered := h.ordered.sublist hsublist
      have hrank : q.kind.rank ≤ p.kind.rank := by
        rw [honward] at hp hordered
        rcases List.mem_cons.mp hp with rfl | hp
        · exact Nat.le_refl _
        · exact (List.pairwise_cons.mp hordered).1 p hp
      rw [hq] at hrank
      exact ParamKind.eq_standard hrank (Param.isPositional_iff_rank.mp
        (isPositional_of_mem_drop ((List.dropWhile_sublist _).subset hp)))

theorem ne_keywordOnly_of_positional {p : Param} (h : p.isPositional = true) : p.kind ≠ .keywordOnly := by
  intro hkind
  rw [Param.isPositional, hkind] at h
  cases h

/-- Parameters that are given by position take no stored value as their default. -/
theorem map_withStored_of_positional {ps : List Param} (h : ∀ p ∈ ps, p.isPositional = true) :
    ps.map (withStored named) = ps :=
  (List.map_congr_left fun p hp => withStored_of_ne (ne_keywordOnly_of_positional (h p hp))).trans
    (List.map_id ps)

theorem isPositional_of_mem_keptPart (s : Signature) (count : Nat) (named : Fields) :
    ∀ p ∈ s.keptPart count named, p.isPositional = true := fun _ hp =>
  isPositional_of_mem_drop ((List.takeWhile_sublist _).subset hp)

/-- From the first parameter that is stored by name on, arguments are given by name. -/
theorem flatMap_byName_standard {ps : List Param} (h : ∀ p ∈ ps, p.kind = .standard) :
    ps.flatMap (byName named) = ps.map (asKeyword named) := by
  rw [List.map_eq_flatMap]
  exact List.flatMap_congr fun p hp => byName_of_standard (h p hp)

/-- The others stay as they are, but for the rest of what is given by position. -/
theorem flatMap_byName_others (ps : List Param) :
    (ps.filter fun p => !p.isPositional).flatMap (byName named) =
      (ps.filter fun p => !p.isPositional && p.kind ≠ .rest).map (withStored named) := by
  induction ps with
  | nil => rfl
  | cons p ps ih =>
      cases hpositional : p.isPositional with
      | true => simp [hpositional, ih]
      | false =>
          by_cases hrest : p.kind = .rest
          · simp [hpositional, hrest, ih, byName_of_not_positional hpositional]
          · simp [hpositional, hrest, ih, byName_of_not_positional hpositional]

/-- The parameters up to the first that is stored by name keep their kind, and those from it on are given by
name. -/
theorem WellFormed.leftParams_eq (h : s.WellFormed) (count : Nat) (named : Fields) :
    let opened := s.positional.drop count ++ s.params.filter fun p => !p.isPositional
    let before := opened.takeWhile fun p => !isStored named p
    before.map (withStored named) ++ (opened.drop before.length).flatMap (byName named) =
      s.leftParams count named := by
  intro opened before
  have hkept : (s.keptPart count named).map (withStored named) = s.keptPart count named :=
    map_withStored_of_positional (isPositional_of_mem_keptPart s count named)
  have hopened : opened = s.keptPart count named ++ (s.onwardPart count named ++
      s.params.filter fun p => !p.isPositional) := by
    rw [← List.append_assoc, ← keptPart_append_onwardPart]
  have hfree := isStored_of_mem_keptPart s count named
  unfold leftParams
  cases honward : s.onwardPart count named with
  | nil =>
      rw [honward, List.nil_append] at hopened
      -- nothing is stored by name that could be given by position
      have hbefore : before = opened := by
        refine List.takeWhile_eq_self_iff.mpr fun p hp => ?_
        rw [hopened] at hp
        rcases List.mem_append.mp hp with hp | hp
        · exact hfree p hp
        · have hother := (List.mem_filter.mp hp).2
          cases hkind : p.kind <;> simp [Param.isPositional, isStored, hkind] at hother ⊢
      rw [hbefore, List.drop_length, List.flatMap_nil, List.append_nil, hopened, List.map_append, hkept]
      simp
  | cons q qs =>
      -- something is: the kept parameters end there
      have hq : isStored named q = true := isStored_head s count named (by rw [honward]; rfl)
      have hbefore : before = s.keptPart count named := by
        change opened.takeWhile _ = _
        rw [hopened, honward, List.cons_append, List.takeWhile_append_of_pos hfree,
          List.takeWhile_cons_of_neg (by rw [hq]; decide), List.append_nil]
      rw [hbefore, hkept, hopened, List.drop_left, List.flatMap_append,
        flatMap_byName_standard fun p hp => h.onward_standard hp, flatMap_byName_others, honward]
      simp

/-- A signature is derived if the stored arguments are accepted, and then has the parameters that are left. -/
theorem WellFormed.derive?_eq (h : s.WellFormed) :
    s.derive? args named =
      if s.acceptsStored args named then some { s with params := s.leftParams args.length named } else none := by
  unfold derive?
  cases s.acceptsStored args named with
  | false => rfl
  | true =>
      dsimp only
      rw [h.open_eq]
      refine congrArg (fun ps => some { s with params := ps }) (Eq.trans ?_ (h.leftParams_eq args.length named))
      exact congrArg (· ++ _) (List.map_congr_left fun p _ => withStored_eq named p)

/-- What is left was kept, or passed on, or not given by position in the first place. -/
theorem mem_leftParams {p : Param} :
    p ∈ s.leftParams count named ↔ p ∈ s.keptPart count named ∨
      (∃ q ∈ s.onwardPart count named, asKeyword named q = p) ∨
      ∃ q ∈ s.params, (q.isPositional = false ∧ (s.onwardPart count named = [] ∨ q.kind ≠ .rest)) ∧
        withStored named q = p := by
  unfold leftParams
  simp only [List.mem_append, List.mem_map, List.mem_filter, Bool.and_eq_true, Bool.or_eq_true,
    Bool.not_eq_true', List.isEmpty_iff, decide_eq_true_eq, and_assoc]

/-- A place for the rest of the arguments is left, but one by position only if nothing has to be given by
name. -/
theorem has_left {k : ParamKind} (hk : k = .rest ∨ k = .keywordRest) :
    has { s with params := s.leftParams count named } k = true ↔
      (s.onwardPart count named = [] ∨ k ≠ .rest) ∧ s.has k = true := by
  have hother : ∀ p : Param, p.kind = k → p.isPositional = false := by
    rintro p rfl
    unfold Param.isPositional
    rcases hk with hk | hk <;> rw [hk] <;> rfl
  unfold has
  simp only [List.any_eq_true, decide_eq_true_eq]
  constructor
  · rintro ⟨p, hp, hkind⟩
    -- where the parameter is: kept, passed on, or not given by position
    rcases mem_leftParams.mp hp with hp | ⟨q, -, rfl⟩ | ⟨q, hq, ⟨-, hplace⟩, rfl⟩
    · have hpositional := isPositional_of_mem_keptPart s count named p hp
      rw [hother p hkind] at hpositional
      cases hpositional
    · rcases hk with rfl | rfl <;> cases hkind
    · rw [kind_withStored] at hkind
      exact ⟨hplace.imp_right fun hne => hkind ▸ hne, q, hq, hkind⟩
  · rintro ⟨hplace, q, hq, rfl⟩
    exact ⟨withStored named q, mem_leftParams.mpr (.inr (.inr ⟨q, hq, ⟨hother q rfl, hplace⟩, rfl⟩)),
      kind_withStored named q⟩

/-- The signature that is left is what is left. -/
theorem WellFormed.leaves (h : s.WellFormed) (count : Nat) (named : Fields) :
    s.Leaves count named (s.keptPart count named) (s.onwardPart count named)
      { s with params := s.leftParams count named } where
  split := keptPart_append_onwardPart s count named
  -- what is kept stands before the first parameter that is stored by name
  kept_free := by
    intro p hp hkind hmem
    have hfree := isStored_of_mem_keptPart s count named p hp
    rw [isStored, decide_eq_true hkind, OrderedMap.contains_iff_mem_keys.mpr hmem] at hfree
    cases hfree
  onward_standard := fun p hp => h.onward_standard hp
  onward_stored := by
    intro p hp
    exact OrderedMap.contains_iff_mem_keys.mp (Bool.and_eq_true_iff.mp (isStored_head s count named hp)).2
  -- neither what is passed on nor the others can be given by position
  positional := by
    have hkept := isPositional_of_mem_keptPart s count named
    unfold positional leftParams
    rw [List.filter_append, List.filter_eq_self.mpr hkept, List.filter_append, List.filter_eq_nil_iff.mpr,
      List.filter_eq_nil_iff.mpr, List.append_nil, List.append_nil]
    · intro p hp hpositional
      obtain ⟨q, hq, rfl⟩ := List.mem_map.mp hp
      have hother := (List.mem_filter.mp hq).2
      rw [Param.isPositional, kind_withStored, ← Param.isPositional] at hpositional
      rw [hpositional] at hother
      cases hother
    · intro p hp hpositional
      obtain ⟨q, -, rfl⟩ := List.mem_map.mp hp
      cases hpositional
  rest := by
    rw [Bool.eq_iff_iff, has_left (.inl rfl), Bool.and_eq_true, List.isEmpty_iff]
    simp
  keywordRest := by
    rw [Bool.eq_iff_iff, has_left (.inr rfl)]
    simp
  -- what is passed on is given by name only, and so is what was before
  keywordOnly := by
    have hkept := isPositional_of_mem_keptPart s count named
    have hothers : ∀ p ∈ s.params, ((decide ((withStored named p).kind = .keywordOnly)) && (!p.isPositional &&
        ((s.onwardPart count named).isEmpty || decide (p.kind ≠ .rest)))) = decide (p.kind = .keywordOnly) := by
      intro p _
      rw [kind_withStored]
      cases hkind : p.kind <;> simp [Param.isPositional, hkind]
    unfold keywordOnly leftParams
    rw [List.filter_append, List.filter_append, List.map_append, List.filter_eq_nil_iff.mpr, List.nil_append,
      List.filter_eq_self.mpr, List.filter_map, List.filter_filter]
    · refine congrArg ((s.onwardPart count named).map (asKeyword named) ++ ·) ?_
      refine (congrArg (List.map (withStored named)) (List.filter_congr hothers)).trans ?_
      exact List.map_congr_left fun p hp => if_pos (of_decide_eq_true (List.mem_filter.mp hp).2)
    · intro p hp
      obtain ⟨q, -, rfl⟩ := List.mem_map.mp hp
      rfl
    · intro p hp hkind
      exact ne_keywordOnly_of_positional (hkept p hp) (of_decide_eq_true hkind)

/-- The names of what is left. -/
theorem map_name_leftParams (s : Signature) (count : Nat) (named : Fields) :
    (s.leftParams count named).map (·.name) = (s.positional.drop count).map (·.name) ++
      (s.params.filter fun p => !p.isPositional &&
        ((s.onwardPart count named).isEmpty || p.kind ≠ .rest)).map (·.name) := by
  have hkeyword : (·.name) ∘ asKeyword named = Param.name := rfl
  have hstored : (·.name) ∘ withStored named = Param.name := funext (name_withStored named)
  unfold leftParams
  rw [List.map_append, List.map_append, List.map_map, List.map_map, hkeyword, hstored, ← List.append_assoc,
    ← List.map_append, ← keptPart_append_onwardPart]

/-- What is left of a signature that can be written can be written. -/
theorem WellFormed.left (h : s.WellFormed) (count : Nat) (named : Fields) :
    WellFormed { s with params := s.leftParams count named } where
  -- the names of what is left are among those of the whole
  names := by
    have hparams := congrArg (List.map Param.name) h.params_eq
    rw [List.map_append] at hparams
    rw [map_name_leftParams]
    refine (hparams ▸ h.names).sublist (.append ((List.drop_sublist _ _).map _) (.map _ ?_))
    simp only [Bool.and_comm (!_), ← List.filter_filter]
    exact List.filter_sublist
  -- the kinds of the three parts come one after another, and each part keeps the order of the whole
  ordered := by
    have hkept : (s.keptPart count named).Sublist s.params :=
      (List.takeWhile_sublist _).trans ((List.drop_sublist _ _).trans List.filter_sublist)
    have hother : ∀ p : Param, (!p.isPositional) = true → 2 ≤ p.kind.rank := by
      intro p hp
      refine Nat.not_lt.mp fun hlt => ?_
      rw [Param.isPositional_iff_rank.mpr (Nat.le_of_lt_succ hlt)] at hp
      cases hp
    unfold leftParams
    rw [List.pairwise_append, List.pairwise_append, List.pairwise_map, List.pairwise_map]
    refine ⟨h.ordered.sublist hkept, ⟨List.pairwise_of_forall fun _ _ => Nat.le_refl _, ?_, ?_⟩, ?_⟩
    · refine (h.ordered.sublist List.filter_sublist).imp fun hle => ?_
      rwa [kind_withStored, kind_withStored]
    · intro p hp q hq
      obtain ⟨p', hp', rfl⟩ := List.mem_map.mp hp
      obtain ⟨q', hq', rfl⟩ := List.mem_map.mp hq
      obtain ⟨hpositional, hplace⟩ := Bool.and_eq_true_iff.mp (List.mem_filter.mp hq').2
      -- no rest of positional arguments stands behind parameters that are given by name
      rw [List.isEmpty_eq_false_iff_exists_mem.mpr ⟨p', hp'⟩, Bool.false_or, decide_eq_true_iff] at hplace
      rw [kind_withStored]
      exact ParamKind.rank_ge_three (hother q' hpositional) hplace
    · intro p hp q hq
      have hle := Param.isPositional_iff_rank.mp (isPositional_of_mem_keptPart s count named p hp)
      refine Nat.le_trans hle ?_
      rcases List.mem_append.mp hq with hq | hq
      · obtain ⟨q', -, rfl⟩ := List.mem_map.mp hq
        exact (by decide : 1 ≤ 3)
      · obtain ⟨q', hq', rfl⟩ := List.mem_map.mp hq
        obtain ⟨hpositional, -⟩ := Bool.and_eq_true_iff.mp (List.mem_filter.mp hq').2
        rw [kind_withStored]
        exact Nat.le_trans (Nat.le_succ 1) (hother q' hpositional)

/-! ## Signatures that describe calls -/

/-- **A signature describes calls**: every call that gets through fits it, and if any calls get through, then so
do all that fit it and give no other names. -/
structure Describes (s : Signature) (reaches : Nat → (String → Prop) → Prop) : Prop where
  fits : ∀ n isGiven, reaches n isGiven → s.Fits n isGiven
  reaches : ∀ n isGiven n₀ isGiven₀, reaches n₀ isGiven₀ → (∀ x, isGiven x → isGiven₀ x) →
    s.Fits n isGiven → reaches n isGiven

variable {reaches : Nat → (String → Prop) → Prop}

theorem describes_fits (s : Signature) : s.Describes s.Fits :=
  ⟨fun _ _ h => h, fun _ _ _ _ _ _ h => h⟩

/-- **What is left describes the calls that hand over the stored arguments as well.** -/
theorem Describes.derived (h : s.Describes reaches) (hwf : s.WellFormed)
    (hs' : s.derive? args named = some s') :
    s'.WellFormed ∧
      s'.Describes fun n isGiven => reaches (args.length + n) fun x => x ∈ named.keys ∨ isGiven x := by
  rw [hwf.derive?_eq] at hs'
  split at hs'
  · rename_i haccepts
    cases hs'
    have hstores := Stores.of_acceptsStored haccepts
    have hiff : ∀ n isGiven, (s.Fits (args.length + n) fun x => x ∈ named.keys ∨ isGiven x) ↔
        Fits { s with params := s.leftParams args.length named } n isGiven ∧
          ∀ p ∈ s.positional.take args.length, p.kind = .standard → ¬ isGiven p.name :=
      -- the two directions of the main result on what is left
      fun n isGiven => (hwf.leaves args.length named).fits_iff hwf hstores
    refine ⟨hwf.left args.length named, fun n isGiven hreaches => ?_, ?_⟩
    · exact ((hiff n isGiven).mp (h.fits _ _ hreaches)).1
    · intro n isGiven n₀ isGiven₀ hreaches hsub hfits
      refine h.reaches _ _ _ _ hreaches (fun x => Or.imp_right (hsub x)) ((hiff n isGiven).mpr ⟨hfits, ?_⟩)
      -- a call that got through named nothing that is stored by position
      intro p hp hkind hgiven
      exact ((hiff n₀ isGiven₀).mp (h.fits _ _ hreaches)).2 p hp hkind (hsub _ hgiven)
  · cases hs'

end EventHub.Signature
