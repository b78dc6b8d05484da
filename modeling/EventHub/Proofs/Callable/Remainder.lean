import EventHub.Proofs.Callable.Fitting
import Mathlib.Data.List.Nodup

/-! # What stored arguments leave open

Arguments of a call may be stored in advance, by position and by name. The parameters that are stored by
position are gone then; from the first one on that is stored by name, parameters can be given by name only.

A call fits what is left exactly if it fits together with the stored arguments, but for names that stand for
parameters stored by position: what is left knows nothing of them.

Main statement: `Leaves.fits_iff`.
-/

namespace EventHub

/-- The place of a kind of parameters among the parameters of a signature. -/
def ParamKind.rank : ParamKind → Nat
  | .positionalOnly => 0
  | .standard => 1
  | .rest => 2
  | .keywordOnly => 3
  | .keywordRest => 4

/-- Between the places of what comes before and behind there is one kind only. -/
theorem ParamKind.eq_standard {k : ParamKind} : 1 ≤ k.rank → k.rank ≤ 1 → k = .standard := by
  cases k <;> decide

/-- Behind the standard parameters stands the rest, and then what is given by name. -/
theorem ParamKind.rank_ge_three {k : ParamKind} : 2 ≤ k.rank → k ≠ .rest → 3 ≤ k.rank := by
  cases k <;> decide

theorem Param.isPositional_iff_rank {p : Param} : p.isPositional = true ↔ p.kind.rank ≤ 1 := by
  unfold Param.isPositional
  cases p.kind <;> decide

/-- A list in which a property does not come back. -/
theorem eq_filter_append_filter {α : Type} {P : α → Bool} {l : List α}
    (h : l.Pairwise fun a b => P b = true → P a = true) : l = l.filter P ++ l.filter fun a => !P a := by
  induction l with
  | nil => rfl
  | cons a l ih =>
      obtain ⟨ha, hl⟩ := List.pairwise_cons.mp h
      cases hP : P a with
      | true =>
          -- the first member has the property: it stays in front
          rw [List.filter_cons_of_pos hP, List.filter_cons_of_neg (by rw [hP]; decide), List.cons_append, ← ih hl]
      | false =>
          -- it has not, and so none behind it has
          have hnone : l.filter P = [] :=
            List.filter_eq_nil_iff.mpr fun b hb hPb => Bool.false_ne_true (hP.symm.trans (ha b hb hPb))
          have hrest := ih hl
          rw [hnone, List.nil_append] at hrest
          rw [List.filter_cons_of_neg (by rw [hP]; decide), hnone, List.filter_cons_of_pos (by rw [hP]; rfl),
            List.nil_append, ← hrest]

namespace Signature

/-- A signature that can be written: its parameters have different names, and come in the order of their
kinds. -/
structure WellFormed (s : Signature) : Prop where
  names : (s.params.map (·.name)).Nodup
  ordered : s.params.Pairwise fun p q => p.kind.rank ≤ q.kind.rank

instance (s : Signature) : Decidable s.WellFormed :=
  decidable_of_iff
    ((s.params.map (·.name)).Nodup ∧ s.params.Pairwise fun p q => p.kind.rank ≤ q.kind.rank)
    ⟨fun h => ⟨h.1, h.2⟩, fun h => ⟨h.names, h.ordered⟩⟩

/-- A parameter that can be given by name only, with what is stored for it as its default. -/
def asKeyword (named : Fields) (p : Param) : Param :=
  { p with kind := .keywordOnly, default? := (named.find? p.name).or p.default? }

/-- What is left of a signature once arguments are stored: the parameters that can still be given by position,
`kept`, and those that were and now have to be given by name, `onward`. -/
structure Leaves (s : Signature) (count : Nat) (named : Fields) (kept onward : List Param) (s' : Signature) :
    Prop where
  split : s.positional.drop count = kept ++ onward
  kept_free : ∀ p ∈ kept, p.kind = .standard → p.name ∉ named.keys
  onward_standard : ∀ p ∈ onward, p.kind = .standard
  onward_stored : ∀ p, onward.head? = some p → p.name ∈ named.keys
  positional : s'.positional = kept
  rest : s'.has .rest = (onward.isEmpty && s.has .rest)
  keywordRest : s'.has .keywordRest = s.has .keywordRest
  keywordOnly : s'.keywordOnly = (onward ++ s.keywordOnly).map (asKeyword named)

/-- Stored arguments fit in part: there is room for them, none is given twice, and each name stands for a
parameter or belongs to the rest. -/
structure Stores (s : Signature) (count : Nat) (named : Fields) : Prop where
  room : count ≤ s.positional.length ∨ s.has .rest = true
  direct : ∀ p ∈ s.positional.take count, p.kind = .standard → p.name ∉ named.keys
  names : s.has .keywordRest = true ∨ ∀ x ∈ named.keys, s.takesName x = true

variable {s s' : Signature} {args : List Value} {named : Fields} {kept onward : List Param} {count : Nat}

/-- Arguments that are stored without complaint fit in part. -/
theorem Stores.of_acceptsStored (h : s.acceptsStored args named = true) : s.Stores args.length named := by
  unfold acceptsStored at h
  simp only [Bool.and_eq_true, Bool.or_eq_true, decide_eq_true_eq, List.all_eq_true, Bool.not_eq_true',
    List.contains_eq_mem, decide_eq_false_iff_not, List.mem_map, List.mem_filter] at h
  obtain ⟨⟨⟨hroom, hdirect⟩, -⟩, hnames⟩ := h
  refine ⟨hroom, fun p hp hkind => ?_, hnames.imp_right fun hall x hx => ?_⟩
  · exact (hdirect p hp).resolve_left fun hne => hne hkind
  · obtain ⟨p, ⟨⟨hp, -⟩, hnamed⟩, hname⟩ := hall x hx
    exact takesName_iff.mpr ⟨p, hp, hnamed, hname⟩

namespace WellFormed

/-- A parameter is told by its name. -/
theorem eq_of_name (h : s.WellFormed) {p q : Param} (hp : p ∈ s.params) (hq : q ∈ s.params)
    (hname : p.name = q.name) : p = q :=
  List.inj_on_of_nodup_map h.names hp hq hname

/-- The parameters that are given by position come first. -/
theorem params_eq (h : s.WellFormed) :
    s.params = s.positional ++ s.params.filter fun p => !p.isPositional :=
  eq_filter_append_filter <| h.ordered.imp fun hle hq =>
    Param.isPositional_iff_rank.mpr (Nat.le_trans hle (Param.isPositional_iff_rank.mp hq))

/-- What is open once arguments are stored by position. -/
theorem open_eq (h : s.WellFormed) (count : Nat) :
    (s.params.filter fun p => !((s.positional.take count).any (·.name = p.name))) =
      s.positional.drop count ++ s.params.filter fun p => !p.isPositional := by
  have hparams : s.params = s.positional.take count ++
      (s.positional.drop count ++ s.params.filter fun p => !p.isPositional) := by
    rw [← List.append_assoc, List.take_append_drop]
    exact h.params_eq
  have hnames := h.names
  rw [hparams, List.map_append, List.nodup_append] at hnames
  -- the stored ones are passed over, by their names, and no other is, as names are different
  conv_lhs => rw [hparams]
  rw [List.filter_append, List.filter_eq_nil_iff.mpr, List.nil_append, List.filter_eq_self]
  · intro p hp
    rw [Bool.not_eq_true', List.any_eq_false]
    exact fun q hq hname =>
      hnames.2.2 _ (List.mem_map_of_mem hq) _ (List.mem_map_of_mem hp) (of_decide_eq_true hname)
  · intro p hp hopen
    rw [Bool.not_eq_true', List.any_eq_false] at hopen
    exact hopen p hp (decide_eq_true rfl)

end WellFormed

/-! ## What fits what is left -/

/-- A name is taken by a standard parameter, or by one that can be given by name only. -/
theorem takesName_iff_positional {x : String} :
    s.takesName x = true ↔
      (∃ p ∈ s.positional, p.kind = .standard ∧ p.name = x) ∨ ∃ p ∈ s.keywordOnly, p.name = x := by
  rw [takesName_iff]
  unfold positional keywordOnly
  constructor
  · -- a parameter that takes its name is given by position as well, or only by name
    rintro ⟨p, hp, hnamed, rfl⟩
    rcases Bool.or_eq_true_iff.mp hnamed with hkind | hkind
    · exact .inl ⟨p, List.mem_filter.mpr ⟨hp, by simp [Param.isPositional, of_decide_eq_true hkind]⟩,
        of_decide_eq_true hkind, rfl⟩
    · exact .inr ⟨p, List.mem_filter.mpr ⟨hp, hkind⟩, rfl⟩
  · rintro (⟨p, hp, hkind, rfl⟩ | ⟨p, hp, rfl⟩)
    · exact ⟨p, (List.mem_filter.mp hp).1, by simp [Param.isNamed, hkind], rfl⟩
    · obtain ⟨hmem, hkind⟩ := List.mem_filter.mp hp
      exact ⟨p, hmem, by simp [Param.isNamed, of_decide_eq_true hkind], rfl⟩

/-- A parameter takes an argument by position and by name only if it is a standard one. -/
theorem WellFormed.kind_of_takesName (h : s.WellFormed) {p : Param} (hp : p ∈ s.positional)
    (htakes : s.takesName p.name = true) : p.kind = .standard := by
  obtain ⟨hmem, hpositional⟩ := List.mem_filter.mp hp
  obtain ⟨q, hq, hnamed, hname⟩ := takesName_iff.mp htakes
  obtain rfl := h.eq_of_name hq hmem hname
  cases hkind : q.kind <;> simp [Param.isPositional, Param.isNamed, hkind] at hpositional hnamed ⊢

/-- What is stored for a parameter need not be given. -/
theorem isRequired_asKeyword {p : Param} (hkind : p.kind = .standard ∨ p.kind = .keywordOnly) :
    (asKeyword named p).isRequired = true ↔ p.isRequired = true ∧ p.name ∉ named.keys := by
  have hrequired : p.isRequired = p.default?.isNone := by
    rcases hkind with hkind | hkind <;> simp [Param.isRequired, hkind]
  rw [← OrderedMap.find?_eq_none_iff, hrequired]
  unfold asKeyword
  cases named.find? p.name <;> simp [Param.isRequired]

namespace Leaves

variable {n : Nat} {isGiven : String → Prop}

/-- What was given by position is stored, kept, or passed on to be given by name. -/
theorem positional_eq (h : s.Leaves count named kept onward s') :
    s.positional = s.positional.take count ++ (kept ++ onward) := by
  rw [← h.split, List.take_append_drop]

/-- A name is taken by what is left if it is that of a kept standard parameter, or of one given by name. -/
theorem left_takesName_iff (h : s.Leaves count named kept onward s') {x : String} :
    s'.takesName x = true ↔
      (∃ p ∈ kept, p.kind = .standard ∧ p.name = x) ∨ ∃ p ∈ onward ++ s.keywordOnly, p.name = x := by
  rw [takesName_iff_positional, h.positional, h.keywordOnly]
  simp only [List.mem_map, exists_exists_and_eq_and, asKeyword]

theorem mem_positional (h : s.Leaves count named kept onward s') {p : Param} :
    p ∈ s.positional ↔ p ∈ s.positional.take count ∨ p ∈ kept ∨ p ∈ onward := by
  conv_lhs => rw [h.positional_eq]
  rw [List.mem_append, List.mem_append]

/-- A name is taken by what is left, or stands for a parameter that is stored by position. -/
theorem takesName_iff (h : s.Leaves count named kept onward s') {x : String} :
    s.takesName x = true ↔
      (∃ p ∈ s.positional.take count, p.kind = .standard ∧ p.name = x) ∨ s'.takesName x = true := by
  rw [takesName_iff_positional, h.left_takesName_iff]
  constructor
  · -- where the parameter is given by position: stored, kept, or passed on
    rintro (⟨p, hp, hkind, hname⟩ | ⟨p, hp, hname⟩)
    · rcases h.mem_positional.mp hp with hdirect | hkept | honward
      · exact .inl ⟨p, hdirect, hkind, hname⟩
      · exact .inr (.inl ⟨p, hkept, hkind, hname⟩)
      · exact .inr (.inr ⟨p, List.mem_append_left _ honward, hname⟩)
    · exact .inr (.inr ⟨p, List.mem_append_right _ hp, hname⟩)
  · rintro (⟨p, hp, hkind, hname⟩ | ⟨p, hp, hkind, hname⟩ | ⟨p, hp, hname⟩)
    · exact .inl ⟨p, h.mem_positional.mpr (.inl hp), hkind, hname⟩
    · exact .inl ⟨p, h.mem_positional.mpr (.inr (.inl hp)), hkind, hname⟩
    · rcases List.mem_append.mp hp with honward | hkeyword
      · exact .inl ⟨p, h.mem_positional.mpr (.inr (.inr honward)), h.onward_standard p honward, hname⟩
      · exact .inr ⟨p, hkeyword, hname⟩

/-- No argument by position goes further than to the first parameter that is stored by name. -/
theorem take_add (h : s.Leaves count named kept onward s') (hcut : onward = [] ∨ n ≤ kept.length) :
    s.positional.take (count + n) = s.positional.take count ++ kept.take n := by
  rw [List.take_add, h.split]
  rcases hcut with rfl | hle
  · rw [List.append_nil]
  · rw [List.take_append_of_le_length hle]

/-- What is left open by position after more arguments are given. -/
theorem drop_add (h : s.Leaves count named kept onward s') (hcut : onward = [] ∨ n ≤ kept.length) :
    s.positional.drop (count + n) = kept.drop n ++ onward := by
  rw [← List.drop_drop, h.split]
  rcases hcut with rfl | hle
  · rw [List.append_nil, List.append_nil]
  · rw [List.drop_append_of_le_length hle]

/-- A call that fits gives no argument by position to a parameter that is stored by name, or behind one. -/
theorem cut_of_fits (h : s.Leaves count named kept onward s')
    (hfits : s.Fits (count + n) fun x => x ∈ named.keys ∨ isGiven x) : onward = [] ∨ n ≤ kept.length := by
  cases honward : onward with
  | nil => exact .inl rfl
  | cons p ps =>
      refine .inr (Nat.not_lt.mp fun hlt => ?_)
      have hstored : p.name ∈ named.keys := h.onward_stored p (by rw [honward]; rfl)
      have hp : p ∈ onward := honward ▸ List.mem_cons_self
      -- the parameter would be given by position as well
      have hdirect : p ∈ s.positional.take (count + n) := by
        rw [List.take_add, h.split, honward, List.take_append]
        obtain ⟨k, hk⟩ : ∃ k, n - kept.length = k + 1 := ⟨n - kept.length - 1, by omega⟩
        rw [hk, List.take_succ_cons]
        exact List.mem_append_right _ (List.mem_append_right _ List.mem_cons_self)
      have hadmits := hfits.named p.name (.inl hstored)
      have htakes : s.takesName p.name = true :=
        h.takesName_iff.mpr (.inr (h.left_takesName_iff.mpr (.inr ⟨p, List.mem_append_left _ hp, rfl⟩)))
      rw [AdmitsName, if_pos htakes] at hadmits
      exact hadmits p hdirect rfl

/-- A call that fits what is left gives no argument by position behind the first one stored by name. -/
theorem cut_of_left (h : s.Leaves count named kept onward s') (hfits : s'.Fits n isGiven) :
    onward = [] ∨ n ≤ kept.length := by
  rcases hfits.room with hroom | hrest
  · exact .inr (h.positional ▸ hroom)
  · rw [h.rest, Bool.and_eq_true, List.isEmpty_iff] at hrest
    exact .inl hrest.1

/-- A name may be given beside the stored arguments exactly if it may be given to what is left, and stands for
nothing that is stored by position. -/
theorem admitsName_iff (h : s.Leaves count named kept onward s') (hwf : s.WellFormed)
    (hcut : onward = [] ∨ n ≤ kept.length) {x : String} :
    s.AdmitsName (s.positional.take (count + n)) x ↔
      s'.AdmitsName (s'.positional.take n) x ∧
        ∀ p ∈ s.positional.take count, p.kind = .standard → p.name ≠ x := by
  unfold AdmitsName
  rw [h.take_add hcut, h.positional, h.keywordRest]
  by_cases htakes : s'.takesName x = true
  · -- the name is taken by what is left, and so by the whole
    have htaken : s.takesName x = true := h.takesName_iff.mpr (.inr htakes)
    rw [if_pos htakes, if_pos htaken, List.forall_mem_append, and_comm]
    refine and_congr_right fun _ => forall₂_congr fun p hp => ⟨fun hne _ => hne, ?_⟩
    rintro hne rfl
    exact hne (hwf.kind_of_takesName (List.mem_of_mem_take hp) htaken) rfl
  · rw [if_neg htakes]
    by_cases htaken : s.takesName x = true
    · -- the name stands for a parameter that is stored by position
      obtain ⟨p, hp, hkind, hname⟩ := (h.takesName_iff.mp htaken).resolve_right htakes
      rw [if_pos htaken]
      exact ⟨fun hne => absurd hname (hne p (List.mem_append_left _ hp)), fun hne => absurd hname (hne.2 p hp hkind)⟩
    · rw [if_neg htaken]
      refine (and_iff_left fun p hp hkind hname => ?_).symm
      exact htaken (h.takesName_iff.mpr (.inl ⟨p, hp, hkind, hname⟩))

/-- The names that are stored are given nowhere else. -/
theorem admitsName_of_stored (h : s.Leaves count named kept onward s') (hwf : s.WellFormed)
    (hstores : s.Stores count named) (hcut : onward = [] ∨ n ≤ kept.length) {x : String}
    (hx : x ∈ named.keys) : s.AdmitsName (s.positional.take (count + n)) x := by
  unfold AdmitsName
  rw [h.take_add hcut]
  split
  · -- the name is that of a parameter, which is neither stored by position nor kept
    rename_i htaken
    rintro p hp rfl
    rcases List.mem_append.mp hp with hdirect | hkept
    · exact hstores.direct p hdirect (hwf.kind_of_takesName (List.mem_of_mem_take hdirect) htaken) hx
    · have hmem : p ∈ kept := List.mem_of_mem_take hkept
      exact h.kept_free p hmem (hwf.kind_of_takesName (h.mem_positional.mpr (.inr (.inl hmem))) htaken) hx
  · -- the name is that of none, and belongs to the rest
    rename_i htaken
    exact hstores.names.resolve_right fun hall => htaken (hall x hx)

/-- There is room for further arguments by position exactly if there is room in what is left. -/
theorem room_iff (h : s.Leaves count named kept onward s') (hstores : s.Stores count named)
    (hcut : onward = [] ∨ n ≤ kept.length) :
    (count + n ≤ s.positional.length ∨ s.has .rest = true) ↔
      (n ≤ s'.positional.length ∨ s'.has .rest = true) := by
  have hlength := congrArg List.length h.split
  rw [List.length_drop, List.length_append] at hlength
  rw [h.positional, h.rest, Bool.and_eq_true, List.isEmpty_iff]
  -- the counts differ by the stored arguments, as long as nothing was passed on
  constructor
  · intro hroom
    rcases hcut with rfl | hle
    · rw [List.length_nil] at hlength
      exact hroom.imp (fun hroom => by omega) fun hrest => ⟨rfl, hrest⟩
    · exact .inl hle
  · rintro (hroom | ⟨-, hrest⟩)
    · exact hstores.room.imp_left fun hcount => by omega
    · exact .inr hrest

/-- What has to be given is given together with the stored arguments exactly if it is given to what is left. -/
theorem needed_iff (h : s.Leaves count named kept onward s') (hwf : s.WellFormed)
    (hcut : onward = [] ∨ n ≤ kept.length) :
    ((∀ p ∈ s.positional.drop (count + n), p.isRequired = true →
        s.takesName p.name = true ∧ (p.name ∈ named.keys ∨ isGiven p.name)) ∧
      ∀ p ∈ s.keywordOnly, p.isRequired = true → p.name ∈ named.keys ∨ isGiven p.name) ↔
    (∀ p ∈ s'.positional.drop n, p.isRequired = true → s'.takesName p.name = true ∧ isGiven p.name) ∧
      ∀ p ∈ s'.keywordOnly, p.isRequired = true → isGiven p.name := by
  rw [h.drop_add hcut, h.positional, h.keywordOnly, List.forall_mem_append, List.forall_mem_map,
    List.forall_mem_append, and_assoc]
  have hstandard : ∀ p ∈ onward, s.takesName p.name = true := fun p hp =>
    h.takesName_iff.mpr (.inr (h.left_takesName_iff.mpr (.inr ⟨p, List.mem_append_left _ hp, rfl⟩)))
  refine and_congr (forall₂_congr fun p hp => imp_congr_right fun _ => ?_)
    (and_congr (forall₂_congr fun p hp => ?_) (forall₂_congr fun p hp => ?_))
  · -- a parameter that is kept is not stored by name
    have hkept : p ∈ kept := List.mem_of_mem_drop hp
    have hmem : p ∈ s.positional := h.mem_positional.mpr (.inr (.inl hkept))
    constructor
    · rintro ⟨htakes, hgiven⟩
      have hkind := hwf.kind_of_takesName hmem htakes
      exact ⟨h.left_takesName_iff.mpr (.inl ⟨p, hkept, hkind, rfl⟩),
        hgiven.resolve_left (h.kept_free p hkept hkind)⟩
    · rintro ⟨htakes, hgiven⟩
      exact ⟨h.takesName_iff.mpr (.inr htakes), .inr hgiven⟩
  · -- a parameter that is passed on is stored by name, or needs a value as it did before
    rw [isRequired_asKeyword (.inl (h.onward_standard p hp)), and_iff_right (hstandard p hp), and_imp]
    exact imp_congr_right fun _ => or_iff_not_imp_left
  · -- a parameter given by name only has the stored value as its default
    have hkind : p.kind = .keywordOnly := of_decide_eq_true (List.mem_filter.mp hp).2
    rw [isRequired_asKeyword (.inr hkind), and_imp]
    exact imp_congr_right fun _ => or_iff_not_imp_left

/-- **What fits together with the stored arguments**: exactly what fits what is left, and names nothing that is
stored by position. -/
theorem fits_iff (h : s.Leaves count named kept onward s') (hwf : s.WellFormed)
    (hstores : s.Stores count named) :
    (s.Fits (count + n) fun x => x ∈ named.keys ∨ isGiven x) ↔
      s'.Fits n isGiven ∧ ∀ p ∈ s.positional.take count, p.kind = .standard → ¬ isGiven p.name := by
  -- from the whole to what is left: the stored names count as given, and fall away
  constructor
  · intro hfits
    have hcut := h.cut_of_fits hfits
    have hnamed := fun x hx => (h.admitsName_iff hwf hcut).mp (hfits.named x (.inr hx))
    obtain ⟨hpositional, hkeywords⟩ := (h.needed_iff hwf hcut).mp ⟨hfits.positional, hfits.keywords⟩
    exact ⟨⟨fun x hx => (hnamed x hx).1, (h.room_iff hstores hcut).mp hfits.room, hpositional, hkeywords⟩,
      fun p hp hkind hgiven => (hnamed p.name hgiven).2 p hp hkind rfl⟩
  · -- and back: names that are stored fit, as they stand for parameters that are free
    rintro ⟨hfits, hfree⟩
    have hcut := h.cut_of_left hfits
    obtain ⟨hpositional, hkeywords⟩ := (h.needed_iff hwf hcut).mpr ⟨hfits.positional, hfits.keywords⟩
    refine ⟨fun x hx => ?_, (h.room_iff hstores hcut).mpr hfits.room, hpositional, hkeywords⟩
    rcases hx with hstored | hgiven
    · exact h.admitsName_of_stored hwf hstores hcut hstored
    · refine (h.admitsName_iff hwf hcut).mpr ⟨hfits.named x hgiven, ?_⟩
      rintro p hp hkind rfl
      exact hfree p hp hkind hgiven

end Leaves

end Signature

end EventHub
