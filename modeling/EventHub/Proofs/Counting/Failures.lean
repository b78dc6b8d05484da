import EventHub.Proofs.Counting.Accounts

/-! # Failures and calls

A call is counted before the callable runs, and its failure afterwards. If the counters are reset or counting
is turned on in between, only the failure is counted (`failures_outnumber_calls`). If this does not happen
during a call of an actor of the hub, failures never outnumber calls, whatever else happens.

`Tally.Grows` compares counters at two moments: in between, no more failures were counted than calls, and
every name that had a bucket for good still has it. It is what a whole call keeps, though the report of a
failure alone does not. Main statement: `failures_le_calls`.
-/

namespace EventHub

open Run

namespace Tally

/-- The count under a key, or the sum of all counts. -/
def amount (t : Tally) (what : Counted) : Option String → Nat
  | some key => ((t.counts what).find? key).getD 0
  | none => (OrderedMap.values (t.counts what)).sum

/-- A name has its bucket for good: it is tracked, or there is no room for more names. -/
def Settled (t : Tally) (name : String) : Prop := name ∈ t.tracked ∨ t.limit ≤ t.tracked.length

/-- Later counters: names keep their buckets, and no more failures were added than calls. -/
structure Grows (t u : Tally) : Prop where
  settled : ∀ name, t.Settled name → u.Settled name ∧ (u.bucket name).1 = (t.bucket name).1
  failures : ∀ key?, u.amount .failure key? + t.amount .call key? ≤
    t.amount .failure key? + u.amount .call key?

variable {t u v : Tally} {what : Counted} {name : String}

/-- Recording adds one to the count of the bucket of the name, and to the sum. -/
theorem amount_record (t : Tally) (what other : Counted) (name : String) (key? : Option String) :
    (t.record what name).amount other key? =
      t.amount other key? +
        if other = what ∧ key?.getD (t.bucket name).1 = (t.bucket name).1 then 1 else 0 := by
  have hcounts : (t.record what name).counts other =
      if other = what then Counts.bump (t.counts other) (t.bucket name).1 else t.counts other :=
    counts_record other
  -- what is asked for is what is recorded, or something else
  by_cases hwhat : other = what
  · rw [if_pos hwhat] at hcounts
    cases key? with
    | none =>
        simp only [amount, hcounts, sum_values_bump]
        simp [hwhat]
    | some key =>
        simp only [amount, hcounts, find?_bump]
        by_cases hkey : key = (t.bucket name).1 <;> simp [hwhat, hkey]
  · rw [if_neg hwhat] at hcounts
    cases key? <;> simp [amount, hcounts, hwhat]

theorem amount_new (limit : Nat) (what : Counted) (key? : Option String) :
    ({ limit := limit } : Tally).amount what key? = 0 := by
  cases key? <;> cases what <;> rfl

theorem amount_resized (t : Tally) (sizes : Sizes) (what : Counted) (key? : Option String) :
    ({ t with sizes := sizes } : Tally).amount what key? = t.amount what key? := by
  cases key? <;> cases what <;> rfl

/-- The bucket of a name by the names that are tracked and the room for more. -/
theorem bucket_fst (t : Tally) (name : String) :
    (t.bucket name).1 =
      if name ∈ t.tracked then name else if t.tracked.length < t.limit then name else overflowName := by
  unfold bucket
  split
  · rfl
  · split <;> rfl

/-- The bucket of a name after another name is recorded. -/
theorem bucket_record (t : Tally) (what : Counted) (other name : String) :
    ((t.record what other).bucket name).1 =
      if name ∈ (t.bucket other).2 then name
      else if (t.bucket other).2.length < t.limit then name else overflowName := by
  rw [bucket_fst, tracked_record, limit_record]

/-- Recording a name settles it in its bucket. -/
theorem settled_record (t : Tally) (what : Counted) (name : String) :
    (t.record what name).Settled name ∧ ((t.record what name).bucket name).1 = (t.bucket name).1 := by
  unfold Settled
  rw [bucket_record, tracked_record, limit_record]
  unfold bucket
  -- the name is tracked, or becomes so, or there is no room for it
  by_cases hmem : name ∈ t.tracked
  · simp [hmem]
  · by_cases hroom : t.tracked.length < t.limit
    · simp [hmem, hroom]
    · simp only [hmem, hroom, if_false]
      exact ⟨.inr (Nat.le_of_not_lt hroom), trivial⟩

/-- What is settled stays so, whatever is recorded. -/
theorem Settled.record (h : t.Settled name) (what : Counted) (other : String) :
    (t.record what other).Settled name ∧ ((t.record what other).bucket name).1 = (t.bucket name).1 := by
  unfold Settled
  rw [bucket_record, tracked_record, limit_record]
  -- a tracked name stays tracked
  by_cases hmem : name ∈ t.tracked
  · have hstill : name ∈ (t.bucket other).2 := by
      unfold bucket
      split
      · exact hmem
      · split
        · exact List.mem_append_left _ hmem
        · exact hmem
    rw [if_pos hstill]
    refine ⟨.inl hstill, ?_⟩
    simp [bucket, hmem]
  · -- there is no room, and no more names are tracked
    have hfull : t.limit ≤ t.tracked.length := h.resolve_left hmem
    have hsame : (t.bucket other).2 = t.tracked := by
      unfold bucket
      rw [if_neg (Nat.not_lt_of_le hfull)]
      split <;> rfl
    rw [hsame]
    refine ⟨.inr hfull, ?_⟩
    simp [bucket, hmem, Nat.not_lt_of_le hfull]

namespace Grows

theorem refl (t : Tally) : t.Grows t := ⟨fun _ h => ⟨h, rfl⟩, fun _ => Nat.le_refl _⟩

/-- Growing goes on. -/
theorem trans (h : t.Grows u) (h' : u.Grows v) : t.Grows v where
  settled := fun name hname => by
    obtain ⟨hu, hbucket⟩ := h.settled name hname
    obtain ⟨hv, hbucket'⟩ := h'.settled name hu
    exact ⟨hv, hbucket'.trans hbucket⟩
  failures := fun key? => by
    have hfirst := h.failures key?
    have hsecond := h'.failures key?
    omega

theorem resized (t : Tally) (sizes : Sizes) : t.Grows { t with sizes := sizes } where
  settled := fun _ h => ⟨h, rfl⟩
  failures := fun key? => by rw [amount_resized t sizes .failure, amount_resized t sizes .call]

/-- Recording anything but a failure. -/
theorem record (t : Tally) (hwhat : what ≠ .failure) (name : String) : t.Grows (t.record what name) where
  settled := fun _ h => h.record what name
  failures := fun key? => by
    rw [amount_record, amount_record, if_neg fun h => hwhat h.1.symm]
    omega

/-- A call that is counted, whatever happens during it, and its failure. -/
theorem call_failure (h : (t.record .call name).Grows u) : t.Grows (u.record .failure name) where
  settled := fun other hother => by
    obtain ⟨hcalled, hbucket⟩ := hother.record .call name
    obtain ⟨hu, hbucket'⟩ := h.settled other hcalled
    obtain ⟨hfailed, hbucket''⟩ := hu.record .failure name
    exact ⟨hfailed, hbucket''.trans (hbucket'.trans hbucket)⟩
  failures := fun key? => by
    -- the failure is counted under the same key as the call
    obtain ⟨hsettled, hself⟩ := t.settled_record .call name
    have hbucket : (u.bucket name).1 = (t.bucket name).1 := (h.settled name hsettled).2.trans hself
    have hgrows := h.failures key?
    -- in the buckets: failures may be one more than during the call, but so are calls at its beginning
    rw [amount_record, amount_record] at hgrows
    rw [amount_record, amount_record, hbucket]
    simp only [reduceCtorEq, false_and, if_false, true_and, Nat.add_zero] at hgrows ⊢
    omega

end Grows

end Tally

namespace Account

/-- No state is lost, counting is not turned on, and the counters grow. -/
def Grows (a b : Account) : Prop :=
  ∀ x ∈ a.state?, ∃ y ∈ b.state?, (y.1 = true → x.1 = true) ∧ x.2.Grows y.2

/-- No more failures are counted than calls, under any key and altogether. -/
def Covered (a : Account) : Prop :=
  ∀ x ∈ a.state?, ∀ key?, x.2.amount .failure key? ≤ x.2.amount .call key?

variable {a b c : Account} {what : Counted} {name : String}

theorem Grows.refl (a : Account) : a.Grows a := fun x hx => ⟨x, hx, fun h => h, .refl x.2⟩

/-- Growing goes on. -/
theorem Grows.trans (h : a.Grows b) (h' : b.Grows c) : a.Grows c := by
  intro x hx
  obtain ⟨y, hy, hon, hgrows⟩ := h x hx
  obtain ⟨z, hz, hon', hgrows'⟩ := h' y hy
  exact ⟨z, hz, fun h => hon (hon' h), hgrows.trans hgrows'⟩

/-- Anything but a failure lets an account grow. -/
theorem Grows.entered (a : Account) (hwhat : what ≠ .failure) (name : String) :
    a.Grows (a.entered what name) := by
  rintro ⟨on, t⟩ hx
  refine ⟨(on, if on then t.record what name else t), ?_, fun h => h, ?_⟩
  · exact Option.map_eq_some_iff.mpr ⟨_, hx, rfl⟩
  · cases on with
    | false => exact .refl t
    | true => exact .record t hwhat name

/-- A call, whatever happens during it, and its failure. -/
theorem Grows.call_failure (h : (a.entered .call name).Grows c) : a.Grows (c.entered .failure name) := by
  rintro ⟨on, t⟩ hx
  obtain ⟨⟨after, u⟩, hu, hon, hgrows⟩ := h (on, if on then t.record .call name else t)
    (Option.map_eq_some_iff.mpr ⟨_, hx, rfl⟩)
  refine ⟨(after, if after then u.record .failure name else u),
    Option.map_eq_some_iff.mpr ⟨_, hu, rfl⟩, hon, ?_⟩
  -- whether the hub counts when the call ends, and when it began
  cases after with
  | false =>
      -- the failure is not counted
      cases on with
      | false => exact hgrows
      | true =>
          have hcall : t.Grows (t.record .call name) := .record t (by simp) name
          exact hcall.trans hgrows
  | true =>
      obtain rfl : on = true := hon rfl
      exact hgrows.call_failure

/-- Failures stay covered where an account grows. -/
theorem Covered.grows (ha : a.Covered) (hstate : a.state?.isSome = true) (h : a.Grows b) : b.Covered := by
  intro y hy key?
  obtain ⟨x, hx⟩ := Option.isSome_iff_exists.mp hstate
  obtain ⟨z, hz, -, hgrows⟩ := h x hx
  obtain rfl : z = y := Option.some.inj (hz.symm.trans hy)
  have hcovered := ha x hx key?
  have hfailures := hgrows.failures key?
  omega

end Account

namespace Step

variable {s : Step} {n : Nat}

/-- What grows through whatever a step does by itself, if it neither clears the hub nor turns counting on. -/
theorem keeps_grows (hfound : ∀ options ∈ s.setsUp? n, options.tallyName? = none)
    (hclears : s.clears n = false) (hturns : s.turns n true = false) : s.Keeps n Account.Grows where
  own := hfound
  turn := fun h => by
    cases h with
    | idle => exact .refl _
    -- there was nothing yet that could have been lost
    | found h limit => exact fun x hx => by cases hx
    | sizes sizes =>
        rintro x ⟨⟩
        exact ⟨_, rfl, fun h => h, .resized _ sizes⟩
    | clear h => simp [hclears] at h
    | switch after h sizes =>
        -- turning counting on is what is ruled out
        cases after with
        | true => simp [hturns] at h
        | false =>
            rintro x ⟨⟩
            exact ⟨_, rfl, by simp, .resized _ sizes⟩
    | publish h name => exact .entered _ (by simp) name
    | call h hpublished => exact .entered _ (by simp) _
  failed := fun _ _ _ _ _ _ hcall => hcall.call_failure

/-- Failures stay covered by calls through whatever a step does by itself, if no step during a call of an
actor of the hub clears it or turns counting on. -/
theorem keeps_covered (hfound : ∀ s' ∈ s.trace, ∀ options ∈ s'.setsUp? n, options.tallyName? = none)
    (hcalls : ∀ x ∈ s.visits, x.1.hub = n → ∀ s' ∈ x.2.steps x.1,
      s'.clears n = false ∧ s'.turns n true = false) :
    s.Keeps n fun a b => a.Covered → b.Covered where
  own := hfound s (by simp [trace])
  turn := fun h ha => by
    cases h with
    | idle => exact ha
    | found h limit =>
        rintro x ⟨⟩ key?
        rw [Tally.amount_new, Tally.amount_new]
    | sizes sizes =>
        -- sizes are no counts, and after a clearing there are no counts at all
        rintro x ⟨⟩ key?
        rw [Tally.amount_resized, Tally.amount_resized]
        exact ha _ rfl key?
    | @clear on t events h =>
        rintro x ⟨⟩ key?
        cases on with
        | false => exact ha _ rfl key?
        | true =>
            change (t.reset).amount .failure key? ≤ (t.reset).amount .call key?
            rw [Tally.reset, Tally.amount_new, Tally.amount_new]
    | switch after h sizes =>
        rintro x ⟨⟩ key?
        rw [Tally.amount_resized, Tally.amount_resized]
        exact ha _ rfl key?
    | publish h name => exact ha.grows h (.entered _ (by simp) name)
    | call h hpublished => exact ha.grows h (.entered _ (by simp) _)
  failed := fun {p x} hmem hn hx ho hpublished _ _ ha => by
    -- the call and what happens during it grow, so that the failure finds its call
    have hframes : World.Frames (World.Accounts n Account.Grows) :=
      World.frames_accounts .refl .trans
    have hcall : (x.start p).Leads (World.Accounts n Account.Grows) (x.call p).2 :=
      Visit.leads_of_steps hframes hx fun s' hs' =>
        (keeps_grows (hfound s' (steps_subset_trace hmem hs')) (hcalls (p, x) hmem hn s' hs').1
          (hcalls (p, x) hmem hn s' hs').2).respects
    have hgrows := (hcall.rel (x.owned_start p ho)).2
    rw [hx.account_start ho, if_pos hn] at hgrows
    refine ha.grows ?_ hgrows.call_failure
    rw [World.account_of_hub (hn ▸ hx.hub)]
    rfl

end Step

/-- **Failures never outnumber calls**, as long as calls are let finish. Take a session that begins in a
fresh world, and a hub that is set up in it without given counters, such that no step during a call of one
of its actors clears the hub or turns counting on. Whenever a step begins or ends and the hub counts, it
has counted no more failures than calls, for each event name and altogether. Between calls the hub may be
cleared, and counting may be turned on and off, as one likes; so may it be by error handlers. -/
theorem failures_le_calls {w : World} (hw : w.Fresh) (cs : List (Command Behaviour)) (n : Nat)
    (hfound : ∀ s ∈ Session.steps w cs, ∀ options ∈ s.setsUp? n, options.tallyName? = none)
    (hcalls : ∀ s ∈ Session.steps w cs, ∀ x ∈ s.visits, x.1.hub = n → ∀ s' ∈ x.2.steps x.1,
      s'.clears n = false ∧ s'.turns n true = false) :
    ∀ s ∈ Session.steps w cs, ∀ v, v = s.world ∨ v = s.left → v.hasHub n = true →
      ∀ snapshot ∈ Hub.snapshot? v n,
        (∀ key, ((snapshot.counts .failure).find? key).getD 0 ≤
          ((snapshot.counts .call).find? key).getD 0) ∧
        totalOf (snapshot.counts .failure) ≤ totalOf (snapshot.counts .call) := by
  intro s hs v hv hn snapshot hsnapshot
  -- failures are covered in a fresh world, and stay so through every step
  have hframes : World.Frames (World.Accounts n fun a b => a.Covered → b.Covered) :=
    World.frames_accounts (fun _ h => h) fun h h' h'' => h' (h h'')
  have hrun := Session.leads hframes cs hw.sound fun s hs =>
    (Step.keeps_covered (fun s' hs' => hfound s' (Session.trace_subset_steps s hs hs'))
      (hcalls s hs)).respects
  obtain ⟨-, hcovered⟩ := (hrun s hs v hv).rel (hw.owned n)
  obtain ⟨-, hshown⟩ := Hub.mem_snapshot?.mp hsnapshot
  have hcounts : ∀ key?, (v.tally (v.hub n).tally).amount .failure key? ≤
      (v.tally (v.hub n).tally).amount .call key? := by
    refine hcovered ?_ ((v.hub n).metrics, _) (by rw [World.account_of_hub hn]; rfl)
    rw [hw.account n]
    exact fun x hx => by cases hx
  rw [hshown]
  refine ⟨fun key => ?_, ?_⟩
  · -- under a key, and altogether
    rw [Tally.find?_snapshot, Tally.find?_snapshot]
    exact Int.ofNat_le.mpr (hcounts (some key))
  · rw [Tally.totalOf_snapshot, Tally.totalOf_snapshot]
    exact Int.ofNat_le.mpr (hcounts none)

/-- A session in which an actor publishes in turn and fails, both before and after the host cleared the hub,
and counting is off for a while. -/
def Sample.letFinish : List (Command Behaviour) :=
  let publisher := listen "a" "handle" (actor "publisher" fun _ => failAfter (publish "b"))
  [create true, publisher, publish "a", .hub (.clear "hub"), publisher, .hub (.setMetrics "hub" false),
    publish "a", .hub (.setMetrics "hub" true), publish "a"]

/-- In that session one failure is counted under the first name, and a call at least. -/
theorem failures_le_calls_letFinish :
    (∀ s ∈ Session.steps (Sample.world 2) Sample.letFinish, ∀ options ∈ s.setsUp? 2,
        options.tallyName? = none) ∧
      (∀ s ∈ Session.steps (Sample.world 2) Sample.letFinish, ∀ x ∈ s.visits, x.1.hub = 2 →
        ∀ s' ∈ x.2.steps x.1, s'.clears 2 = false ∧ s'.turns 2 true = false) ∧
      ∃ s ∈ Session.steps (Sample.world 2) Sample.letFinish, ∃ snapshot ∈ Hub.snapshot? s.left 2,
        ((snapshot.counts .failure).find? "a").getD 0 = 1 ∧
          1 ≤ ((snapshot.counts .call).find? "a").getD 0 := by
  have hfound : ∀ s ∈ Session.steps (Sample.world 2) Sample.letFinish, ∀ options ∈ s.setsUp? 2,
      options.tallyName? = none := by decide +kernel
  have hcalls : ∀ s ∈ Session.steps (Sample.world 2) Sample.letFinish, ∀ x ∈ s.visits, x.1.hub = 2 →
      ∀ s' ∈ x.2.steps x.1, s'.clears 2 = false ∧ s'.turns 2 true = false := by decide +kernel
  obtain ⟨s, hs, hhub, snapshot, hsnapshot, hfailed⟩ :
      ∃ s ∈ Session.steps (Sample.world 2) Sample.letFinish, s.left.hasHub 2 = true ∧
        ∃ snapshot ∈ Hub.snapshot? s.left 2, ((snapshot.counts .failure).find? "a").getD 0 = 1 := by
    decide +kernel
  obtain ⟨hle, -⟩ := failures_le_calls ⟨rfl, rfl, rfl, rfl⟩ Sample.letFinish 2 hfound hcalls
    s hs s.left (.inr rfl) hhub snapshot hsnapshot
  exact ⟨hfound, hcalls, s, hs, snapshot, hsnapshot, hfailed, hfailed ▸ hle "a"⟩

/-- A session in which an actor has a command carried out and then fails. -/
def Sample.interrupted (metrics : Bool) (c : Command Behaviour) : List (Command Behaviour) :=
  [create metrics, listen "a" "handle" (actor "actor" fun _ => failAfter c), publish "a"]

/-- Failures outnumber calls if an actor clears its own hub and then fails, or if it turns counting on and
then fails: the call itself is not counted, but its failure is. -/
theorem failures_outnumber_calls :
    (∃ s ∈ Session.steps (Sample.world 2) (Sample.interrupted true (.hub (.clear "hub"))),
        ∃ snapshot ∈ Hub.snapshot? s.left 2,
          ((snapshot.counts .failure).find? "a").getD 0 = 1 ∧
            ((snapshot.counts .call).find? "a").getD 0 = 0) ∧
      ∃ s ∈ Session.steps (Sample.world 2) (Sample.interrupted false (.hub (.setMetrics "hub" true))),
        ∃ snapshot ∈ Hub.snapshot? s.left 2,
          ((snapshot.counts .failure).find? "a").getD 0 = 1 ∧
            ((snapshot.counts .call).find? "a").getD 0 = 0 := by
  decide +kernel

end EventHub
