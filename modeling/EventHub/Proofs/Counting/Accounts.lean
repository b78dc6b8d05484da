import EventHub.Proofs.Session.Invariants
import EventHub.Proofs.Session.Parts
import EventHub.Proofs.Tally.History

/-! # The account of a hub with counters of its own

A hub that is set up without given counters gets new ones. Nobody else ever gets hold of them
(`World.Owned`), so that only what happens on the hub itself changes what they count. `Step.Turn` lists what
the moves of a step are for the account of such a hub (`Step.Move.turn`).
-/

namespace EventHub

/-- What counts for a hub: if it exists, whether it counts and its counters; and what happened on it. -/
structure Account where
  state? : Option (Bool × Tally)
  events : List (Counted × String)

/-- Something happens on the hub; it is counted if the hub counts. -/
def Account.entered (a : Account) (what : Counted) (name : String) : Account where
  state? := a.state?.map fun (on, t) => (on, if on then t.record what name else t)
  events := a.events ++ [(what, name)]

namespace World

/-- The account of a hub. -/
def account (w : World) (n : Nat) : Account where
  state? := if w.hasHub n then some ((w.hub n).metrics, w.tally (w.hub n).tally) else none
  events := w.eventsOf n

/-- If a hub exists, its counters are neither those of another hub nor kept under a name. -/
structure Owned (w : World) (n : Nat) : Prop where
  hub : ∀ m, w.hasHub n = true → w.hasHub m = true → m ≠ n → (w.hub m).tally ≠ (w.hub n).tally
  name : ∀ name, w.hasHub n = true → w.kept.find? name ≠ some (.tally (w.hub n).tally)

end World

/-- A snapshot shows the counters of a hub that counts. -/
theorem Hub.mem_snapshot? {w : World} {n : Nat} {snapshot : Snapshot} :
    snapshot ∈ snapshot? w n ↔
      (w.hub n).metrics = true ∧ snapshot = (w.tally (w.hub n).tally).snapshot := by
  unfold snapshot?
  split
  · rename_i hon
    simp [hon, eq_comm]
  · rename_i hoff
    simp [hoff]

/-- What a move of a step is for the account of a hub with counters of its own. -/
inductive Step.Turn (s : Step) (n : Nat) : Account → Account → Prop
  | idle (a : Account) : Turn s n a a
  /-- The hub is set up. -/
  | found {options : HubOptions Behaviour} (h : s.setsUp? n = some options) (limit : Nat) :
      Turn s n ⟨none, []⟩ ⟨some ((s.left.hub n).metrics, { limit := limit }), []⟩
  | sizes {on : Bool} {t : Tally} {events : List (Counted × String)} (sizes : Sizes) :
      Turn s n ⟨some (on, t), events⟩ ⟨some (on, { t with sizes := sizes }), events⟩
  | clear {on : Bool} {t : Tally} {events : List (Counted × String)} (h : s.clears n = true) :
      Turn s n ⟨some (on, t), events⟩ ⟨some (on, if on then t.reset else t), events⟩
  | switch {on : Bool} {t : Tally} {events : List (Counted × String)} (after : Bool)
      (h : s.turns n after = true) (sizes : Sizes) :
      Turn s n ⟨some (on, t), events⟩ ⟨some (after, { t with sizes := sizes }), events⟩
  /-- A publish begins. -/
  | publish {a : Account} (h : a.state?.isSome = true) (name : String) :
      Turn s n a (a.entered .publish name)
  /-- A call begins, of an event that was published. -/
  | call {a : Account} (h : a.state?.isSome = true) {name : String}
      (hpublished : (.publish, name) ∈ a.events) : Turn s n a (a.entered .call name)

namespace World

variable {w v : World} {n m : Nat}

/-! ## What leaves an account alone -/

/-- An account is told by whether the hub exists and counts, by its counters, and by what happened on it. -/
theorem account_eq (hhub : v.hasHub n = w.hasHub n) (hmetrics : (v.hub n).metrics = (w.hub n).metrics)
    (hnumber : (v.hub n).tally = (w.hub n).tally)
    (htally : w.hasHub n = true → v.tally (w.hub n).tally = w.tally (w.hub n).tally)
    (hevents : v.eventsOf n = w.eventsOf n) : v.account n = w.account n := by
  unfold account
  rw [hhub, hmetrics, hnumber, hevents]
  cases hn : w.hasHub n with
  | false => rfl
  | true => rw [htally hn]

/-- The account of a hub that exists. -/
theorem account_of_hub (hn : w.hasHub n = true) :
    w.account n = ⟨some ((w.hub n).metrics, w.tally (w.hub n).tally), w.eventsOf n⟩ := by
  unfold account
  rw [hn]
  rfl

/-- Hubs, names and what happened are as they were, and so are the counters of the hub. -/
theorem account_of_same (hhubs : v.hubs = w.hubs)
    (htally : w.hasHub n = true → v.tally (w.hub n).tally = w.tally (w.hub n).tally)
    (hhappened : v.happened = w.happened) : v.account n = w.account n :=
  account_eq (hasHub_congr hhubs n) (by rw [hub_congr hhubs]) (by rw [hub_congr hhubs]) htally
    (eventsOf_congr hhappened n)

/-- Where hubs, names, registries and counters are left alone, accounts are. -/
theorem account_alike (hw : w.Sound) (h : w.Alike v) : v.account n = w.account n :=
  account_of_same h.hubs (fun hn => h.tally _ (hw.hub n hn).tally) h.happened

/-- Noting the sizes of a hub changes no other counters. -/
theorem tally_sized_ne {k : Nat} (h : k ≠ (w.hub m).tally) : (w.sized m).tally k = w.tally k := by
  unfold sized
  split
  · exact (tally_setTally ..).trans (if_neg h)
  · rfl

/-- Noting the sizes of a hub changes nothing else of its counters. -/
theorem tally_sized_self (w : World) (m : Nat) :
    ∃ sizes, (w.sized m).tally (w.hub m).tally = { w.tally (w.hub m).tally with sizes := sizes } := by
  unfold sized
  split
  · exact ⟨_, (tally_setTally ..).trans (if_pos rfl)⟩
  · exact ⟨(w.tally (w.hub m).tally).sizes, rfl⟩

/-- Counting for a hub changes no other counters. -/
theorem tally_counted_ne {k : Nat} {what : Counted} {name : String} (h : k ≠ (w.hub m).tally) :
    (w.counted m what name).tally k = w.tally k := by
  unfold counted
  split
  · exact (tally_setTally ..).trans (if_neg h)
  · rfl

/-- Counting for a hub records in its counters, if the hub counts. -/
theorem tally_counted_self (w : World) (m : Nat) (what : Counted) (name : String) :
    (w.counted m what name).tally (w.hub m).tally =
      if (w.hub m).metrics then (w.tally (w.hub m).tally).record what name
      else w.tally (w.hub m).tally := by
  unfold counted
  split
  · exact (tally_setTally ..).trans (if_pos rfl)
  · rfl

/-- Clearing a hub resets its counters, if the hub counts, and no others. -/
theorem tally_cleared (w : World) (m k : Nat) : (w.cleared m).tally k =
    if (w.hub m).metrics = true ∧ k = (w.hub m).tally then (w.tally k).reset else w.tally k := by
  unfold cleared
  dsimp only
  split
  · -- the hub counts: its counters are reset, after the registry is cleared
    refine (tally_setTally ..).trans ?_
    split
    · rename_i hmetrics hk
      rw [if_pos ⟨hmetrics, hk⟩, hk]
      rfl
    · rename_i hk
      rw [if_neg fun h => hk h.2]
      rfl
  · -- the hub does not count, and counters stay as they are
    rename_i hmetrics
    rw [if_neg fun h => hmetrics h.1]
    rfl

theorem hubs_cleared (w : World) (m : Nat) : (w.cleared m).hubs = w.hubs := by
  obtain ⟨tallies, hcleared⟩ := w.cleared_cases m
  rw [hcleared]
  rfl

theorem happened_cleared (w : World) (m : Nat) : (w.cleared m).happened = w.happened := by
  obtain ⟨tallies, hcleared⟩ := w.cleared_cases m
  rw [hcleared]
  rfl

/-- A clearing resets the counters of a hub that counts. -/
theorem account_cleared (hn : w.hasHub n = true) : (w.cleared n).account n =
    ⟨some ((w.hub n).metrics,
      if (w.hub n).metrics then (w.tally (w.hub n).tally).reset else w.tally (w.hub n).tally),
      w.eventsOf n⟩ := by
  rw [account_of_hub ((hasHub_congr (w.hubs_cleared n) n).trans hn), hub_congr (w.hubs_cleared n), tally_cleared,
    eventsOf_congr (w.happened_cleared n)]
  simp

/-- Something happens on a hub: the account of the hub tells it, and that of another hub does not. -/
theorem account_entered (ho : w.Owned n) {o : Occurrence} {what : Counted} {name : String}
    (hcounted : o.counted? = some (m, what, name)) (hm : w.hasHub m = true) :
    (w.entered o).account n = if m = n then (w.account n).entered what name else w.account n := by
  have hevents := w.eventsOf_note hcounted n
  have htally : ∀ k, (w.entered o).tally k = (w.counted m what name).tally k := by
    intro k
    unfold entered
    rw [hcounted]
    change ((w.note o).counted m what name).tally k = _
    rw [counted_note]
    rfl
  obtain ⟨tallies, hentered⟩ := w.entered_cases o
  have hhubs : (w.entered o).hubs = w.hubs := by rw [hentered]; rfl
  have hhappened : (w.entered o).happened = (w.note o).happened := by rw [hentered]; rfl
  -- it happens on the hub itself
  by_cases hmn : m = n
  · subst hmn
    rw [if_pos rfl] at hevents ⊢
    unfold account Account.entered
    rw [hasHub_congr hhubs, hub_congr hhubs, eventsOf_congr hhappened, hevents, htally, hm,
      tally_counted_self]
    rfl
  · -- it happens on another hub, whose counters are others
    rw [if_neg hmn] at hevents ⊢
    refine account_eq (hasHub_congr hhubs n) (by rw [hub_congr hhubs]) (by rw [hub_congr hhubs])
      (fun hn => ?_) ((eventsOf_congr hhappened n).trans hevents)
    rw [htally, tally_counted_ne (ho.hub m hn hm hmn).symm]

/-! ## What leaves counters owned -/

/-- Counters are a part of a hub. -/
theorem owned_iff : w.Owned n ↔ w.Owns .tally n :=
  ⟨fun h => ⟨h.hub, h.name⟩, fun h => ⟨h.hub, h.name⟩⟩

theorem Owned.of_kept (ho : w.Owned n) (hhubs : v.hubs = w.hubs) (hkept : v.kept = w.kept) :
    v.Owned n :=
  owned_iff.mpr ((owned_iff.mp ho).of_kept hhubs hkept)

theorem Owned.entered (ho : w.Owned n) (o : Occurrence) : (w.entered o).Owned n :=
  owned_iff.mpr ((owned_iff.mp ho).entered o)

end World

namespace Step.Move

variable {s : Step} {w v : World} {n : Nat}

/-- **Counters stay with the hub** that is set up without given ones. -/
theorem owned (h : s.Move w v) (hw : w.Sound) (ho : w.Owned n)
    (hown : ∀ options ∈ s.setsUp? n, options.tallyName? = none) : v.Owned n :=
  World.owned_iff.mpr (h.owns hw (World.owned_iff.mp ho) hown)

end Step.Move

namespace Step.Turn

variable {s : Step} {w v : World} {n m : Nat}

theorem of_eq (h : v.account n = w.account n) : s.Turn n (w.account n) (v.account n) :=
  h ▸ .idle _

/-- The sizes of the registry are noted, after a change of hubs and registries only. -/
theorem of_sized (ho : w.Owned n) (hm : w.hasHub m = true) (hhubs : v.hubs = w.hubs)
    (htallies : v.tallies = w.tallies) (hhappened : v.happened = w.happened) :
    s.Turn n (w.account n) ((v.sized m).account n) := by
  obtain ⟨tallies, hsized⟩ := v.sized_cases m
  have hhubs' : (v.sized m).hubs = w.hubs := by rw [hsized]; exact hhubs
  have hhappened' : (v.sized m).happened = w.happened := by rw [hsized]; exact hhappened
  have htally : ∀ k, v.tally k = w.tally k := fun k => by rw [World.tally, htallies, World.tally]
  have hhub : v.hub m = w.hub m := World.hub_congr hhubs m
  -- the sizes are those of the hub itself, or of another one
  by_cases hmn : m = n
  · subst hmn
    obtain ⟨sizes, hsizes⟩ := v.tally_sized_self m
    rw [hhub, htally] at hsizes
    rw [World.account_of_hub hm, World.account_of_hub ((World.hasHub_congr hhubs' m).trans hm),
      World.hub_congr hhubs', World.eventsOf_congr hhappened', hsizes]
    exact .sizes sizes
  · refine of_eq (World.account_of_same hhubs' (fun hn => ?_) hhappened')
    rw [World.tally_sized_ne (hhub ▸ (ho.hub m hn hm hmn).symm), htally]

/-- Clearing a hub is a turn of its account, and nothing to that of another hub. -/
theorem of_cleared (ho : w.Owned n) (hm : w.hasHub m = true) (hclears : s.clears m = true) :
    s.Turn n (w.account n) ((w.cleared m).account n) := by
  by_cases hmn : m = n
  · subst hmn
    rw [World.account_cleared hm, World.account_of_hub hm]
    exact .clear hclears
  · refine of_eq (World.account_of_same (w.hubs_cleared m) (fun hn => ?_) (w.happened_cleared m))
    rw [World.tally_cleared, if_neg fun h => (ho.hub m hn hm hmn).symm h.2]

/-- Turning counting of a hub on or off is a turn of its account, and nothing to that of another hub. -/
theorem of_switched (ho : w.Owned n) (hm : w.hasHub m = true) {on : Bool}
    (hturns : s.turns m on = true) : s.Turn n (w.account n) ((w.switched m on).account n) := by
  obtain ⟨tallies, hswitched⟩ := w.switched_cases m on
  have hhubs : (w.switched m on).hubs = w.hubs.insert m { w.hub m with metrics := on } := by
    rw [hswitched]
    rfl
  have hhappened : (w.switched m on).happened = w.happened := by rw [hswitched]; rfl
  have hhub : (w.setHub m { w.hub m with metrics := on }).hub m = { w.hub m with metrics := on } := by
    rw [World.hub_setHub, if_pos rfl]
  by_cases hmn : m = n
  · -- the hub has changed, and notes the sizes at once if it counts now
    subst hmn
    have hthere : (w.switched m on).hasHub m = true := (World.hasHub_insert hhubs m).mpr (.inl rfl)
    obtain ⟨sizes, hsizes⟩ := (w.setHub m { w.hub m with metrics := on }).tally_sized_self m
    rw [hhub] at hsizes
    rw [World.account_of_hub hm, World.account_of_hub hthere, World.hub_insert hhubs, if_pos rfl,
      World.eventsOf_congr hhappened]
    change s.Turn m _ ⟨some (on, ((w.setHub m { w.hub m with metrics := on }).sized m).tally _), _⟩
    rw [hsizes]
    exact .switch on hturns sizes
  · -- another hub has changed, which notes sizes in its own counters
    have hnm : n ≠ m := fun e => hmn e.symm
    have hhubn : (w.switched m on).hub n = w.hub n := by rw [World.hub_insert hhubs, if_neg hnm]
    have hthere : (w.switched m on).hasHub n = w.hasHub n := World.hasHub_insert_eq hhubs fun _ => hm
    refine of_eq (World.account_eq hthere (by rw [hhubn]) (by rw [hhubn]) (fun hn => ?_)
      (World.eventsOf_congr hhappened n))
    refine World.tally_sized_ne (w := w.setHub m { w.hub m with metrics := on }) ?_
    rw [hhub]
    exact (ho.hub m hn hm hmn).symm

/-- A hub that did not exist has no account to speak of; another hub is left alone. -/
theorem of_found (hw : w.Sound) {options : HubOptions Behaviour} (h : w.Founded v options m)
    (hoptions : s.setsUp? m = some options) (hleft : s.left.hub m = v.hub m)
    (hown : m = n → options.tallyName? = none) : s.Turn n (w.account n) (v.account n) := by
  by_cases hmn : m = n
  · -- the new hub: before, there was neither a hub nor anything that happened on it
    subst hmn
    have hnew : w.hasHub m = false := h.isNew hw
    have hbefore : w.account m = ⟨none, []⟩ := by
      unfold World.account
      rw [hnew, hw.eventsOf_eq_nil hnew]
      rfl
    obtain ⟨limit, hlimit⟩ := h.blank (hown rfl)
    rw [hbefore, World.account_of_hub h.hasHub, hlimit, World.eventsOf_congr h.happened,
      hw.eventsOf_eq_nil hnew, ← hleft]
    exact .found hoptions limit
  · -- another hub is new, and takes up counters of its own or new ones
    obtain ⟨hthere, hhubn⟩ := h.others (Ne.symm hmn)
    exact of_eq (World.account_eq hthere (by rw [hhubn]) (by rw [hhubn])
      (fun hn => h.tally _ (hw.hub n hn).tally) (World.eventsOf_congr h.happened n))

end Step.Turn

/-- **A move is a turn of the account** of a hub with counters of its own. -/
theorem Step.Move.turn {s : Step} {w v : World} {n : Nat} (h : s.Move w v) (hw : w.Sound)
    (ho : w.Owned n) (hown : ∀ options ∈ s.setsUp? n, options.tallyName? = none) :
    s.Turn n (w.account n) (v.account n) := by
  cases h with
  | quiet h => exact .of_eq (World.account_alike hw h)
  | keep name hknown hshared => exact .of_eq (World.account_of_same rfl (fun _ => rfl) rfl)
  | newRegistry name => exact .of_eq (World.account_of_same rfl (fun _ => rfl) rfl)
  | newTally name t =>
      -- the new counters are none that were issued before
      refine .of_eq (World.account_of_same rfl (fun hn => ?_) rfl)
      exact (w.tally_setTally w.issued _ t).trans (if_neg (Nat.ne_of_lt (hw.hub n hn).tally))
  | call h op => exact .of_eq (World.account_of_same rfl (fun _ => rfl) rfl)
  | @count name m h t =>
      -- counters with a name are none that a hub owns
      refine .of_eq (World.account_of_same rfl (fun hn => ?_) rfl)
      have hne : (w.hub n).tally ≠ m := fun heq => ho.name name hn (heq ▸ h)
      exact (w.tally_setTally m _ t).trans (if_neg hne)
  | @found _ options m h hoptions hleft =>
      exact .of_found hw h hoptions hleft fun hmn => hown options (hmn ▸ hoptions)
  | @change m hm op => exact .of_sized ho hm rfl rfl rfl
  | clear hm hclears => exact .of_cleared ho hm hclears
  | @handle m hm handler? =>
      -- the handler of a hub is no part of its account
      have hhubs : (w.setHub m { w.hub m with handler? := handler? }).hubs =
          w.hubs.insert m { w.hub m with handler? := handler? } := rfl
      have hthere : (w.setHub m { w.hub m with handler? := handler? }).hasHub n = w.hasHub n :=
        World.hasHub_insert_eq hhubs fun _ => hm
      have hhub := World.hub_insert hhubs n
      refine .of_eq (World.account_eq hthere ?_ ?_ (fun _ => rfl) rfl)
      all_goals
        rw [hhub]
        split
        · rename_i hnm
          rw [hnm]
        · rfl
  | switch hm hturns => exact .of_switched ho hm hturns
  | @publish m hm depth name =>
      rw [World.account_entered ho rfl hm]
      split
      · rename_i hmn
        subst hmn
        exact .publish (by rw [World.account_of_hub hm]; rfl) name
      · exact .idle _
  | @enterCall m hm event hpublished depth payload actor context =>
      rw [World.account_entered ho rfl hm]
      split
      · rename_i hmn
        subst hmn
        exact .call (by rw [World.account_of_hub hm]; rfl) hpublished
      · exact .idle _

namespace World.Fresh

variable {w : World}

theorem owned (hw : w.Fresh) (n : Nat) : w.Owned n := World.owned_iff.mpr (hw.owns .tally n)

theorem account (hw : w.Fresh) (n : Nat) : w.account n = ⟨none, []⟩ := by
  unfold World.account World.eventsOf
  rw [hw.hasHub n, hw.happened]
  rfl

end World.Fresh

/-! ## Invariants of accounts -/

/-- A relation between accounts, as a relation between worlds in which the hub owns its counters. -/
def World.Accounts (n : Nat) (A : Account → Account → Prop) (w v : World) : Prop :=
  w.Owned n → v.Owned n ∧ A (w.account n) (v.account n)

/-- What a step does by itself to the account of a hub with counters of its own is related: each turn, and
each failure of a call, for which the call is related already. -/
structure Step.Keeps (s : Step) (n : Nat) (A : Account → Account → Prop) : Prop where
  own : ∀ options ∈ s.setsUp? n, options.tallyName? = none
  turn : ∀ {a b : Account}, s.Turn n a b → A a b
  failed : ∀ {p : Publication} {x : Visit}, (p, x) ∈ s.visits → p.hub = n → x.Sound p →
    x.before.Owned n → (.publish, x.event.name) ∈ ((x.call p).2.account n).events →
    A (x.before.account n) ((x.call p).2.account n) →
    A ((x.before.account n).entered .call x.event.name) ((x.call p).2.account n) →
    A (x.before.account n) (((x.call p).2.account n).entered .failure x.event.name)

namespace World

variable {w v : World} {n : Nat} {A : Account → Account → Prop}

/-- A reflexive and transitive relation between accounts holds along whole sessions, if it holds of turns. -/
theorem frames_accounts (hrefl : ∀ a, A a a) (htrans : ∀ {a b c}, A a b → A b c → A a c) :
    Frames (Accounts n A) where
  alike := fun hw h ho => ⟨ho.of_kept h.hubs h.kept, account_alike (n := n) hw h ▸ hrefl _⟩
  trans := fun h h' ho => ⟨(h' (h ho).1).1, htrans (h ho).2 (h' (h ho).1).2⟩

end World

namespace Visit

variable {p : Publication} {x : Visit} {n : Nat}

theorem owned_start (p : Publication) (ho : x.before.Owned n) : (x.start p).Owned n := by
  have halike := x.alike_start p
  exact (ho.entered _).of_kept halike.hubs halike.kept

/-- The start of a call is entered in the account of the hub that calls. -/
theorem Sound.account_start (hx : x.Sound p) (ho : x.before.Owned n) :
    (x.start p).account n =
      if p.hub = n then (x.before.account n).entered .call x.event.name else x.before.account n := by
  rw [World.account_alike ?_ (x.alike_start p)]
  · exact World.account_entered ho rfl hx.hub
  · refine hx.world.entered fun e he => ?_
    cases he
    exact hx.hub

end Visit

/-- What every turn and every failure keeps, every step keeps by itself. -/
theorem Step.Keeps.respects {s : Step} {n : Nat} {A : Account → Account → Prop} (h : s.Keeps n A) :
    s.Respects (World.Accounts n A) where
  move := fun hw hmove ho => ⟨hmove.owned hw ho h.own, h.turn (hmove.turn hw ho h.own)⟩
  failed := fun {p x f} hmem hx _ hcalled hcall ho => by
    -- the failure comes on top of the account that the call leaves
    obtain ⟨hleft, hall⟩ := hcalled.rel ho
    obtain ⟨-, hbody⟩ := hcall.rel (x.owned_start p ho)
    have hstart := hx.account_start ho
    have hfailed : (x.failed p f).account n =
        if p.hub = n then ((x.call p).2.account n).entered .failure x.event.name
        else (x.call p).2.account n :=
      World.account_entered (o := .failed p.depth p.hub x.event x.actor f) hleft rfl
        (hcalled.hasHub hx.hub)
    refine ⟨hleft.entered (.failed p.depth p.hub x.event x.actor f), ?_⟩
    rw [hfailed]
    by_cases hn : p.hub = n
    · -- the failure is one of the hub itself, whose call began with its start
      rw [if_pos hn] at hstart ⊢
      rw [hstart] at hbody
      exact h.failed hmem hn hx ho (hn ▸ hcalled.later.eventsOf hx.published) hall hbody
    · -- the call is one of another hub
      rw [if_neg hn]
      exact hall

end EventHub
