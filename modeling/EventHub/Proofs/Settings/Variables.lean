import EventHub.Proofs.Settings.Stages

/-! # Variables of a load

A load first sets the variables that are not set from the file of variables. Those that are set win
(`variableNamed?_setMissing`). Where the file, whatever it says, says the same again (`Services.Rereads`), a second
load sets no variable. So a load that fails leaves a machine on which every further load fails in the same way.

The standard services keep to both rules, `Services.distinct_standard` and `Services.rereads_standard`: which keys a
file of variables has does not depend on the variables that are set.

Main statement: `load_fails_again`.
-/

namespace EventHub

/-! ## Setting what is missing -/

namespace Surroundings

variable (m : Surroundings)

/-- A variable that is set has its value, and the others are as they were. -/
theorem variableNamed?_setVariable (name value key : String) :
    (m.setVariable name (some value)).variableNamed? key =
      if key = name then some value else m.variableNamed? key := OrderedMap.find?_insert ..

/-- Sets a variable that is not set yet, if it is given a value. -/
def supply (name : String) (value? : Option String) : Surroundings := m.setMissing [(name, value?)]

theorem setMissing_cons (b : String × Option String) (bs : OrderedMap String (Option String)) :
    m.setMissing (b :: bs) = (m.supply b.1 b.2).setMissing bs := rfl

theorem supply_none (name : String) : m.supply name none = m := rfl

theorem supply_some (name value : String) :
    m.supply name (some value) =
      if (m.variableNamed? name).isSome then m else m.setVariable name (some value) := rfl

/-- A variable that is supplied has its own value, or else the one that it is given. -/
theorem variableNamed?_supply (name : String) (value? : Option String) (key : String) :
    (m.supply name value?).variableNamed? key =
      if name = key then (m.variableNamed? key).or value? else m.variableNamed? key := by
  cases value? with
  | none => simp [supply_none]
  | some value =>
      rw [supply_some]
      by_cases hname : name = key
      · subst hname
        cases hset : m.variableNamed? name with
        | some old => simp [hset]
        | none => simp [variableNamed?_setVariable]
      · have hkey : key ≠ name := Ne.symm hname
        split <;> simp [variableNamed?_setVariable, hkey]

/-- **Variables that are set win**; the others get the values of the bindings. -/
theorem variableNamed?_setMissing {bs : OrderedMap String (Option String)} (hkeys : bs.keys.Nodup)
    (key : String) : (m.setMissing bs).variableNamed? key = (m.variableNamed? key).or (bs.find? key).join := by
  induction bs generalizing m with
  | nil => simp [setMissing, OrderedMap.find?]
  | cons b bs ih =>
      obtain ⟨hfresh, hkeys⟩ := List.nodup_cons.mp hkeys
      rw [setMissing_cons, ih _ hkeys, variableNamed?_supply, OrderedMap.find?_cons]
      split
      · -- the key comes once, so that no later binding has a value for it
        rename_i hb
        subst hb
        rw [OrderedMap.find?_eq_none hfresh]
        simp
      · rfl

/-- Where all variables with a value are set, nothing changes. -/
theorem setMissing_eq_self {bs : OrderedMap String (Option String)}
    (h : ∀ b ∈ bs, b.2.isSome = true → (m.variableNamed? b.1).isSome = true) : m.setMissing bs = m := by
  induction bs with
  | nil => rfl
  | cons b bs ih =>
      have hfirst : m.supply b.1 b.2 = m := by
        cases hvalue : b.2 with
        | none => rfl
        | some value => rw [supply_some, if_pos (h b (by simp) (by simp [hvalue]))]
      rw [setMissing_cons, hfirst]
      exact ih fun c hc => h c (List.mem_cons_of_mem b hc)

/-- Setting variables leaves the files, and where the program works. -/
theorem setMissing_frame (bs : OrderedMap String (Option String)) :
    (m.setMissing bs).nodes = m.nodes ∧ (m.setMissing bs).here = m.here := by
  induction bs generalizing m with
  | nil => exact ⟨rfl, rfl⟩
  | cons b bs ih =>
      have hfirst : (m.supply b.1 b.2).nodes = m.nodes ∧ (m.supply b.1 b.2).here = m.here := by
        cases b.2 with
        | none => exact ⟨rfl, rfl⟩
        | some value =>
            rw [supply_some]
            split <;> exact ⟨rfl, rfl⟩
      obtain ⟨hnodes, hhere⟩ := ih (m.supply b.1 b.2)
      exact ⟨hnodes.trans hfirst.1, hhere.trans hfirst.2⟩

/-- The file of variables is looked for among the same files. -/
theorem nearestFile?_setMissing (bs : OrderedMap String (Option String)) (name : String) :
    (m.setMissing bs).nearestFile? name = m.nearestFile? name := by
  obtain ⟨hnodes, hhere⟩ := m.setMissing_frame bs
  unfold nearestFile? node?
  rw [hnodes, hhere]

end Surroundings

/-! ## The bindings of a file -/

namespace EnvFile

/-- The keys of bindings, each with whether it has a value. -/
def outline (bs : OrderedMap String (Option String)) : OrderedMap String Bool :=
  bs.map fun b => (b.1, b.2.isSome)

theorem outline_insert (bs : OrderedMap String (Option String)) (key : String) (value? : Option String) :
    outline (bs.insert key value?) = (outline bs).insert key value?.isSome :=
  OrderedMap.map_insert Option.isSome bs key value?

variable (look look' : String → Option String) (text : List Char)

/-- Which keys a file has, and which of them have values, does not depend on the variables that its values
refer to. -/
theorem outline_read : outline (read look text) = outline (read look' text) := by
  unfold read resolve
  refine List.foldl_rel (r := fun done done' => outline done = outline done') rfl
    fun b _ done done' hdone => ?_
  rw [outline_insert, outline_insert, hdone, Option.isSome_map, Option.isSome_map]

theorem nodup_keys_read : (OrderedMap.keys (read look text)).Nodup := by
  unfold read resolve
  refine List.foldlRecOn (motive := fun done => (OrderedMap.keys done).Nodup) _ _ List.nodup_nil ?_
  exact fun done hdone b _ => OrderedMap.nodup_keys_insert hdone ..

/-- A file that is read again, after its variables were set, sets none. -/
theorem setMissing_read_again (m : Surroundings) :
    (m.setMissing (read look text)).setMissing (read look' text) = m.setMissing (read look text) := by
  refine Surroundings.setMissing_eq_self _ fun b hb hvalue => ?_
  -- the first reading had a value for the same key
  have hmem : (b.1, true) ∈ outline (read look' text) := by
    rw [← hvalue]
    exact List.mem_map_of_mem hb
  rw [outline_read look' look] at hmem
  obtain ⟨c, hc, hcb⟩ := List.mem_map.mp hmem
  obtain ⟨hkey, hset⟩ := Prod.mk.inj hcb
  have hkeys := nodup_keys_read look text
  rw [Surroundings.variableNamed?_setMissing m hkeys, ← hkey, OrderedMap.find?_of_mem hkeys hc]
  cases hc₂ : c.2 with
  | none => simp [hc₂] at hset
  | some value => cases m.variableNamed? c.1 <;> rfl

end EnvFile

/-! ## The standard services -/

namespace Services

/-- The standard services give each variable of a file once. -/
theorem distinct_standard : standard.Distinct := by
  intro around
  change (standardVariables around).bindings.keys.Nodup
  unfold standardVariables
  split
  · exact List.nodup_nil
  · split
    · exact List.nodup_nil
    · exact EnvFile.nodup_keys_read ..

/-- The standard services find the same file again, and nothing in it that is not set. -/
theorem rereads_standard : standard.Rereads := by
  intro around
  change (standardVariables (around.setMissing (standardVariables around).bindings)).error? =
      (standardVariables around).error? ∧
    (around.setMissing (standardVariables around).bindings).setMissing
      (standardVariables (around.setMissing (standardVariables around).bindings)).bindings =
      around.setMissing (standardVariables around).bindings
  unfold standardVariables
  rw [Surroundings.nearestFile?_setMissing]
  split
  · exact ⟨rfl, rfl⟩
  · split
    · exact ⟨rfl, rfl⟩
    · exact ⟨rfl, EnvFile.setMissing_read_again ..⟩

end Services

/-! ## Loading again -/

namespace Machine

variable {m : Machine}

/-- Reading the file of variables again changes nothing. -/
theorem equipped_equipped (h : m.services.Rereads) : m.equipped.equipped = m.equipped :=
  congrArg (fun around => ({ m with toSurroundings := around } : Machine)) (h m.toSurroundings).2

/-- Reading the file of variables again ends as before. -/
theorem error?_given_equipped (h : m.services.Rereads) : m.equipped.given.error? = m.given.error? :=
  (h m.toSurroundings).1

end Machine

namespace Settings

open Load

variable {m : Machine} {bindings : OrderedMap String (Option String)}

theorem nodup_keys_variablesFile (hdistinct : m.services.Distinct) (h : variablesFile m = .ok bindings) :
    bindings.keys.Nodup := bindings_of_variablesFile h ▸ hdistinct m.toSurroundings

/-- What the file of variables ends with once its variables were set. -/
theorem variablesFile_equipped (h : m.services.Rereads) :
    variablesFile m.equipped = (variablesFile m).map fun _ => m.equipped.given.bindings := by
  unfold variablesFile
  rw [m.error?_given_equipped h]
  cases m.given.error? <;> rfl

/-- The file of variables is there also after its variables were set, and sets none then. -/
theorem variablesFile_again (hrereads : m.services.Rereads) (h : variablesFile m = .ok bindings) :
    ∃ again, variablesFile (m.setMissing bindings) = .ok again ∧
      (m.setMissing bindings).setMissing again = m.setMissing bindings := by
  have hagain := variablesFile_equipped hrereads
  rw [h] at hagain
  obtain rfl := bindings_of_variablesFile h
  exact ⟨_, hagain, m.equipped_equipped hrereads⟩

/-- Stages that fail, fail in the same way wherever the load stands. -/
theorem settle_fails_again {xs : List Stage} {l l' : Loading} {f : Fault} (h : settle xs l = (.error f, l'))
    (k : Loading) : ∃ k', settle xs k = (.error f, k') ∧ k'.machine = k.machine := by
  have hfault : (settle xs k).1 = .error f := by rw [result_settle, ← result_settle xs l, h]
  exact ⟨(settle xs k).2, Prod.ext hfault rfl, (settle_frame xs k).1⟩

/-- **A load that fails fails again**, and in the same way, whatever was configured or warned of meanwhile. The
machine is as the first load left it. -/
theorem load_fails_again {l l' : Loading} {f : Fault} (hrereads : l.machine.services.Rereads)
    (h : outcome load l = (.error f, l')) (c : Configuration) (warnings : List String) :
    ∃ l'', outcome load ⟨l'.machine, c, warnings⟩ = (.error f, l'') ∧ l''.machine = l'.machine := by
  rcases load_error h with ⟨hvariables, rfl⟩ | ⟨bindings, hvariables, hsettle⟩
  · -- the file of variables ends the second load as it ended the first
    have hagain : variablesFile l.machine.equipped = .error f := by
      rw [variablesFile_equipped hrereads, hvariables]
      rfl
    exact ⟨_, load_fails_of_variables hagain, l.machine.equipped_equipped hrereads⟩
  · -- the second load sets no variable, and goes through the same stages
    obtain ⟨again, hagain, hsame⟩ := variablesFile_again hrereads hvariables
    have hmachine : l'.machine = l.machine.setMissing bindings := by
      have hframe := (settle_frame (stages (l.machine.setMissing bindings))
        (l.begun (l.machine.setMissing bindings))).1
      exact (congrArg (fun x => x.2.machine) hsettle).symm.trans hframe
    rw [hmachine]
    obtain ⟨l'', hfails, hkept⟩ := settle_fails_again hsettle
      ((⟨l.machine.setMissing bindings, c, warnings⟩ : Loading).begun (l.machine.setMissing bindings))
    exact ⟨l'', load_fails_of_settle hagain (by rw [hsame]; exact hfails), hkept⟩

end Settings

end EventHub
