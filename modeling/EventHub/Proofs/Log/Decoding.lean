import EventHub.Proofs.Json.Reading
import EventHub.Proofs.Log.Encoding
import EventHub.Proofs.OrderedMap
import EventHub.Proofs.Session.Lines

/-! # What a line of JSON tells of a record

The line of a record is written from the bindings of one object (`lineBindings`): the time, the level, the
logger and the message, then those dispatch fields that are set, then the extra fields and the exception
where there are any. Its keys come in a fixed order, each at most once (`keys_lineBindings`), so that what is
found under a key is what is bound to it, and each binding can be looked at by itself.

Reading the line as JSON gives this object back, and with it the record: the values of its fields come back
as they are, but for bytes and events, which come back as text. Of a stamped record, the dispatch fields that
come back are those of the context, or else its own (`Tells.find?_stamped`).

Main statement: `json_line_decodes`.
-/

namespace EventHub

open OrderedMap (find? keys)

namespace Log.Record

/-! ## Attributes -/

/-- The names of attributes that every record may have. -/
def standardNames : List String := ownNames ++ ["taskName"]

/-- The attributes that are neither standard nor dispatch fields, and whose names do not begin with an
underscore, in order. -/
def extras (attributes : Fields) : Fields :=
  attributes.filter fun b =>
    b.1 ∉ standardNames ∧ b.1 ∉ dispatchFields ∧ b.1.toList.head? ≠ some '_'

/-- A record as it can be made: its attributes have different names, none of them one of its own. What it
tells in its dispatch fields and extra fields are values that JSON can hold. -/
structure Exact (r : Record) : Prop where
  nodup : (keys r.attributes).Nodup
  unclashed : clash? r.attributes = none
  dispatch : ∀ b ∈ r.attributes, b.1 ∈ dispatchFields → b.2.Exact
  extra : ∀ b ∈ extras r.attributes, b.2.Exact

/-- A dispatch field is set, if it is neither nothing nor the mark for a missing one. -/
theorem isSet_iff (v : Value) : isSet v = true ↔ v ≠ .none ∧ v ≠ .text missingMark := by
  unfold isSet
  split
  case h_1 => simp
  case h_2 hnone =>
    cases v with
    | none => exact absurd rfl hnone
    | text s => simp [Value.isText]
    | _ => simp [Value.isText]

/-- The names of private attributes begin with an underscore. -/
theorem isPrefixOf_underscore (name : String) :
    "_".isPrefixOf name = true ↔ name.toList.head? = some '_' := by
  have hstarts : "_".isPrefixOf name = true ↔ ['_'] <+: name.toList := String.startsWith_string_iff
  rw [hstarts]
  cases name.toList with
  | nil => simp
  | cons c cs => simp [List.cons_prefix_cons, eq_comm]

/-- Attributes without a name of the record's own are extra fields as soon as they are neither dispatch
fields nor private. -/
theorem extraParts_eq {attributes : Fields} (h : clash? attributes = none) :
    extraParts attributes = (extras attributes).map fun b => (b.1, toJson b.2) := by
  have hfilter : (attributes.filter fun b => isExtra b.1) = extras attributes := by
    refine List.filter_congr fun b hb => ?_
    -- the record is not clashing, so that none of its attributes has a name of its own
    have hown : b.1 ∉ ownNames := by
      have hkey := List.find?_eq_none.mp h b.1 (List.mem_map_of_mem hb)
      simpa using hkey
    rw [Bool.eq_iff_iff, decide_eq_true_iff]
    simp only [isExtra, Bool.and_eq_true, decide_eq_true_iff, Bool.not_eq_true', ne_eq, standardNames,
      List.mem_append, List.mem_singleton, hown, false_or, and_assoc, List.contains_eq_mem,
      decide_eq_false_iff_not, ← isPrefixOf_underscore, Bool.not_eq_true]
  rw [extraParts, hfilter]

/-! ## Stamped records -/

section
variable (context : Fields) {r : Record}

/-- Stamping writes dispatch fields only: what no such write changes is as before. -/
theorem stamped_induction {P : Fields → Prop} (hr : P r.attributes)
    (hinsert : ∀ attributes, P attributes → ∀ name ∈ dispatchFields, ∀ v,
      P (OrderedMap.insert attributes name v)) : P (r.stamped context).attributes :=
  List.foldlRecOn dispatchFields _ hr fun attributes h name hname => hinsert attributes h name hname _

theorem extras_stamped (r : Record) : extras (r.stamped context).attributes = extras r.attributes := by
  refine stamped_induction (P := fun attributes => extras attributes = extras r.attributes) context rfl ?_
  intro attributes h name hname v
  exact (OrderedMap.filter_insert (fun _ => by simp [hname]) attributes v).trans h

theorem clash?_eq_none_iff {attributes : Fields} :
    clash? attributes = none ↔ ∀ name ∈ keys attributes, name ∉ ownNames := by
  unfold clash?
  simp

/-- A stamp is a value that the context binds, or else one that the record brings along, and never nothing;
or else it is the mark of a missing one. -/
theorem stampOf_cases (attributes : Fields) (name : String) :
    find? context name = some (stampOf context attributes name) ∧ stampOf context attributes name ≠ .none ∨
      find? attributes name = some (stampOf context attributes name) ∧
        stampOf context attributes name ≠ .none ∨
      stampOf context attributes name = .text missingMark := by
  unfold stampOf
  cases hv : attribute? context name with
  | some v => exact .inl (find?_of_attribute? hv)
  | none =>
    cases hu : attribute? attributes name with
    | some u => exact .inr (.inl (find?_of_attribute? hu))
    | none => exact .inr (.inr rfl)

/-- A stamp is never nothing. -/
theorem stampOf_ne_none (attributes : Fields) (name : String) : stampOf context attributes name ≠ .none := by
  rcases stampOf_cases context attributes name with ⟨-, hne⟩ | ⟨-, hne⟩ | hmark
  · exact hne
  · exact hne
  · rw [hmark]
    nofun

/-- A record that is stamped from a context tells what JSON can hold, if the context does. -/
theorem Exact.stamped (h : r.Exact) (hcontext : ∀ b ∈ context, b.1 ∈ dispatchFields → b.2.Exact) :
    (r.stamped context).Exact := by
  have hnodup : (keys (r.stamped context).attributes).Nodup :=
    stamped_induction (P := fun attributes => (keys attributes).Nodup) context h.nodup
      fun _ hkeys name _ v => OrderedMap.nodup_keys_insert hkeys name v
  refine ⟨hnodup, ?_, ?_, ?_⟩
  · have hown : ∀ name ∈ dispatchFields, name ∉ ownNames := by decide
    refine stamped_induction (P := fun attributes => clash? attributes = none) context h.unclashed ?_
    intro attributes hclash name hname v
    rw [clash?_eq_none_iff] at hclash ⊢
    intro key hkey
    rcases OrderedMap.mem_keys_insert.mp hkey with hold | rfl
    · exact hclash key hold
    · exact hown key hname
  · -- what a dispatch field of the stamped record holds is its stamp
    rintro ⟨name, v⟩ hb hname
    have hfind := OrderedMap.find?_of_mem hnodup hb
    rw [find?_stamped context r hname] at hfind
    obtain rfl : stampOf context r.attributes name = v := Option.some.inj hfind
    rcases stampOf_cases context r.attributes name with ⟨hbound, -⟩ | ⟨hown, -⟩ | hmark
    · exact hcontext _ (OrderedMap.mem_of_find? hbound) hname
    · exact h.dispatch _ (OrderedMap.mem_of_find? hown) hname
    · rw [hmark]
      exact .text missingMark
  · rw [extras_stamped]
    exact h.extra

end

/-! ## The object on a line -/

/-- The keys of the object on a line, in order. -/
def lineKeys : List String :=
  ["timestamp", "level", "logger", "message"] ++ dispatchFields ++ ["extra"] ++ ["exception"]

/-- The first bindings of a line: those that every line has. -/
def headBindings (r : Record) (stamp message : String) : List (String × Json) :=
  [("timestamp", .text stamp), ("level", .text (levelName r.level)), ("logger", .text r.logger),
    ("message", .text message)]

/-- The binding of the extra fields, if there are any. -/
def extraBinding (r : Record) : List (String × Json) :=
  if (extraParts r.attributes).isEmpty then [] else [("extra", .object (extraParts r.attributes))]

/-- The binding of the exception, if there is one. -/
def exceptionBinding (r : Record) : List (String × Json) :=
  match r.exceptionText? with
  | some s => [("exception", .text s)]
  | none => []

/-- The bindings of the object on the line of a record, with its time and its message as text. -/
def lineBindings (r : Record) (stamp message : String) : List (String × Json) :=
  headBindings r stamp message ++ dispatchParts r.attributes ++ extraBinding r ++ exceptionBinding r

/-- A record has a line as soon as its moment can be written as a date and its message can be filled in. -/
theorem jsonLine_ok_iff {r : Record} {line : String} :
    r.jsonLine = .ok line ↔
      ∃ stamp message, r.created.stamp = .ok stamp ∧ messageText r.message r.args = .ok message ∧
        String.ofList (Json.object (lineBindings r stamp message)).write = line := by
  unfold jsonLine parts
  constructor
  · intro h
    cases hstamp : r.created.stamp with
    | error f => rw [hstamp] at h; cases h
    | ok stamp =>
      cases hmessage : messageText r.message r.args with
      | error f => rw [hstamp, hmessage] at h; cases h
      | ok message =>
        rw [hstamp, hmessage] at h
        exact ⟨stamp, message, rfl, rfl, Except.ok.inj h⟩
  · rintro ⟨stamp, message, hstamp, hmessage, rfl⟩
    rw [hstamp, hmessage]
    rfl

/-! ## Its keys -/

/-- The value of a dispatch field that is written. -/
def written? (attributes : Fields) (name : String) : Option Value := (find? attributes name).filter isSet

theorem written?_eq_some_iff {attributes : Fields} {name : String} {v : Value} :
    written? attributes name = some v ↔
      find? attributes name = some v ∧ v ≠ .none ∧ v ≠ .text missingMark := by
  rw [written?, Option.filter_eq_some_iff, isSet_iff]

/-- The dispatch fields of a line are those that are written, in their order. -/
theorem dispatchParts_eq (attributes : Fields) :
    dispatchParts attributes = dispatchFields.filterMap fun name =>
      ((written? attributes name).map toJson).map (name, ·) := by
  refine List.filterMap_congr fun name _ => ?_
  unfold written?
  cases find? attributes name with
  | none => rfl
  | some v => by_cases hv : isSet v = true <;> simp [Option.filter, hv]

/-- Each dispatch field is written at most once, in the order of all of them. -/
theorem keys_dispatchParts (attributes : Fields) : (keys (dispatchParts attributes)).Sublist dispatchFields := by
  rw [dispatchParts_eq]
  exact OrderedMap.keys_filterMap_sublist _ dispatchFields

/-- The extra fields come under one key, or not at all. -/
theorem keys_extraBinding (r : Record) : (keys (extraBinding r)).Sublist ["extra"] := by
  unfold extraBinding
  split
  · exact List.nil_sublist _
  · exact List.Sublist.refl _

/-- So does the exception. -/
theorem keys_exceptionBinding (r : Record) : (keys (exceptionBinding r)).Sublist ["exception"] := by
  unfold exceptionBinding
  split
  · exact List.Sublist.refl _
  · exact List.nil_sublist _

theorem keys_headBindings (r : Record) (stamp message : String) :
    keys (headBindings r stamp message) = ["timestamp", "level", "logger", "message"] := rfl

/-- **The keys come in a fixed order, each at most once.** -/
theorem keys_lineBindings (r : Record) (stamp message : String) :
    (keys (lineBindings r stamp message)).Sublist lineKeys := by
  have hhead := List.Sublist.refl (keys (headBindings r stamp message))
  have hkeys := ((hhead.append (keys_dispatchParts r.attributes)).append (keys_extraBinding r)).append
    (keys_exceptionBinding r)
  unfold keys at hkeys
  rwa [← List.map_append, ← List.map_append, ← List.map_append] at hkeys

theorem nodup_lineKeys : lineKeys.Nodup := by decide

theorem nodup_keys_lineBindings (r : Record) (stamp message : String) :
    (keys (lineBindings r stamp message)).Nodup :=
  nodup_lineKeys.sublist (keys_lineBindings r stamp message)

/-! ## What the object holds -/

section
variable (r : Record) (stamp message : String)

/-- A key is looked up in one part of the line after the other. -/
theorem find?_lineBindings (key : String) :
    find? (lineBindings r stamp message) key =
      (((find? (headBindings r stamp message) key).or (find? (dispatchParts r.attributes) key)).or
        (find? (extraBinding r) key)).or (find? (exceptionBinding r) key) := by
  unfold lineBindings
  rw [OrderedMap.find?_append, OrderedMap.find?_append, OrderedMap.find?_append]

theorem find?_head {key : String} {j : Json} (h : find? (headBindings r stamp message) key = some j) :
    find? (lineBindings r stamp message) key = some j := by
  rw [find?_lineBindings, h]
  rfl

/-- A dispatch field is found if it is written. -/
theorem find?_dispatch {name : String} (h : name ∈ dispatchFields) :
    find? (lineBindings r stamp message) name = (written? r.attributes name).map toJson := by
  have hother : ∀ name ∈ dispatchFields,
      name ∉ ["timestamp", "level", "logger", "message"] ∧ name ∉ ["extra"] ∧ name ∉ ["exception"] := by
    decide
  obtain ⟨hhead, hextra, hexception⟩ := hother name h
  rw [find?_lineBindings, OrderedMap.find?_eq_none (keys_headBindings r stamp message ▸ hhead),
    OrderedMap.find?_eq_none_of_sublist (keys_extraBinding r) hextra,
    OrderedMap.find?_eq_none_of_sublist (keys_exceptionBinding r) hexception, dispatchParts_eq,
    OrderedMap.find?_filterMap, if_pos h, Option.or_none, Option.or_none, Option.none_or]

/-- The extra fields are found unless there are none. -/
theorem find?_extra :
    find? (lineBindings r stamp message) "extra" =
      if (extraParts r.attributes).isEmpty then none else some (.object (extraParts r.attributes)) := by
  have hdispatch : "extra" ∉ dispatchFields := by decide
  have hexception : "extra" ∉ ["exception"] := by decide
  rw [find?_lineBindings, OrderedMap.find?_eq_none_of_sublist (keys_dispatchParts r.attributes) hdispatch,
    OrderedMap.find?_eq_none_of_sublist (keys_exceptionBinding r) hexception, extraBinding]
  split <;> rfl

/-- The exception is found if there is one. -/
theorem find?_exception :
    find? (lineBindings r stamp message) "exception" = r.exceptionText?.map .text := by
  have hdispatch : "exception" ∉ dispatchFields := by decide
  have hextra : "exception" ∉ ["extra"] := by decide
  rw [find?_lineBindings, OrderedMap.find?_eq_none_of_sublist (keys_dispatchParts r.attributes) hdispatch,
    OrderedMap.find?_eq_none_of_sublist (keys_extraBinding r) hextra, exceptionBinding]
  cases r.exceptionText? <;> rfl

end

/-! ## What the object tells -/

/-- What an object with text for keys tells of a record: no more than the keys of a line, and under them the
core of the record, the dispatch fields that are set, the extra fields if there are any, and the text of the
exception if there is one. -/
structure Tells (r : Record) (o : Fields) : Prop where
  keys_sublist : (keys o).Sublist lineKeys
  timestamp : ∃ s, r.created.stamp = .ok s ∧ find? o "timestamp" = some (.text s)
  level : find? o "level" = some (.text (levelName r.level))
  logger : find? o "logger" = some (.text r.logger)
  message : ∃ s, messageText r.message r.args = .ok s ∧ find? o "message" = some (.text s)
  dispatch : ∀ name ∈ dispatchFields, ∀ v, find? o name = some v ↔
    ∃ u, find? r.attributes name = some u ∧ u ≠ .none ∧ u ≠ .text missingMark ∧ u.shown = v
  extra : find? o "extra" =
    if (extras r.attributes).isEmpty then none
    else some (.ofFields ((extras r.attributes).map fun b => (b.1, b.2.shown)))
  exception : find? o "exception" = r.exceptionText?.map .text

/-- JSON can hold the dispatch fields. -/
theorem exact_dispatchParts {r : Record} (h : r.Exact) : ∀ b ∈ dispatchParts r.attributes, b.2.Exact := by
  rintro ⟨key, j⟩ hb
  rw [dispatchParts_eq] at hb
  obtain ⟨name, hname, hpart⟩ := List.mem_filterMap.mp hb
  rw [Option.map_map] at hpart
  obtain ⟨v, hv, hkey⟩ := Option.map_eq_some_iff.mp hpart
  cases hkey
  have hmem := OrderedMap.mem_of_find? (written?_eq_some_iff.mp hv).1
  exact exact_toJson (h.dispatch _ hmem hname)

/-- JSON can hold the extra fields, whose names are different. -/
theorem exact_extraParts {r : Record} (h : r.Exact) : (Json.object (extraParts r.attributes)).Exact := by
  rw [extraParts_eq h.unclashed]
  have hsublist : (extras r.attributes).Sublist r.attributes := List.filter_sublist
  refine .object ?_ (List.forall_mem_map.mpr fun b hb => exact_toJson (h.extra b hb))
  rw [List.map_map]
  exact h.nodup.sublist (hsublist.map _)

/-- JSON can hold the object on a line. -/
theorem exact_lineBindings {r : Record} (h : r.Exact) (stamp message : String) :
    (Json.object (lineBindings r stamp message)).Exact := by
  refine .object (nodup_keys_lineBindings r stamp message) ?_
  have hhead : ∀ b ∈ headBindings r stamp message, b.2.Exact := by simp [headBindings, Json.Exact.text]
  have hextra : ∀ b ∈ extraBinding r, b.2.Exact := by
    unfold extraBinding
    split
    · nofun
    · exact List.forall_mem_singleton.mpr (exact_extraParts h)
  have hexception : ∀ b ∈ exceptionBinding r, b.2.Exact := by
    unfold exceptionBinding
    split
    · exact List.forall_mem_singleton.mpr (.text _)
    · nofun
  exact List.forall_mem_append.mpr ⟨List.forall_mem_append.mpr
    ⟨List.forall_mem_append.mpr ⟨hhead, exact_dispatchParts h⟩, hextra⟩, hexception⟩

/-- The object on a line tells of the record, when it is read as a dictionary. -/
theorem tells_lineBindings {r : Record} (h : r.Exact) {stamp message : String}
    (hstamp : r.created.stamp = .ok stamp) (hmessage : messageText r.message r.args = .ok message) :
    r.Tells ((lineBindings r stamp message).map fun b => (b.1, b.2.value)) where
  keys_sublist := by
    have hkeys := keys_lineBindings r stamp message
    unfold keys at hkeys ⊢
    rwa [List.map_map]
  timestamp := ⟨stamp, hstamp, by rw [OrderedMap.find?_map, find?_head r stamp message rfl]; rfl⟩
  level := by rw [OrderedMap.find?_map, find?_head r stamp message rfl]; rfl
  logger := by rw [OrderedMap.find?_map, find?_head r stamp message rfl]; rfl
  message := ⟨message, hmessage, by rw [OrderedMap.find?_map, find?_head r stamp message rfl]; rfl⟩
  dispatch := by
    intro name hname v
    -- what is written is read back as it is shown
    have hshown : ∀ u, find? r.attributes name = some u → (toJson u).value = u.shown := fun u hu =>
      value_toJson (h.dispatch _ (OrderedMap.mem_of_find? hu) hname)
    rw [OrderedMap.find?_map, find?_dispatch r stamp message hname, Option.map_map]
    constructor
    · intro hv
      obtain ⟨u, hu, rfl⟩ := Option.map_eq_some_iff.mp hv
      obtain ⟨hfind, hnone, hmark⟩ := written?_eq_some_iff.mp hu
      exact ⟨u, hfind, hnone, hmark, (hshown u hfind).symm⟩
    · rintro ⟨u, hfind, hnone, hmark, rfl⟩
      rw [written?_eq_some_iff.mpr ⟨hfind, hnone, hmark⟩]
      exact congrArg some (hshown u hfind)
  extra := by
    have hshown : ∀ b ∈ extras r.attributes, (b.1, (toJson b.2).value) = (b.1, b.2.shown) := fun b hb =>
      congrArg (Prod.mk b.1) (value_toJson (h.extra b hb))
    rw [OrderedMap.find?_map, find?_extra, extraParts_eq h.unclashed, List.isEmpty_map]
    split
    · rfl
    · rw [Option.map_some, Json.value_object, List.map_map]
      exact congrArg (fun fields => some (Value.ofFields fields)) (List.map_congr_left hshown)
  exception := by
    rw [OrderedMap.find?_map, find?_exception]
    cases r.exceptionText? <;> rfl

/-- Of a stamped record, a dispatch field is told as the context has it, or else as the record itself, unless
both leave it missing. -/
theorem Tells.find?_stamped {r : Record} {context o : Fields} (h : (r.stamped context).Tells o) {name : String}
    (hname : name ∈ dispatchFields) (v : Value) :
    find? o name = some v ↔
      stampOf context r.attributes name ≠ .text missingMark ∧ (stampOf context r.attributes name).shown = v := by
  have hfind := Record.find?_stamped context r hname
  rw [h.dispatch name hname v]
  constructor
  · rintro ⟨u, hu, -, hmark, hv⟩
    obtain rfl : stampOf context r.attributes name = u := Option.some.inj (hfind.symm.trans hu)
    exact ⟨hmark, hv⟩
  · rintro ⟨hmark, hv⟩
    exact ⟨_, hfind, stampOf_ne_none context r.attributes name, hmark, hv⟩

/-- **A line of JSON decodes to its record.** The line has no control characters, so that it is a single
line, and it spells one object, without a key that is repeated in it or in any object inside. Read as JSON, it
gives this object, which tells the record: level, logger and message; each dispatch field that is set, with
its value; under `extra` the extra fields in order, each with its value, if there are any; and the text of the
exception, if there is one. Bytes and events are told as the text that shows them. -/
theorem json_line_decodes {r : Record} (h : r.Exact) {line : String} (hline : r.jsonLine = .ok line) :
    Json.Printed line.toList ∧ ∃ j o, Json.Spells j line.toList ∧ Json.read? line.toList = some j ∧
      j.value = .ofFields o ∧ (keys o).Nodup ∧ r.Tells o := by
  obtain ⟨stamp, message, hstamp, hmessage, rfl⟩ := jsonLine_ok_iff.mp hline
  have hexact := exact_lineBindings h stamp message
  have hspells := Json.spells_write hexact
  have htells := tells_lineBindings h hstamp hmessage
  rw [String.toList_ofList]
  exact ⟨Json.printed_write hexact, .object (lineBindings r stamp message), _, hspells,
    Json.read?_of_spells hspells, Json.value_object _, nodup_lineKeys.sublist htells.keys_sublist, htells⟩

/-- A record of a sale: extra fields of several kinds, private and standard attributes that hold what JSON
cannot, a dispatch field that is nothing and one that is marked as missing. -/
def saleRecord : Record where
  logger := "app.shop"
  level := 45
  message := .text "sold 100% \"caf\u00e9\" to\n\\me"
  attributes := [("order", .ofFields [("items", .list [.bool true, .int (-10), .none])]),
    ("_token", .float .nan), ("component", .none), ("taskName", .float .nan),
    ("raw", .bytes [0, 34]), ("seen", .event ⟨"sale", "sa*"⟩), ("pattern", .text "-")]
  fault? := some (.throw .valueError [.text "tab\there"])
  created := .whole 1700000000

/-- The log context in which the sale is recorded. -/
def saleContext : Fields :=
  [("correlation_id", .text "c\u2028d"), ("payload", .float .nan), ("event_name", .event ⟨"sale", "*"⟩)]

/-- JSON can hold what the sale tells: what it cannot hold is private, or standard. -/
theorem saleRecord_exact : saleRecord.Exact where
  nodup := by decide
  unclashed := by decide
  dispatch := by
    have hfields : saleRecord.attributes.filter (fun b => b.1 ∈ dispatchFields) =
        [("component", .none), ("pattern", .text "-")] := rfl
    intro b hb hname
    have hmem : b ∈ saleRecord.attributes.filter fun b => b.1 ∈ dispatchFields :=
      List.mem_filter.mpr ⟨hb, decide_eq_true hname⟩
    rw [hfields] at hmem
    rcases List.mem_cons.mp hmem with rfl | hmem
    · exact .none
    · rcases List.mem_singleton.mp hmem with rfl
      exact .text "-"
  extra := by
    -- the other attributes are left out, whatever they hold
    have hextras : extras saleRecord.attributes =
        [("order", .ofFields [("items", .list [.bool true, .int (-10), .none])]),
          ("raw", .bytes [0, 34]), ("seen", .event ⟨"sale", "sa*"⟩)] := rfl
    have hitems : (Value.list [.bool true, .int (-10), .none]).Exact :=
      .list (by simp [Value.Exact.bool, Value.Exact.int, Value.Exact.none])
    have horder : (Value.ofFields [("items", .list [.bool true, .int (-10), .none])]).Exact :=
      .dict (by decide) (List.forall_mem_singleton.mpr hitems)
    rw [hextras]
    simp [horder, Value.Exact.bytes, Value.Exact.event]

/-- The line of the sale tells three extra fields, and nothing of the dispatch fields that are not set. -/
theorem json_line_decodes_sale :
    (saleRecord.stamped saleContext).Exact ∧ ∃ line, (saleRecord.stamped saleContext).jsonLine = .ok line ∧
      Json.Printed line.toList ∧ ∃ j o, Json.Spells j line.toList ∧ Json.read? line.toList = some j ∧
        j.value = .ofFields o ∧ (keys o).Nodup ∧ (saleRecord.stamped saleContext).Tells o ∧
        find? o "message" = some (.text "sold 100% \"caf\u00e9\" to\n\\me") ∧
        find? o "correlation_id" = some (.text "c\u2028d") ∧ find? o "event_name" = some (.text "sale") ∧
        find? o "component" = none ∧ find? o "pattern" = none ∧
        find? o "extra" = some (.ofFields
          [("order", .ofFields [("items", .list [.bool true, .int (-10), .none])]),
            ("raw", .text "b'\\x00\"'"), ("seen", .text "sale")]) ∧
        find? o "exception" = some (.text "ValueError: tab\there") := by
  have hcontext : ∀ b ∈ saleContext, b.1 ∈ dispatchFields → b.2.Exact := by
    have hpayload : "payload" ∉ dispatchFields := by decide
    simp [saleContext, hpayload, Value.Exact.text, Value.Exact.event]
  have hexact := saleRecord_exact.stamped saleContext hcontext
  have hstamp : (saleRecord.stamped saleContext).created.stamp = .ok "2023-11-14T22:13:20+00:00" := rfl
  have hmessage : messageText (saleRecord.stamped saleContext).message (saleRecord.stamped saleContext).args =
      .ok "sold 100% \"caf\u00e9\" to\n\\me" := rfl
  have hline := jsonLine_ok_iff.mpr ⟨_, _, hstamp, hmessage, rfl⟩
  obtain ⟨hprinted, j, o, hspells, hread, hvalue, hkeys, htells⟩ := json_line_decodes hexact hline
  -- a field that neither context nor record sets is marked as missing and not written
  have hmissing : ∀ name ∈ dispatchFields,
      Record.stampOf saleContext saleRecord.attributes name = .text missingMark → find? o name = none := by
    intro name hname hmark
    refine Option.eq_none_iff_forall_ne_some.mpr fun v hv => ?_
    exact ((htells.find?_stamped hname v).mp hv).1 hmark
  refine ⟨hexact, _, hline, hprinted, j, o, hspells, hread, hvalue, hkeys, htells, ?_, ?_, ?_, ?_, ?_, ?_, ?_⟩
  · obtain ⟨s, hs, hfind⟩ := htells.message
    rwa [Except.ok.inj (hs.symm.trans hmessage)] at hfind
  · have hset : "c\u2028d" ≠ missingMark := by decide
    exact (htells.find?_stamped (by decide) _).mpr ⟨fun h => hset (Value.text.inj h), rfl⟩
  · exact (htells.find?_stamped (by decide) _).mpr ⟨nofun, rfl⟩
  · exact hmissing "component" (by decide) rfl
  · exact hmissing "pattern" (by decide) rfl
  · exact htells.extra.trans rfl
  · exact htells.exception.trans rfl

end Log.Record

end EventHub
