import EventHub.Log.Record
import EventHub.Proofs.Json.Grammar

/-! # Values as JSON and back

Values that hold no floating-point numbers, and dictionaries with text for keys only, have a form in JSON
from which they are read back. Bytes, events and foreign objects have no form of their own there: they come
back as the text that shows them.

Main statement: `value_toJson`.
-/

namespace EventHub

open OrderedMap (keys)

/-! ## JSON as values -/

mutual

/-- The value that JSON data stands for: objects are dictionaries with text for keys. -/
def Json.value : Json → Value
  | .null => .none
  | .bool b => .bool b
  | .int i => .int i
  | .real x => .float x
  | .text s => .text s
  | .array items => .list (Json.itemValues items)
  | .object bindings => .dict (Json.bindingValues bindings)

/-- The values of the items of an array. -/
def Json.itemValues : List Json → List Value
  | [] => []
  | j :: js => Json.value j :: Json.itemValues js

/-- The bindings of an object as those of a dictionary. -/
def Json.bindingValues : List (String × Json) → List (Value × Value)
  | [] => []
  | (k, j) :: rest => (.text k, Json.value j) :: Json.bindingValues rest

end

/-- An array stands for the list of the values of its items. -/
theorem Json.value_array (items : List Json) : (Json.array items).value = .list (items.map Json.value) := by
  have hitems : Json.itemValues items = items.map Json.value := by
    induction items with
    | nil => rfl
    | cons j js ih => rw [Json.itemValues, ih, List.map_cons]
  rw [Json.value, hitems]

/-- An object stands for a dictionary with text for keys. -/
theorem Json.value_object (bindings : List (String × Json)) :
    (Json.object bindings).value = .ofFields (bindings.map fun b => (b.1, b.2.value)) := by
  have hbindings : Json.bindingValues bindings = bindings.map fun b => (.text b.1, b.2.value) := by
    induction bindings with
    | nil => rfl
    | cons b rest ih => rw [Json.bindingValues, ih, List.map_cons]
  rw [Json.value, hbindings, Value.ofFields, List.map_map]
  rfl

/-! ## Values that JSON can hold -/

namespace Value

/-- Values without floating-point numbers, whose dictionaries have text for keys and each key once. -/
inductive Exact : Value → Prop
  | none : Exact .none
  | bool (b : Bool) : Exact (.bool b)
  | int (i : Int) : Exact (.int i)
  | text (s : String) : Exact (.text s)
  | bytes (bs : List UInt8) : Exact (.bytes bs)
  | event (e : Event) : Exact (.event e)
  | foreign (x : Foreign) : Exact (.foreign x)
  | list {items : List Value} (h : ∀ v ∈ items, Exact v) : Exact (.list items)
  | dict {fields : Fields} (hkeys : (keys fields).Nodup) (h : ∀ b ∈ fields, Exact b.2) :
      Exact (.ofFields fields)

mutual

/-- A value with all bytes, events and foreign objects in it shown as text, in their plain form. -/
def shown : Value → Value
  | .bytes bs => .text (Value.bytes bs).plain
  | .event e => .text (Value.event e).plain
  | .foreign x => .text (Value.foreign x).plain
  | .list items => .list (shownItems items)
  | .dict bindings => .dict (shownBindings bindings)
  | v => v

/-- The items of a list, shown. -/
def shownItems : List Value → List Value
  | [] => []
  | v :: vs => shown v :: shownItems vs

/-- The bindings of a dictionary with their values shown. -/
def shownBindings : List (Value × Value) → List (Value × Value)
  | [] => []
  | (k, v) :: rest => (k, shown v) :: shownBindings rest

end

/-- The items of a list are shown one by one. -/
theorem shown_list (items : List Value) : (Value.list items).shown = .list (items.map shown) := by
  have hitems : shownItems items = items.map shown := by
    induction items with
    | nil => rfl
    | cons v vs ih => rw [shownItems, ih, List.map_cons]
  rw [shown, hitems]

/-- The values of a dictionary with text for keys are shown one by one. -/
theorem shown_ofFields (fields : Fields) :
    (ofFields fields).shown = .ofFields (fields.map fun b => (b.1, b.2.shown)) := by
  have hfields : shownBindings (fields.map fun b => (.text b.1, b.2)) =
      fields.map fun b => (.text b.1, b.2.shown) := by
    induction fields with
    | nil => rfl
    | cons b rest ih => rw [List.map_cons, shownBindings, ih, List.map_cons]
  rw [ofFields, ofFields, shown, List.map_map]
  exact congrArg Value.dict hfields

end Value

/-! ## There and back -/

namespace Log.Record

/-- A list is written item by item. -/
theorem toJson_list (items : List Value) : toJson (.list items) = .array (items.map toJson) := by
  have hitems : toJsonItems items = items.map toJson := by
    induction items with
    | nil => rfl
    | cons v vs ih => rw [toJsonItems, ih, List.map_cons]
  rw [toJson, hitems]

/-- A dictionary with text for keys is written as an object with these keys, in the same order. -/
theorem toJson_ofFields (fields : Fields) :
    toJson (.ofFields fields) = .object (fields.map fun b => (b.1, toJson b.2)) := by
  have hfields : toJsonBindings (fields.map fun b => (.text b.1, b.2)) =
      fields.map fun b => (b.1, toJson b.2) := by
    induction fields with
    | nil => rfl
    | cons b rest ih => rw [List.map_cons, toJsonBindings, ih, List.map_cons]; rfl
  exact congrArg Json.object hfields

/-- What a value is written as has no floating-point numbers and no key twice, if the value has none. -/
theorem exact_toJson {v : Value} (h : v.Exact) : (toJson v).Exact := by
  induction h with
  | none => exact .null
  | bool b => exact .bool b
  | int i => exact .int i
  | text s => exact .text s
  | bytes bs => exact .text _
  | event e => exact .text _
  | foreign x => exact .text _
  | list _ ih =>
    rw [toJson_list]
    exact .array (List.forall_mem_map.mpr ih)
  | @dict fields hkeys _ ih =>
    rw [toJson_ofFields]
    refine .object ?_ (List.forall_mem_map.mpr ih)
    rwa [List.map_map]

/-- **A value written as JSON is read back, with its bytes, events and foreign objects shown as text.** -/
theorem value_toJson {v : Value} (h : v.Exact) : (toJson v).value = v.shown := by
  induction h with
  | none => rfl
  | bool b => rfl
  | int i => rfl
  | text s => rfl
  | bytes bs => rfl
  | event e => rfl
  | foreign x => rfl
  | list _ ih =>
    rw [toJson_list, Json.value_array, List.map_map, Value.shown_list]
    exact congrArg Value.list (List.map_congr_left ih)
  | dict _ _ ih =>
    rw [toJson_ofFields, Json.value_object, List.map_map, Value.shown_ofFields]
    exact congrArg Value.ofFields (List.map_congr_left fun b hb => congrArg (Prod.mk b.1) (ih b hb))

end Log.Record

end EventHub
