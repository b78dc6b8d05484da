import EventHub.Value

/-! # Flattening nested settings

A nested mapping becomes a flat one whose keys are the paths to its leaves, joined by dots. Where two
paths spell the same key, the later leaf replaces the value and the key keeps its place.
-/

namespace EventHub.Settings

mutual

/-- Enters a value under a key: the leaves of a mapping under longer keys, any other value itself. -/
def flattenValue (key : String) : Value → Fields → Fields
  | .dict inner, flat => OrderedMap.insertAll flat (flattenBindings (key ++ ".") inner [])
  | v, flat => OrderedMap.insert flat key v

/-- Enters the bindings of a mapping one after another, their keys put behind `path`. -/
def flattenBindings (path : String) : List (Value × Value) → Fields → Fields
  | [], flat => flat
  | (k, v) :: rest, flat => flattenBindings path rest (flattenValue (path ++ k.plain) v flat)

end

/-- The flat form of a nested mapping, its keys put behind `path`. -/
def flatten (path : String) (bindings : List (Value × Value)) : Fields :=
  flattenBindings path bindings []

mutual

/-- Whether the keys of a mapping, and of the mappings in it, can be written as parts of dotted keys. -/
def keysFit : Value → Bool
  | .dict inner => bindingKeysFit inner
  | _ => true

/-- Whether the keys of bindings, and of the mappings bound, can be written. -/
def bindingKeysFit : List (Value × Value) → Bool
  | [] => true
  | (k, v) :: rest => k.fits && keysFit v && bindingKeysFit rest

end

end EventHub.Settings
