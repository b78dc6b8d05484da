import EventHub.Yaml.Scalar
import EventHub.Yaml.Token

/-! # Reading YAML

The reader of settings files that the standard services have. It knows the part of YAML that such files
are usually written in: a text holds at most one document, made of block and flow collections with plain
and quoted scalars. A key is written once; of equal keys the last value stays, in the place of the first.
The readers take a list of tokens and return a value with the tokens behind it. Each call takes one unit
from a supply of steps that the number of tokens bounds.
-/

namespace EventHub.Yaml

/-- What a reader returns: a value and the tokens behind it. -/
abbrev Reading := Option (Value × List Token)

/-- Binds a key in a mapping; a collection cannot be a key. -/
def bindKey? (bindings : List (Value × Value)) (k v : Value) : Option (List (Value × Value)) :=
  if !k.isKey then none
  else if bindings.any fun b => b.1.sameKey k then
    some (bindings.map fun b => if b.1.sameKey k then (b.1, v) else b)
  else some (bindings ++ [(k, v)])

/-- Whether a block value is left out before the tokens that follow. -/
def leftOut : List Token → Bool
  | [] => true
  | t :: _ => t == .key || t == .value || t == .blockEnd || t == .documentStart || t == .documentEnd

/-- Whether a value in a flow collection is left out before the tokens that follow. -/
def leftOutInFlow (closing : Token) : List Token → Bool
  | [] => true
  | t :: _ => t == .comma || t == closing

mutual

/-- A node; a sequence without indentation only where a key or its value may be one. -/
def readNode (indentless : Bool) : Nat → List Token → Reading
  | 0, _ => none
  | fuel + 1, ts =>
    match ts with
    | .plain s :: rest => some (ofPlain s, rest)
    | .quoted s :: rest => some (.text (String.ofList s), rest)
    | .flowSequence :: rest => readFlowItems true [] fuel rest
    | .flowMapping :: rest => readFlowBindings true [] fuel rest
    | .blockSequence :: rest => readEntries true [] fuel rest
    | .blockMapping :: rest => readBindings [] fuel rest
    | .entry :: _ => if indentless then readEntries false [] fuel ts else none
    | _ => none

/-- The entries of a sequence; one with indentation has an end. -/
def readEntries (indented : Bool) (items : List Value) : Nat → List Token → Reading
  | 0, _ => none
  | fuel + 1, ts =>
    match ts with
    | .entry :: rest =>
      if rest.head? = some .entry || leftOut rest then
        readEntries indented (items ++ [.none]) fuel rest
      else
        match readNode false fuel rest with
        | some (v, rest) => readEntries indented (items ++ [v]) fuel rest
        | none => none
    | .blockEnd :: rest => if indented then some (.list items, rest) else some (.list items, ts)
    | _ => if indented then none else some (.list items, ts)

/-- A node where one may be left out, as a key or value of a mapping. -/
def readPart : Nat → List Token → Reading
  | 0, _ => none
  | fuel + 1, ts => if leftOut ts then some (.none, ts) else readNode true fuel ts

/-- The bindings of a block mapping. -/
def readBindings (bindings : List (Value × Value)) : Nat → List Token → Reading
  | 0, _ => none
  | fuel + 1, ts =>
    match ts with
    | .key :: rest =>
      match readPart fuel rest with
      | none => none
      | some (k, .value :: rest) =>
        match readPart fuel rest with
        | none => none
        | some (v, rest) =>
          match bindKey? bindings k v with
          | some bindings => readBindings bindings fuel rest
          | none => none
      | some (k, rest) =>
        match bindKey? bindings k .none with
        | some bindings => readBindings bindings fuel rest
        | none => none
    | .blockEnd :: rest => some (.dict bindings, rest)
    | _ => none

/-- The value behind a key in a flow collection; nothing where it is left out. -/
def readFlowValue (closing : Token) : Nat → List Token → Reading
  | 0, _ => none
  | fuel + 1, ts =>
    match ts with
    | .value :: rest => if leftOutInFlow closing rest then some (.none, rest) else readNode false fuel rest
    | _ => some (.none, ts)

/-- A key with its value in a flow collection, from behind the mark of the key. -/
def readFlowPair (closing : Token) : Nat → List Token → Option ((Value × Value) × List Token)
  | 0, _ => none
  | fuel + 1, ts =>
    let key :=
      if ts.head? = some .value || leftOutInFlow closing ts then some (.none, ts)
      else readNode false fuel ts
    match key with
    | none => none
    | some (k, rest) => (readFlowValue closing fuel rest).map fun (v, rest) => ((k, v), rest)

/-- The items of a flow sequence; a pair is a mapping of its own. -/
def readFlowItems (first : Bool) (items : List Value) : Nat → List Token → Reading
  | 0, _ => none
  | fuel + 1, ts =>
    match ts with
    | .flowSequenceEnd :: rest => some (.list items, rest)
    | _ =>
      let ts := if first then some ts else
        match ts with
        | .comma :: rest => some rest
        | _ => none
      match ts with
      | none => none
      | some (.flowSequenceEnd :: rest) => some (.list items, rest)
      | some (.key :: rest) =>
        match readFlowPair .flowSequenceEnd fuel rest with
        | some ((k, v), rest) =>
          match bindKey? [] k v with
          | some bindings => readFlowItems false (items ++ [.dict bindings]) fuel rest
          | none => none
        | none => none
      | some ts =>
        match readNode false fuel ts with
        | some (v, rest) => readFlowItems false (items ++ [v]) fuel rest
        | none => none

/-- The bindings of a flow mapping; a key may stand alone. -/
def readFlowBindings (first : Bool) (bindings : List (Value × Value)) : Nat → List Token → Reading
  | 0, _ => none
  | fuel + 1, ts =>
    match ts with
    | .flowMappingEnd :: rest => some (.dict bindings, rest)
    | _ =>
      let ts := if first then some ts else
        match ts with
        | .comma :: rest => some rest
        | _ => none
      let pair := match ts with
        | some (.key :: rest) => readFlowPair .flowMappingEnd fuel rest
        | some ts => (readNode false fuel ts).map fun (k, rest) => ((k, Value.none), rest)
        | none => none
      match ts, pair with
      | some (.flowMappingEnd :: rest), _ => some (.dict bindings, rest)
      | _, some ((k, v), rest) =>
        match bindKey? bindings k v with
        | some bindings => readFlowBindings false bindings fuel rest
        | none => none
      | _, none => none

end

/-- The node of a document, which may be empty. -/
def readDocument (ts : List Token) : Reading :=
  if leftOut ts then some (.none, ts) else readNode false (4 * ts.length + 8) ts

/-- The value of a text; none when it is malformed or holds a second document. -/
def read? (text : List Char) : Option Value :=
  match tokens? text with
  | none => none
  | some ts =>
    let document := match ts with
      | .documentStart :: rest => readDocument rest
      | [] => some (.none, [])
      | ts => if leftOut ts then none else readDocument ts
    match document with
    | some (v, rest) => if rest.all (· == .documentEnd) then some v else none
    | none => none

end EventHub.Yaml
