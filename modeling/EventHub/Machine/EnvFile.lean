import EventHub.OrderedMap
import EventHub.Text.Blank

/-! # Files of environment variables

The reader of these files that the standard services have. Such a file holds lines `KEY=VALUE`, with an
optional `export` in front, comments and blank lines. A value may be quoted, in which case it may go over
several lines and holds escapes; behind an unquoted one a comment may follow. References `${NAME}` and
`${NAME:-default}` are replaced by the value of a variable. A line that cannot be read is passed over.
-/

namespace EventHub.EnvFile

/-! ## Parts of a line -/

/-- Whether a character is white space within a line. -/
def isInlineBlank (c : Char) : Bool := Text.isBlank c && c != '\n' && c != '\r'

/-- Whether a character ends a line. -/
def isLineEnd (c : Char) : Bool := c == '\n' || c == '\r'

/-- A text without the word `export` and the white space behind it. -/
def dropExport (cs : List Char) : List Char :=
  if "export".toList.isPrefixOf cs then
    let rest := cs.drop 6
    let blanks := rest.takeWhile isInlineBlank
    if blanks.isEmpty then cs else rest.drop blanks.length
  else cs

/-- The content of a quoted part from behind its opening quote, and the text behind it. A backslash
keeps the quote that follows it from closing, unless none closes later. -/
def readQuoted? (quote : Char) : List Char → Option (List Char × List Char)
  | [] => none
  | c :: rest =>
    if c = quote then some ([], rest)
    else if c = '\\' then
      match rest with
      | q :: more =>
        if q = quote then
          match readQuoted? quote more with
          | some (xs, after) => some (c :: q :: xs, after)
          | none => some ([c], more)
        else (readQuoted? quote (q :: more)).map fun (xs, after) => (c :: xs, after)
      | [] => none
    else (readQuoted? quote rest).map fun (xs, after) => (c :: xs, after)

/-- The character of an escape in a double-quoted value. -/
def doubleEscape? (c : Char) : Option Char :=
  [('\\', 92), (Char.ofNat 39, 39), (Char.ofNat 34, 34), ('a', 7), ('b', 8), ('f', 12), ('n', 10),
    ('r', 13), ('t', 9), ('v', 11)].lookup c |>.map Char.ofNat

/-- The character of an escape in a single-quoted value. -/
def singleEscape? (c : Char) : Option Char :=
  if c = '\\' ∨ c = Char.ofNat 39 then some c else none

/-- A value with its escapes replaced. -/
def unescape (escape? : Char → Option Char) : List Char → List Char
  | [] => []
  | '\\' :: c :: rest =>
    match escape? c with
    | some x => x :: unescape escape? rest
    | none => '\\' :: unescape escape? (c :: rest)
  | c :: rest => c :: unescape escape? rest

/-- An unquoted value up to a comment, which white space separates from it. -/
def cutComment : List Char → List Char
  | [] => []
  | c :: rest =>
    if Text.isBlank c && (rest.dropWhile Text.isBlank).head? = some '#' then []
    else c :: cutComment rest

/-- The key at the start of a line, and the text behind it; a comment has none. -/
def readKey? (cs : List Char) : Option (Option (List Char) × List Char) :=
  match cs with
  | '#' :: _ => some (none, cs)
  | c :: rest =>
    if c = Char.ofNat 39 then
      let key := rest.takeWhile (· != c)
      match rest.drop key.length with
      | _ :: after => if key.isEmpty then none else some (some key, after)
      | [] => none
    else
      let key := cs.takeWhile fun c => c != '=' && c != '#' && !Text.isBlank c
      if key.isEmpty then none else some (some key, cs.drop key.length)
  | [] => none

/-- The value at the start of a text, and the text behind it. -/
def readValue? (cs : List Char) : Option (List Char × List Char) :=
  match cs with
  | [] => some ([], [])
  | c :: rest =>
    if c = Char.ofNat 39 then
      (readQuoted? c rest).map fun (v, after) => (unescape singleEscape? v, after)
    else if c = Char.ofNat 34 then
      (readQuoted? c rest).map fun (v, after) => (unescape doubleEscape? v, after)
    else
      let line := cs.takeWhile (!isLineEnd ·)
      some (Text.trimEnd (cutComment line), cs.drop line.length)

/-- The text behind the end of a line, which white space and a comment may precede. -/
def endLine? (cs : List Char) : Option (List Char) :=
  let cs := match cs.dropWhile isInlineBlank with
    | '#' :: rest => rest.dropWhile (!isLineEnd ·)
    | _ => cs
  match cs.dropWhile isInlineBlank with
  | [] => some []
  | c :: rest => if isLineEnd c then some rest else none

/-- A key with its value, when it has one. -/
abbrev Binding := String × Option String

/-- Reads one binding or comment. The text is returned as far as it was read, with a mark whether the
reading failed there. -/
def readBinding (cs : List Char) : Option Binding × List Char × Bool :=
  let cs := dropExport cs
  match readKey? cs with
  | none => (none, cs, false)
  | some (key?, cs) =>
    let cs := cs.dropWhile isInlineBlank
    let value := match cs with
      | '=' :: rest =>
        let rest := rest.dropWhile isInlineBlank
        match readValue? rest with
        | some (v, rest) => some (some (String.ofList v), rest)
        | none => none
      | cs => some (none, cs)
    match value with
    | none => (none, (cs.drop 1).dropWhile isInlineBlank, false)
    | some (v, cs) =>
      match endLine? cs with
      | some cs => (key?.map fun k => (String.ofList k, v), cs, true)
      | none => (none, cs, false)

/-- The bindings of a text in order. -/
def bindings : Nat → List Char → List Binding
  | 0, _ => []
  | fuel + 1, cs =>
    match cs.dropWhile Text.isBlank with
    | [] => []
    | c :: rest =>
      let (binding?, after, ok) := readBinding (c :: rest)
      let after := if ok then after else (after.dropWhile (!isLineEnd ·)).drop 1
      binding?.toList ++ bindings fuel after

/-! ## References -/

/-- A piece of a value: text, or a reference to a variable with a default. -/
inductive Piece where
  | literal (c : Char)
  | reference (name fallback : String)

/-- The reference behind a dollar sign and an opening brace, and how many characters it takes. -/
def readReference? (cs : List Char) : Option (Piece × Nat) :=
  let name := cs.takeWhile fun c => c.toNat != 125 && c != ':'
  match cs.drop name.length with
  | ':' :: '-' :: rest =>
    let fallback := rest.takeWhile (·.toNat != 125)
    if fallback.length < rest.length then
      some (.reference (String.ofList name) (String.ofList fallback), name.length + fallback.length + 3)
    else none
  | c :: _ => if c.toNat = 125 then some (.reference (String.ofList name) "", name.length + 1) else none
  | [] => none

/-- The pieces of a value. -/
def pieces (text : List Char) : List Piece :=
  match text with
  | [] => []
  | c :: cs =>
    if c = '$' ∧ cs.head?.any (·.toNat = 123) then
      match readReference? (cs.drop 1) with
      | some (p, k) => p :: pieces (cs.drop (k + 1))
      | none => .literal c :: pieces cs
    else .literal c :: pieces cs
termination_by text.length
decreasing_by all_goals simp only [List.length_cons, List.length_drop]; omega

/-- A piece with its reference replaced. -/
def Piece.resolve (lookup : String → Option String) : Piece → String
  | .literal c => String.ofList [c]
  | .reference name fallback => (lookup name).getD fallback

/-- The bindings of a text with references replaced, later ones winning over earlier ones. A reference
is first looked up among the variables that are set, then among the bindings before it. -/
def resolve (variableNamed? : String → Option String) (bs : List Binding) : OrderedMap String (Option String) :=
  bs.foldl (fun done (key, value?) =>
    let lookup (name : String) : Option String :=
      match variableNamed? name with
      | some v => some v
      | none => (OrderedMap.find? done name).map (·.getD "")
    let value? := value?.map fun v => String.join ((pieces v.toList).map (·.resolve lookup))
    OrderedMap.insert done key value?) []

/-- The variables that a file sets. -/
def read (variableNamed? : String → Option String) (text : List Char) : OrderedMap String (Option String) :=
  resolve variableNamed? (bindings (text.length + 1) text)

end EventHub.EnvFile
