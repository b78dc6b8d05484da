import EventHub.OrderedMap
import EventHub.Regex.Token

/-! # The tokens of a YAML text

Indentation and the signs of flow collections are cut into tokens. That a scalar is a key is known only
when its colon is met, so each level remembers where a key may have begun, and the marks of the key are
put in there afterwards. A block begins with the first key or entry in a new column and ends where the
text moves back to the left of it.
-/

namespace EventHub.Yaml

/-- A token. -/
inductive Token where
  | documentStart
  | documentEnd
  | blockSequence
  | blockMapping
  | blockEnd
  | entry
  | key
  | value
  | flowSequence
  | flowSequenceEnd
  | flowMapping
  | flowMappingEnd
  | comma
  | plain (s : List Char)
  | quoted (s : List Char)
deriving DecidableEq, Repr

/-! ## Characters and positions -/

/-- Whether a character ends a line. -/
def isBreak (c : Char) : Bool :=
  c == '\n' || c == '\r' || c.toNat == 0x85 || c.toNat == 0x2028 || c.toNat == 0x2029

/-- Whether a character is a space, a tab or the end of a line. -/
def isGap (c : Char) : Bool := c == ' ' || c == '\t' || isBreak c

/-- Whether a word ends before the next character. -/
def endsWord (next : Option Char) : Bool := next.all isGap

/-- The signs of flow collections. -/
def isFlowSign (c : Char) : Bool :=
  c == ',' || c == '[' || c == ']' || c.toNat == 123 || c.toNat == 125

/-- Whether a text may hold a character at all. -/
def isAllowed (c : Char) : Bool :=
  let n := c.toNat
  n == 0x9 || n == 0xA || n == 0xD || (0x20 ≤ n && n ≤ 0x7E) || n == 0x85 || (0xA0 ≤ n && n ≤ 0xFFFD)
    || 0x10000 ≤ n

/-- A place in the text. -/
structure Cursor where
  rest : List Char
  index : Nat := 0
  line : Nat := 0
  column : Nat := 0

namespace Cursor

/-- The place behind the next character. -/
def advance (c : Cursor) : Cursor :=
  match c.rest with
  | [] => c
  | x :: xs =>
    if isBreak x then ⟨xs, c.index + 1, c.line + 1, 0⟩ else ⟨xs, c.index + 1, c.line, c.column + 1⟩

/-- The place some characters further on. -/
def skip (c : Cursor) : Nat → Cursor
  | 0 => c
  | n + 1 => c.advance.skip n

/-- The next character. -/
def next? (c : Cursor) : Option Char := c.rest.head?

/-- The character `n` places further on. -/
def at? (c : Cursor) (n : Nat) : Option Char := (c.rest.drop n).head?

/-- Whether a document mark of three equal signs stands here. -/
def isMark (c : Cursor) (sign : Char) : Bool :=
  c.rest.take 3 == [sign, sign, sign] && endsWord (c.at? 3)

/-- Whether a document mark of either kind stands here. -/
def isAnyMark (c : Cursor) : Bool := c.isMark '-' || c.isMark '.'

end Cursor

/-! ## Quoted scalars -/

/-- The character of an escape of one letter. -/
def escape? (c : Char) : Option Char :=
  [('0', 0), ('a', 7), ('b', 8), ('t', 9), ('\t', 9), ('n', 10), ('v', 11), ('f', 12), ('r', 13),
    ('e', 27), (' ', 32), (Char.ofNat 34, 34), ('\\', 92), ('/', 47), ('N', 0x85), ('_', 0xA0),
    ('L', 0x2028), ('P', 0x2029)].lookup c |>.map Char.ofNat

/-- How many hexadecimal digits follow the letter of an escape by number. -/
def escapeWidth? (c : Char) : Option Nat := [('x', 2), ('u', 4), ('U', 8)].lookup c

/-- The line breaks from here on, spaces and tabs between them passed over; none where a document mark
begins a line. -/
def foldedBreaks : Nat → Cursor → List Char → Option (List Char × Cursor)
  | 0, _, _ => none
  | fuel + 1, c, breaks =>
    if c.column = 0 ∧ c.isAnyMark then none
    else
      let c := c.skip (c.rest.takeWhile fun x => x == ' ' || x == '\t').length
      match c.next? with
      | some x => if isBreak x then foldedBreaks fuel c.advance (breaks ++ [x]) else some (breaks, c)
      | none => some (breaks, c)

/-- What a line break in a scalar stands for: a space, unless empty lines follow. -/
def folded (first : Char) (more : List Char) : List Char :=
  if first ≠ '\n' then first :: more else if more.isEmpty then [' '] else more

/-- The content of a quoted scalar from behind its opening quote. -/
def readQuoted (double : Bool) : Nat → Cursor → List Char → Option (List Char × Cursor)
  | 0, _, _ => none
  | fuel + 1, c, acc =>
    match c.next? with
    | none => none
    | some x =>
      let quote := if double then Char.ofNat 34 else Char.ofNat 39
      if x = quote then
        if !double && c.at? 1 = some quote then readQuoted double fuel (c.skip 2) (acc ++ [quote])
        else some (acc, c.advance)
      else if double && x = '\\' then
        match c.at? 1 with
        | none => none
        | some e =>
          match escape? e with
          | some y => readQuoted double fuel (c.skip 2) (acc ++ [y])
          | none =>
            match escapeWidth? e with
            | some width =>
              match Regex.readHex? width (c.rest.drop 2) with
              | some y => readQuoted double fuel (c.skip (2 + width)) (acc ++ [y])
              | none => none
            | none =>
              if isBreak e then
                match foldedBreaks (c.rest.length + 1) (c.skip 2) [] with
                | some (breaks, c') => readQuoted double fuel c' (acc ++ breaks)
                | none => none
              else none
      else if x = ' ' || x = '\t' || isBreak x then
        let blanks := c.rest.takeWhile fun y => y == ' ' || y == '\t'
        let c' := c.skip blanks.length
        match c'.next? with
        | none => none
        | some y =>
          if isBreak y then
            match foldedBreaks (c.rest.length + 1) c'.advance [] with
            | some (breaks, c'') => readQuoted double fuel c'' (acc ++ folded y breaks)
            | none => none
          else readQuoted double fuel c' (acc ++ blanks)
      else readQuoted double fuel c.advance (acc ++ [x])

/-! ## Plain scalars -/

/-- Whether a plain scalar may begin with `c`. -/
def beginsPlain (flow : Bool) (c : Char) (next : Option Char) : Bool :=
  let indicator := "-?:,[]#&*!|>%@".toList.contains c || isFlowSign c || c.toNat == 34 || c.toNat == 39
    || c.toNat == 96
  (!isGap c && !indicator)
    || (!endsWord next && (c == '-' || (!flow && (c == '?' || c == ':'))))

/-- Whether a word of a plain scalar ends before `c`. -/
def endsPlainWord (flow : Bool) (c : Char) (next : Option Char) : Bool :=
  isGap c || (c == ':' && (endsWord next || (flow && next.any isFlowSign)))
    || (flow && (c == '?' || isFlowSign c))

/-- The word of a plain scalar at the start of a text. -/
def plainWord (flow : Bool) : List Char → List Char
  | [] => []
  | c :: cs => if endsPlainWord flow c cs.head? then [] else c :: plainWord flow cs

/-- Line breaks and spaces from here on; none where a document mark begins a line. -/
def plainBreaks : Nat → Cursor → List Char → Option (List Char) × Cursor
  | 0, c, breaks => (some breaks, c)
  | fuel + 1, c, breaks =>
    match c.next? with
    | some x =>
      if x = ' ' then plainBreaks fuel c.advance breaks
      else if isBreak x then
        let c := c.advance
        if c.isAnyMark then (none, c) else plainBreaks fuel c (breaks ++ [x])
      else (some breaks, c)
    | none => (some breaks, c)

/-- The space between two words of a plain scalar, and whether it holds the end of a line; nothing where
the scalar ends. -/
def plainSpace (c : Cursor) : List Char × Cursor × Bool :=
  let blanks := c.rest.takeWhile (· == ' ')
  let c := c.skip blanks.length
  match c.next? with
  | some x =>
    if isBreak x then
      let c := c.advance
      if c.isAnyMark then ([], c, true)
      else
        match plainBreaks (c.rest.length + 1) c [] with
        | (some breaks, c) => (folded x breaks, c, true)
        | (none, c) => ([], c, true)
    else (blanks, c, false)
  | none => (blanks, c, false)

/-- The words of a plain scalar, and whether the text behind it begins a line. -/
def readPlain (flow : Bool) (indent : Int) :
    Nat → Cursor → List Char → List Char → Bool → List Char × Cursor × Bool
  | 0, c, _, acc, onNewLine => (acc, c, onNewLine)
  | fuel + 1, c, space, acc, onNewLine =>
    let word := plainWord flow c.rest
    if c.next? = some '#' ∨ word.isEmpty then (acc, c, onNewLine)
    else
      let acc := acc ++ space ++ word
      let (space, c, newLine) := plainSpace (c.skip word.length)
      if space.isEmpty ∨ c.next? = some '#' ∨ (!flow ∧ (c.column : Int) < indent) then (acc, c, newLine)
      else readPlain flow indent fuel c space acc newLine

/-! ## The scanner -/

/-- A place where a key may have begun: the number of its token, and whether it must be a key. -/
structure Candidate where
  slot : Nat
  required : Bool
  line : Nat
  column : Nat
  index : Nat

/-- The tokens so far, the place reached, the open blocks by column, the number of open flow
collections, whether a key may begin here and where one may have begun at each level. -/
structure Scanner where
  cursor : Cursor
  tokens : List Token := []
  indent : Int := -1
  indents : List Int := []
  depth : Nat := 0
  keysAllowed : Bool := true
  candidates : OrderedMap Nat Candidate := []

namespace Scanner

/-- A scanner with one more token. -/
def push (s : Scanner) (t : Token) : Scanner := { s with tokens := s.tokens ++ [t] }

/-- A scanner with a token put in front of the one with a number. -/
def insert (s : Scanner) (slot : Nat) (t : Token) : Scanner :=
  { s with tokens := s.tokens.take slot ++ t :: s.tokens.drop slot }

/-- Passes over spaces, comments and line ends; after a line end outside flow collections a key may
begin. -/
def skipLayout (s : Scanner) : List Char → Bool → Scanner
  | [], _ => s
  | c :: cs, inComment =>
    let s' := { s with cursor := s.cursor.advance }
    if isBreak c then
      skipLayout { s' with keysAllowed := s.keysAllowed || s.depth == 0 } cs false
    else if inComment then skipLayout s' cs true
    else if c = ' ' || (c.toNat = 0xFEFF && s.cursor.index = 0) then skipLayout s' cs false
    else if c = '#' then skipLayout s' cs true
    else s

/-- Opens a block in a column to the right of the current one, if there is none. -/
def indentTo (s : Scanner) (column : Nat) : Option Scanner :=
  if s.indent < column then some { s with indent := column, indents := s.indent :: s.indents }
  else none

/-- Closes the blocks to the right of a column. -/
def unwindFrom (s : Scanner) (column : Int) : List Int → Scanner
  | [] => s
  | outer :: more =>
    if column < s.indent then
      unwindFrom { s with tokens := s.tokens ++ [.blockEnd], indent := outer, indents := more } column more
    else s

/-- Closes the blocks to the right of a column, outside flow collections. -/
def unwind (s : Scanner) (column : Int) : Scanner :=
  if s.depth = 0 then s.unwindFrom column s.indents else s

/-- Forgets where a key may have begun at the current level; a required key is missing its colon. -/
def dropCandidate? (s : Scanner) : Option Scanner :=
  match s.candidates.find? s.depth with
  | none => some s
  | some k => if k.required then none else some { s with candidates := s.candidates.erase s.depth }

/-- Forgets keys that were begun on another line or too far back. -/
def dropStale? (s : Scanner) : Option Scanner :=
  let stale (k : Candidate) : Bool := k.line != s.cursor.line || 1024 < s.cursor.index - k.index
  if s.candidates.any fun b => stale b.2 && b.2.required then none
  else some { s with candidates := s.candidates.filter fun b => !stale b.2 }

/-- Remembers that a key may begin here, if one may. -/
def noteCandidate? (s : Scanner) : Option Scanner :=
  if !s.keysAllowed then some s
  else
    let required := s.depth == 0 && s.indent == (s.cursor.column : Int)
    s.dropCandidate?.map fun s =>
      { s with candidates := s.candidates ++
          [(s.depth, ⟨s.tokens.length, required, s.cursor.line, s.cursor.column, s.cursor.index⟩)] }

/-- Reads an opening sign of a flow collection. -/
def openFlow? (s : Scanner) (t : Token) : Option Scanner :=
  s.noteCandidate?.map fun s =>
    { s.push t with depth := s.depth + 1, keysAllowed := true, cursor := s.cursor.advance }

/-- Reads a closing sign of a flow collection. -/
def closeFlow? (s : Scanner) (t : Token) : Option Scanner :=
  s.dropCandidate?.map fun s =>
    { s.push t with depth := s.depth - 1, keysAllowed := false, cursor := s.cursor.advance }

/-- Reads a comma. -/
def comma? (s : Scanner) : Option Scanner :=
  s.dropCandidate?.map fun s => { s.push .comma with keysAllowed := true, cursor := s.cursor.advance }

/-- Opens a block of the given kind in the current column, unless it is open. -/
def beginBlock (s : Scanner) (t : Token) : Scanner :=
  match s.indentTo s.cursor.column with
  | some s' => s'.push t
  | none => s

/-- Reads the dash of a block entry. -/
def dash? (s : Scanner) : Option Scanner :=
  if s.depth = 0 ∧ ¬ s.keysAllowed then none
  else
    let s := if s.depth = 0 then s.beginBlock .blockSequence else s
    s.dropCandidate?.map fun s => { s.push .entry with keysAllowed := true, cursor := s.cursor.advance }

/-- Reads the question mark of an explicit key. -/
def explicitKey? (s : Scanner) : Option Scanner :=
  if s.depth = 0 ∧ ¬ s.keysAllowed then none
  else
    let s := if s.depth = 0 then s.beginBlock .blockMapping else s
    s.dropCandidate?.map fun s =>
      { s.push .key with keysAllowed := s.depth == 0, cursor := s.cursor.advance }

/-- Reads the colon between a key and its value. -/
def value? (s : Scanner) : Option Scanner :=
  let finish (s : Scanner) : Scanner := { s.push .value with cursor := s.cursor.advance }
  match s.candidates.find? s.depth with
  | some k =>
    let s := { s with candidates := s.candidates.erase s.depth }
    let s := s.insert k.slot .key
    let s :=
      if s.depth = 0 then
        match s.indentTo k.column with
        | some s' => s'.insert k.slot .blockMapping
        | none => s
      else s
    some (finish { s with keysAllowed := false })
  | none =>
    if s.depth = 0 ∧ ¬ s.keysAllowed then none
    else
      let s := if s.depth = 0 then s.beginBlock .blockMapping else s
      s.dropCandidate?.map fun s => finish { s with keysAllowed := s.depth == 0 }

/-- Reads a quoted scalar. -/
def quoted? (s : Scanner) (double : Bool) : Option Scanner :=
  s.noteCandidate?.bind fun s =>
    (readQuoted double (s.cursor.rest.length + 1) s.cursor.advance []).map fun (content, c) =>
      { s.push (.quoted content) with keysAllowed := false, cursor := c }

/-- Reads a plain scalar. -/
def plain? (s : Scanner) : Option Scanner :=
  s.noteCandidate?.map fun s =>
    let (content, c, onNewLine) :=
      readPlain (s.depth != 0) (s.indent + 1) (s.cursor.rest.length + 1) s.cursor [] [] false
    { s.push (.plain content) with keysAllowed := onNewLine, cursor := c }

/-- Reads a document mark. -/
def mark? (s : Scanner) (t : Token) : Option Scanner :=
  (s.unwind (-1)).dropCandidate?.map fun s =>
    { s.push t with keysAllowed := false, cursor := s.cursor.skip 3 }

/-- Reads the token that begins with `c`. -/
def token? (s : Scanner) (c : Char) : Option Scanner :=
  let next := s.cursor.at? 1
  let atStart := s.cursor.column = 0
  if atStart && s.cursor.isMark '-' then s.mark? .documentStart
  else if atStart && s.cursor.isMark '.' then s.mark? .documentEnd
  else if atStart && c = '%' then none
  else if c = '[' then s.openFlow? .flowSequence
  else if c.toNat = 123 then s.openFlow? .flowMapping
  else if c = ']' then s.closeFlow? .flowSequenceEnd
  else if c.toNat = 125 then s.closeFlow? .flowMappingEnd
  else if c = ',' then s.comma?
  else if c = '-' && endsWord next then s.dash?
  else if c = '?' && (s.depth != 0 || endsWord next) then s.explicitKey?
  else if c = ':' && (s.depth != 0 || endsWord next) then s.value?
  else if c.toNat = 39 then s.quoted? false
  else if c.toNat = 34 then s.quoted? true
  else if beginsPlain (s.depth != 0) c next then s.plain?
  else none

/-- Reads tokens to the end of the text. -/
def run? : Nat → Scanner → Option (List Token)
  | 0, _ => none
  | fuel + 1, s =>
    match (s.skipLayout s.cursor.rest false).dropStale? with
    | none => none
    | some s =>
      let s := s.unwind s.cursor.column
      match s.cursor.next? with
      | none => (s.unwind (-1)).dropCandidate?.map (·.tokens)
      | some c =>
        match s.token? c with
        | none => none
        | some s => run? fuel s

end Scanner

/-- The tokens of a text; none when it holds a character or sign that it may not. -/
def tokens? (text : List Char) : Option (List Token) :=
  if text.all isAllowed then Scanner.run? (text.length + 1) { cursor := { rest := text } } else none

end EventHub.Yaml
