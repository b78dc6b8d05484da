import EventHub.Json
import EventHub.Num.Decimal
import EventHub.Regex.Token

/-! # Reading JSON

A text is cut into tokens, and the tokens are taken one by one into the arrays and objects that are
open, innermost first.
-/

namespace EventHub.Json

/-- A token. -/
inductive Token where
  | openArray
  | closeArray
  | openObject
  | closeObject
  | comma
  | colon
  | scalar (j : Json)

/-! ## Tokens -/

/-- The character of a short escape. -/
def shortEscape? (c : Char) : Option Char :=
  if c = Text.doubleQuote ∨ c = Text.backslash ∨ c = '/' then some c
  else if c = 'n' then some '\n'
  else if c = 't' then some '\t'
  else if c = 'r' then some '\r'
  else if c = 'b' then some (Char.ofNat 8)
  else if c = 'f' then some (Char.ofNat 12)
  else none

/-- The number written in four hexadecimal digits. -/
def fourDigits? (a b c d : Char) : Option Nat :=
  ([a, b, c, d].mapM Regex.hexDigit?).map (Num.ofDigits 16)

/-- The character of two surrogates, or of the first number alone when it is none. -/
def ofUnits? (first : Nat) (second : Option Nat) : Option (Char × Bool) :=
  match second with
  | some low =>
    if 0xD800 ≤ first ∧ first < 0xDC00 ∧ 0xDC00 ≤ low ∧ low < 0xE000 then
      some (Char.ofNat (0x10000 + (first - 0xD800) * 0x400 + (low - 0xDC00)), true)
    else if 0xD800 ≤ first ∧ first < 0xE000 then none
    else some (Char.ofNat first, false)
  | none => if 0xD800 ≤ first ∧ first < 0xE000 then none else some (Char.ofNat first, false)

/-- Whether two characters are the backslash and the letter that begin an escape by number. -/
def startsUnit (c d : Char) : Bool := c == Text.backslash && d == 'u'

/-- The content of a string from behind its opening quote, and how many characters it takes with the
closing one. -/
def readText? : List Char → Option (List Char × Nat)
  | [] => none
  | c :: rest =>
    if c = Text.doubleQuote then some ([], 1)
    else if c = Text.backslash then
      match rest with
      | 'u' :: a :: b :: d :: e :: c' :: d' :: p :: q :: r :: s :: rest' =>
        let second := if startsUnit c' d' then fourDigits? p q r s else none
        match fourDigits? a b d e with
        | none => none
        | some first =>
          match ofUnits? first second with
          | none => none
          | some (x, true) => (readText? rest').map fun (xs, n) => (x :: xs, n + 12)
          | some (x, false) =>
            (readText? (c' :: d' :: p :: q :: r :: s :: rest')).map fun (xs, n) => (x :: xs, n + 6)
      | 'u' :: a :: b :: d :: e :: rest' =>
        match (fourDigits? a b d e).bind (ofUnits? · none) with
        | none => none
        | some (x, _) => (readText? rest').map fun (xs, n) => (x :: xs, n + 6)
      | e :: rest' =>
        match shortEscape? e with
        | none => none
        | some x => (readText? rest').map fun (xs, n) => (x :: xs, n + 2)
      | [] => none
    else if c.toNat < 0x20 then none
    else (readText? rest).map fun (xs, n) => (c :: xs, n + 1)

/-- Whether a character can be part of a number. -/
def isNumberChar (c : Char) : Bool :=
  Num.isAsciiDigit c || c == '-' || c == '+' || c == '.' || c == 'e' || c == 'E'

/-- The number with a written form. -/
def readNumber? (cs : List Char) : Option Json :=
  match Num.readInt? cs with
  | some i => some (.int i)
  | none => (Num.readDecimal? cs).map .real

/-- The scalars that are written as words. -/
def words : List (List Char × Json) :=
  [("null".toList, .null), ("true".toList, .bool true), ("false".toList, .bool false)]

/-- The token that begins with `c`, and how many further characters it takes. -/
def Token.read? (c : Char) (cs : List Char) : Option (Token × Nat) :=
  if c = '[' then some (.openArray, 0)
  else if c = ']' then some (.closeArray, 0)
  else if c = Char.ofNat 123 then some (.openObject, 0)
  else if c = Char.ofNat 125 then some (.closeObject, 0)
  else if c = ',' then some (.comma, 0)
  else if c = ':' then some (.colon, 0)
  else if c = Text.doubleQuote then
    (readText? cs).map fun (s, n) => (.scalar (.text (String.ofList s)), n)
  else if isNumberChar c then
    let more := cs.takeWhile isNumberChar
    (readNumber? (c :: more)).map fun j => (.scalar j, more.length)
  else
    (words.find? fun w => w.1.isPrefixOf (c :: cs)).map fun w => (.scalar w.2, w.1.length - 1)

/-- Whether a character may stand between tokens. -/
def isSpace (c : Char) : Bool := c == ' ' || c == '\n' || c == '\r' || c == '\t'

/-- The tokens of a text. -/
def tokens? (text : List Char) : Option (List Token) :=
  match text with
  | [] => some []
  | c :: cs =>
    if isSpace c then tokens? cs
    else
      match Token.read? c cs with
      | none => none
      | some (t, k) => (tokens? (cs.drop k)).map (t :: ·)
termination_by text.length
decreasing_by all_goals simp only [List.length_cons, List.length_drop]; omega

/-! ## Structure -/

/-- An array or object that is open; what it holds so far is latest first. -/
inductive Frame where
  | array (items : List Json)
  | object (bindings : List (String × Json))
  | binding (bindings : List (String × Json)) (key : String)

/-- What may come next. -/
inductive Expected where
  | value
  | itemOrClose
  | key
  | keyOrClose
  | colon (key : String)
  | separator
  | nothing (result : Json)

/-- The open frames, innermost first, and what may come next. -/
structure Reading where
  frames : List Frame
  expected : Expected

/-- Puts a complete value where it belongs. -/
def Reading.complete (frames : List Frame) (j : Json) : Reading :=
  match frames with
  | .array items :: outer => ⟨.array (j :: items) :: outer, .separator⟩
  | .binding bindings key :: outer => ⟨.object ((key, j) :: bindings) :: outer, .separator⟩
  | frames => ⟨frames, .nothing j⟩

/-- Takes one token. -/
def Reading.take? (r : Reading) (t : Token) : Option Reading :=
  match r.expected, r.frames, t with
  | .value, fs, .scalar j => some (.complete fs j)
  | .value, fs, .openArray => some ⟨.array [] :: fs, .itemOrClose⟩
  | .value, fs, .openObject => some ⟨.object [] :: fs, .keyOrClose⟩
  | .itemOrClose, fs, .scalar j => some (.complete fs j)
  | .itemOrClose, fs, .openArray => some ⟨.array [] :: fs, .itemOrClose⟩
  | .itemOrClose, fs, .openObject => some ⟨.object [] :: fs, .keyOrClose⟩
  | .itemOrClose, .array items :: fs, .closeArray => some (.complete fs (.array items.reverse))
  | .key, fs, .scalar (.text k) => some ⟨fs, .colon k⟩
  | .keyOrClose, fs, .scalar (.text k) => some ⟨fs, .colon k⟩
  | .keyOrClose, .object bs :: fs, .closeObject => some (.complete fs (.object bs.reverse))
  | .colon k, .object bs :: fs, .colon => some ⟨.binding bs k :: fs, .value⟩
  | .separator, .array items :: fs, .comma => some ⟨.array items :: fs, .value⟩
  | .separator, .array items :: fs, .closeArray => some (.complete fs (.array items.reverse))
  | .separator, .object bs :: fs, .comma => some ⟨.object bs :: fs, .key⟩
  | .separator, .object bs :: fs, .closeObject => some (.complete fs (.object bs.reverse))
  | _, _, _ => none

/-- Reads a text that holds exactly one value. -/
def read? (text : List Char) : Option Json :=
  match (tokens? text).bind (·.foldlM Reading.take? ⟨[], .value⟩) with
  | some ⟨[], .nothing j⟩ => some j
  | _ => none

end EventHub.Json
