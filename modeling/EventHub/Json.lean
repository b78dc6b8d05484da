import EventHub.Num.Shortest
import EventHub.Text.Quoted

/-! # JSON

JSON texts as data, with the bindings of an object in order and integers of any size, and their
written form on a single line. Only the quote, the backslash and the characters below U+0020 are
escaped; all others are written as they are.
-/

namespace EventHub

/-- A JSON text. -/
inductive Json where
  | null
  | bool (b : Bool)
  | int (i : Int)
  | real (x : Num.Binary64)
  | text (s : String)
  | array (items : List Json)
  | object (bindings : List (String × Json))
deriving Inhabited

namespace Json

/-- A character as it is written inside a JSON string. -/
def escapedChar (c : Char) : List Char :=
  if c = Text.doubleQuote ∨ c = Text.backslash then [Text.backslash, c]
  else if c.toNat < 0x20 then
    if c = '\n' then [Text.backslash, 'n']
    else if c = '\r' then [Text.backslash, 'r']
    else if c = '\t' then [Text.backslash, 't']
    else if c.toNat = 8 then [Text.backslash, 'b']
    else if c.toNat = 12 then [Text.backslash, 'f']
    else Text.backslash :: 'u' :: Text.hexadecimal 4 c.toNat
  else [c]

/-- A text as a JSON string. -/
def writeText (s : String) : List Char :=
  Text.doubleQuote :: s.toList.flatMap escapedChar ++ [Text.doubleQuote]

mutual

/-- The written form. -/
def write : Json → List Char
  | .null => "null".toList
  | .bool b => (if b then "true" else "false").toList
  | .int i => Num.signedDecimal i
  | .real x => x.text "NaN".toList "Infinity".toList
  | .text s => writeText s
  | .array items => '[' :: (", ".toList.intercalate (writeItems items)) ++ [']']
  | .object bindings =>
    Char.ofNat 123 :: (", ".toList.intercalate (writeBindings bindings)) ++ [Char.ofNat 125]

/-- The written forms of the items of an array. -/
def writeItems : List Json → List (List Char)
  | [] => []
  | j :: js => write j :: writeItems js

/-- The written forms of the bindings of an object. -/
def writeBindings : List (String × Json) → List (List Char)
  | [] => []
  | (k, j) :: rest => (writeText k ++ ": ".toList ++ write j) :: writeBindings rest

end

/-- The value bound to a key of an object. -/
def field? (j : Json) (key : String) : Option Json :=
  match j with
  | .object bindings => bindings.lookup key
  | _ => none

end Json

end EventHub
