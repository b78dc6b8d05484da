import EventHub.Fault
import EventHub.Num.Precision

/-! # Places in messages

A place in a message begins with a percent sign and ends with the letter of a conversion. Between the two may
stand a key in parentheses, flags, a width, a precision behind a point, and one of the letters `h`, `l` and
`L`, which mean nothing. An asterisk takes a width or a precision from the arguments.

`%s`, `%r` and `%a` take the plain form of an argument, its literal form, and that in ASCII; `%d`, `%i`, `%u`,
`%o`, `%x` and `%X` a whole number, `%e`, `%f` and `%g` a real one, in small letters or capital ones, and `%c`
a character. Characters that no text can hold are left out.
-/

namespace EventHub.Log

/-! ## Reading places -/

/-- The key of a place. -/
inductive PlaceKey where
  | unnamed
  | named (key : String)
  | unclosed
deriving Repr

/-- The flags of a place, by their signs `-`, `+`, blank, `#` and `0`. -/
structure PlaceFlags where
  left : Bool
  signed : Bool
  spaced : Bool
  alternate : Bool
  zeros : Bool
deriving Repr

/-- A width or a precision. -/
inductive Extent where
  | given (n : Nat)
  | excessive
  | taken
deriving Repr

/-- A place in a message. The conversion stands at `index`, and is missing if the message ends before. -/
structure Place where
  key : PlaceKey
  flags : PlaceFlags
  width? : Option Extent
  precision? : Option Extent
  conversion? : Option Char
  index : Nat
deriving Repr

/-- The largest precision. -/
def precisionLimit : Nat := 0x7FFFFFFF

/-- The largest width. -/
def widthLimit : Nat := 0x7FFFFFFFFFFFFFFF

/-- The characters up to the parenthesis that closes, where `depth` more are open, and those behind it. -/
def closed? (depth : Nat) : List Char → Option (List Char × List Char)
  | [] => none
  | c :: cs =>
    if c = ')' ∧ depth = 0 then some ([], cs)
    else
      let depth := if c = ')' then depth - 1 else if c = '(' then depth + 1 else depth
      (closed? depth cs).map fun (key, rest) => (c :: key, rest)

/-- A key at the beginning, and what stands behind it. -/
def readKey : List Char → PlaceKey × List Char
  | '(' :: cs =>
    match closed? 0 cs with
    | some (key, rest) => (.named (String.ofList key), rest)
    | none => (.unclosed, [])
  | cs => (.unnamed, cs)

/-- Flags at the beginning, and what stands behind them. -/
def readFlags (cs : List Char) : PlaceFlags × List Char :=
  let isFlag (c : Char) : Bool := ['-', '+', ' ', '#', '0'].contains c
  let given := cs.takeWhile isFlag
  (⟨given.contains '-', given.contains '+', given.contains ' ', given.contains '#', given.contains '0'⟩,
    cs.dropWhile isFlag)

/-- A width or a precision at the beginning, and what stands behind it. -/
def readExtent (limit : Nat) : List Char → Option Extent × List Char
  | '*' :: cs => (some .taken, cs)
  | cs =>
    match Num.readDigits cs with
    | ([], _) => (none, cs)
    | (digits, rest) =>
      let n := Num.ofDecimalDigits digits
      (some (if n ≤ limit then .given n else .excessive), rest)

/-- A precision at the beginning, and what stands behind it; a point alone is a precision of zero. -/
def readPrecision : List Char → Option Extent × List Char
  | '.' :: cs =>
    let (precision?, rest) := readExtent precisionLimit cs
    (precision?.or (some (.given 0)), rest)
  | cs => (none, cs)

/-- A letter at the beginning that means nothing is passed over. -/
def skipLetter : List Char → List Char
  | c :: cs => if c = 'h' ∨ c = 'l' ∨ c = 'L' then cs else c :: cs
  | [] => []

/-- The place at the beginning of a text, without its percent sign, and how many characters it has. The text
stands at `index` in the message. -/
def readPlace (index : Nat) (text : List Char) : Place × Nat :=
  let (key, rest) := readKey text
  let (flags, rest) := readFlags rest
  let (width?, rest) := readExtent widthLimit rest
  let (precision?, rest) := readPrecision rest
  let rest := skipLetter rest
  (⟨key, flags, width?, precision?, rest.head?, index + (text.length - rest.length)⟩,
    text.length - rest.tail.length)

/-! ## Conversions -/

/-- The whole number of an argument. -/
def wholeNumber (conversion : Char) (v : Value) : Except Fault Int :=
  let wanted := if ['o', 'x', 'X'].contains conversion then "an integer" else "a real number"
  let wrong : Except Fault Int :=
    .error (.badMessage .typeError
      ("%" ++ String.ofList [conversion] ++ " format: " ++ wanted ++ " is required, not " ++ v.typeName))
  match v with
  | .int i => .ok i
  | .bool b => .ok (if b then 1 else 0)
  | .float x =>
    if ['o', 'x', 'X'].contains conversion then wrong
    else
      match x, x.truncate? with
      | .nan, _ => .error (.badMessage .valueError "cannot convert float NaN to integer")
      | _, some i => .ok i
      | _, none => .error (.badMessage .overflow "cannot convert float infinity to integer")
  | _ => wrong

/-- The real number of an argument. -/
def realNumber (v : Value) : Except Fault Num.Binary64 :=
  let ofInt (i : Int) : Except Fault Num.Binary64 :=
    match Num.Binary64.ofInt i with
    | .infinite _ => .error (.badMessage .overflow "int too large to convert to float")
    | x => .ok x
  match v with
  | .float x => .ok x
  | .int i => ofInt i
  | .bool b => ofInt (if b then 1 else 0)
  | v => .error (.badMessage .typeError ("must be real number, not " ++ v.typeName))

/-- The character of an argument. -/
def character (v : Value) : Except Fault Char :=
  let ofInt (i : Int) : Except Fault Char :=
    if 0 ≤ i ∧ i.toNat.isValidChar then .ok (Char.ofNat i.toNat)
    else .error (.badMessage .overflow "%c arg not in range(0x110000)")
  let wrong : Except Fault Char := .error (.badMessage .typeError "%c requires int or char")
  match v with
  | .int i => ofInt i
  | .bool b => ofInt (if b then 1 else 0)
  | .text s =>
    match s.toList with
    | [c] => .ok c
    | _ => wrong
  | _ => wrong

/-- An argument as it is written in a place: a sign, the mark of a base, and the rest. Texts have no sign. -/
structure Written where
  numeric : Bool
  negative : Bool := false
  mark : List Char := []
  body : List Char

/-- A text, of which a precision leaves so many characters. -/
def writtenText (precision? : Option Nat) (v : Value) (text : List Char) : Except Fault Written :=
  if v.fits then .ok ⟨false, false, [], text.take (precision?.getD text.length)⟩ else .error .tooManyDigits

/-- A whole number, in which a precision asks for so many digits. -/
def writtenInteger (conversion : Char) (alternate : Bool) (precision? : Option Nat) (i : Int) :
    Except Fault Written :=
  let precision := precision?.getD 0
  let base := if conversion = 'o' then 8 else if conversion = 'x' ∨ conversion = 'X' then 16 else 10
  let digits := Nat.toDigits base i.natAbs
  let digits := List.replicate (precision - digits.length) '0' ++ digits
  if precisionLimit - 3 < precision then .error (.badMessage .overflow "precision too large")
  else if base = 10 ∧ !(Value.int i).fits then .error .tooManyDigits
  else
    .ok { numeric := true
          negative := i < 0
          mark := if alternate ∧ base ≠ 10 then ['0', conversion] else []
          body := if conversion = 'X' then digits.map Char.toUpper else digits }

/-- The style in which a letter has real numbers written. -/
def styleOf? (conversion : Char) : Option Num.Style :=
  match conversion.toLower with
  | 'e' => some .scientific
  | 'f' => some .fixed
  | 'g' => some .general
  | _ => none

/-- A real number in a style. -/
def writtenReal (style : Num.Style) (capitals alternate : Bool) (precision? : Option Nat)
    (x : Num.Binary64) : Written :=
  let body : List Char := match x with
    | .nan => "nan".toList
    | .infinite _ => "inf".toList
    | .finite _ m e =>
      let (num, den) := Num.rescale 2 m 1 (-e)
      style.text alternate (precision?.getD 6) num den
  { numeric := true
    negative := x.isNegative
    body := if capitals then body.map Char.toUpper else body }

/-- An argument as a conversion has it written, in a place with an index. -/
def converted (conversion : Char) (alternate : Bool) (precision? : Option Nat) (index : Nat) (v : Value) :
    Except Fault Written :=
  if conversion = 's' then writtenText precision? v v.plain.toList
  else if conversion = 'r' then writtenText precision? v v.literal.toList
  else if conversion = 'a' then writtenText precision? v (Text.asciiOnly v.literal.toList)
  else if ['d', 'i', 'u', 'o', 'x', 'X'].contains conversion then
    wholeNumber conversion v >>= writtenInteger conversion alternate precision?
  else if conversion = 'c' then (character v).map fun c => ⟨false, false, [], [c]⟩
  else
    match styleOf? conversion with
    | some style => (realNumber v).map (writtenReal style conversion.isUpper alternate precision?)
    | none =>
      let shown := if 31 ≤ conversion.toNat ∧ conversion.toNat ≤ 126 then conversion else '?'
      .error (.badMessage .valueError ("unsupported format character '" ++ String.ofList [shown]
        ++ "' (0x" ++ String.ofList (Text.hexadecimal 1 conversion.toNat) ++ ") at index "
        ++ toString index))

/-- What is written has a sign if it is a number, and is filled up to a width. -/
def Written.padded (w : Written) (flags : PlaceFlags) (left : Bool) (width : Nat) : List Char :=
  let sign : List Char :=
    if w.negative then ['-']
    else if !w.numeric then []
    else if flags.signed then ['+']
    else if flags.spaced then [' ']
    else []
  let room := width - (sign.length + w.mark.length + w.body.length)
  if left then sign ++ w.mark ++ w.body ++ List.replicate room ' '
  else if w.numeric && flags.zeros then sign ++ w.mark ++ List.replicate room '0' ++ w.body
  else List.replicate room ' ' ++ sign ++ w.mark ++ w.body

/-! ## Filling places -/

/-- Places take their arguments from those that are left. -/
abbrev Filling := StateT (List Value) (Except Fault)

/-- The next argument. -/
def argument : Filling Value := do
  match ← get with
  | [] => throw (.badMessage .typeError "not enough arguments for format string")
  | v :: rest =>
    set rest
    return v

/-- The number that a width or a precision stands for. The text of the last fault is shortened. -/
def Extent.number (name : String) (limit : Nat) : Extent → Filling Int
  | .given n => return n
  | .excessive => throw (.badMessage .valueError (name ++ " too big"))
  | .taken => do
    let i ← match ← argument with
      | .int i => pure i
      | .bool b => pure (if b then 1 else 0)
      | _ => throw (.badMessage .typeError "* wants int")
    if i.natAbs ≤ limit then return i else throw (.badMessage .overflow (name ++ " too large to convert"))

/-- Looks up the key of a place. The value that it names takes the place of all arguments. -/
def PlaceKey.select (named : Option (List (Value × Value))) : PlaceKey → Filling Unit
  | .unnamed => return
  | .named key =>
    match named with
    | none => throw (.badMessage .typeError "format requires a mapping")
    | some bindings =>
      match bindings.find? fun b => b.1.isText key with
      | none => throw (.throw .keyError [.text key])
      | some b => set [b.2]
  | .unclosed =>
    throw (match named with
      | none => .badMessage .typeError "format requires a mapping"
      | some _ => .badMessage .valueError "incomplete format key")

/-- The text of a place. A negative width has it filled up on the right, and a negative precision is one of
zero. -/
def Place.text (named : Option (List (Value × Value))) (p : Place) : Filling (List Char) := do
  p.key.select named
  let width ← match p.width? with
    | some e => e.number "width" widthLimit
    | none => pure 0
  let precision? ← match p.precision? with
    | some e => do pure (some (← e.number "precision" precisionLimit).toNat)
    | none => pure none
  match p.conversion? with
  | none => throw (.badMessage .valueError "incomplete format")
  | some conversion =>
    let w ← converted conversion p.flags.alternate precision? p.index (← argument)
    return w.padded p.flags (p.flags.left || width < 0) width.natAbs

end EventHub.Log
