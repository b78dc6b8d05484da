import EventHub.Num.Decimal
import EventHub.Regex.Syntax

/-! # The tokens of a regular expression

The written form of an expression is cut into tokens: atoms, repetition counts, the bar and the two
ends of a group. Each reader looks at a text and says how many characters its token takes.
-/

namespace EventHub.Regex

/-- What a group is for. -/
inductive GroupKind where
  | plain
  | ahead (negated : Bool)
deriving DecidableEq, Repr

/-- A token. -/
inductive Token where
  | atom (r : Regex)
  | times (least : Nat) (most : Option Nat)
  | bar
  | opening (kind : GroupKind)
  | closing
deriving DecidableEq, Repr

/-! ## Escapes -/

/-- What stands behind a backslash. -/
inductive Escape where
  | char (c : Char)
  | kind (k : CharKind) (negated : Bool)
  | anchor (a : Anchor)
deriving DecidableEq, Repr

/-- The value of a hexadecimal digit. -/
def hexDigit? (c : Char) : Option Nat :=
  if '0' ≤ c ∧ c ≤ '9' then some (c.toNat - 48)
  else if 'a' ≤ c ∧ c ≤ 'f' then some (c.toNat - 87)
  else if 'A' ≤ c ∧ c ≤ 'F' then some (c.toNat - 55)
  else none

/-- The character whose number is written in exactly `width` hexadecimal digits. -/
def readHex? (width : Nat) (cs : List Char) : Option Char :=
  if cs.length < width then none
  else ((cs.take width).mapM hexDigit?).map fun ds => Char.ofNat (Num.ofDigits 16 ds)

/-- The octal digits at the start of a text, at most `limit` of them. -/
def octalDigits (limit : Nat) (cs : List Char) : List Char :=
  (cs.take limit).takeWhile fun c => '0' ≤ c ∧ c ≤ '7'

/-- The character with the number written in octal digits. -/
def ofOctal (ds : List Char) : Char :=
  Char.ofNat (Num.ofDigits 8 (ds.map fun c => c.toNat - 48))

/-- Letters and digits of ASCII. -/
def isAsciiAlphanumeric (c : Char) : Bool :=
  ('0' ≤ c && c ≤ '9') || ('a' ≤ c && c ≤ 'z') || ('A' ≤ c && c ≤ 'Z')

/-- The escapes of one letter that mean the same everywhere. -/
def letterEscape? (c : Char) : Option Escape :=
  match c with
  | 'd' => some (.kind .digit false)
  | 'D' => some (.kind .digit true)
  | 'w' => some (.kind .word false)
  | 'W' => some (.kind .word true)
  | 's' => some (.kind .blank false)
  | 'S' => some (.kind .blank true)
  | 'a' => some (.char (Char.ofNat 7))
  | 'f' => some (.char (Char.ofNat 12))
  | 'n' => some (.char '\n')
  | 'r' => some (.char '\r')
  | 't' => some (.char '\t')
  | 'v' => some (.char (Char.ofNat 11))
  | _ => none

/-- The escapes of one letter that are conditions on the position. -/
def anchorEscape? (c : Char) : Option Escape :=
  match c with
  | 'A' => some (.anchor .textStart)
  | 'Z' => some (.anchor .textEnd)
  | 'b' => some (.anchor .wordEdge)
  | 'B' => some (.anchor .wordInterior)
  | _ => none

/-- The escape that begins with `c`, and how many further characters it takes. A letter without a
meaning is an error; any other character stands for itself. -/
def readEscape? (inClass : Bool) (c : Char) (cs : List Char) : Option (Escape × Nat) :=
  match letterEscape? c with
  | some e => some (e, 0)
  | none =>
    if c = 'x' then (readHex? 2 cs).map (.char ·, 2)
    else if c = 'u' then (readHex? 4 cs).map (.char ·, 4)
    else if c = 'U' then (readHex? 8 cs).map (.char ·, 8)
    else if c = '0' then
      let ds := octalDigits 2 cs
      some (.char (ofOctal ds), ds.length)
    else if isAsciiAlphanumeric c then
      if inClass then if c = 'b' then some (.char (Char.ofNat 8), 0) else none
      else (anchorEscape? c).map (·, 0)
    else some (.char c, 0)

/-! ## Character classes -/

/-- A character or a named set inside a class. -/
def readMember? (c : Char) (cs : List Char) : Option (ClassItem × Nat) :=
  if c = '\\' then
    match cs with
    | [] => none
    | e :: rest =>
      match readEscape? true e rest with
      | some (.char x, k) => some (.range x x, k + 1)
      | some (.kind x negated, k) => some (.kind x negated, k + 1)
      | _ => none
  else some (.range c c, 0)

/-- The range between two single characters. -/
def ClassItem.upTo? : ClassItem → ClassItem → Option ClassItem
  | .range a _, .range b _ => if a ≤ b then some (.range a b) else none
  | _, _ => none

/-- The members of a class up to its closing bracket, and how many characters they take with it. A
closing bracket in the first place is a member. -/
def readItems? (first : Bool) (text : List Char) : Option (List ClassItem × Nat) :=
  match text with
  | [] => none
  | c :: cs =>
    if c = ']' ∧ ¬ first then some ([], 1)
    else
      match readMember? c cs with
      | none => none
      | some (item, k) =>
        match cs.drop k with
        | '-' :: ']' :: _ => some ([item, .range '-' '-'], k + 3)
        | '-' :: d :: ds =>
          match readMember? d ds with
          | none => none
          | some (other, l) =>
            match item.upTo? other with
            | none => none
            | some span =>
              (readItems? false (cs.drop (k + 2 + l))).map fun (items, n) =>
                (span :: items, k + l + n + 3)
        | _ =>
          (readItems? false (cs.drop k)).map fun (items, n) => (item :: items, k + n + 1)
termination_by text.length
decreasing_by all_goals simp only [List.length_cons, List.length_drop]; omega

/-- A class, from behind its opening bracket. -/
def readClass? (cs : List Char) : Option (CharClass × Nat) :=
  match cs with
  | '^' :: rest => (readItems? true rest).map fun (items, n) => (⟨true, items⟩, n + 1)
  | _ => (readItems? true cs).map fun (items, n) => (⟨false, items⟩, n)

/-! ## Repetition -/

/-- The least and greatest count of a repetition in braces, from behind the opening brace, and how
many characters they take with the closing brace. -/
def readCounts? (cs : List Char) : Option (Nat × Option Nat × Nat) :=
  let low := cs.takeWhile Num.isAsciiDigit
  let rest := cs.drop low.length
  match rest with
  | ',' :: more =>
    let high := more.takeWhile Num.isAsciiDigit
    if more.drop high.length |>.head? |>.any (· == Char.ofNat 125) then
      some (Num.ofDecimalDigits low, if high.isEmpty then none else some (Num.ofDecimalDigits high),
        low.length + high.length + 2)
    else none
  | c :: _ =>
    if c = Char.ofNat 125 ∧ ¬ low.isEmpty then
      some (Num.ofDecimalDigits low, some (Num.ofDecimalDigits low), low.length + 1)
    else none
  | [] => none

/-- A repetition that begins with `c`, and how many further characters it takes; a question mark
behind it only changes which match is preferred. -/
def readTimes? (c : Char) (cs : List Char) : Option (Nat × Option Nat × Nat) :=
  let lazyMark (k : Nat) : Nat := if (cs.drop k).head? = some '?' then k + 1 else k
  if c = '*' then some (0, none, lazyMark 0)
  else if c = '+' then some (1, none, lazyMark 0)
  else if c = '?' then some (0, some 1, lazyMark 0)
  else if c = Char.ofNat 123 then
    (readCounts? cs).map fun (least, most, k) => (least, most, lazyMark k)
  else none

/-! ## Tokens -/

/-- A group from behind its opening parenthesis, and how many further characters its opening takes. -/
def readOpening? (cs : List Char) : Option (GroupKind × Nat) :=
  match cs with
  | '?' :: ':' :: _ => some (.plain, 2)
  | '?' :: '=' :: _ => some (.ahead false, 2)
  | '?' :: '!' :: _ => some (.ahead true, 2)
  | '?' :: _ => none
  | _ => some (.plain, 0)

/-- The token that begins with `c`, and how many further characters it takes. -/
def Token.read? (c : Char) (cs : List Char) : Option (Token × Nat) :=
  match readTimes? c cs with
  | some (least, most, k) =>
    if most.any (· < least) then none else some (.times least most, k)
  | none =>
    match c with
    | '.' => some (.atom .any, 0)
    | '^' => some (.atom (.anchor .lineStart), 0)
    | '$' => some (.atom (.anchor .lineEnd), 0)
    | '|' => some (.bar, 0)
    | ')' => some (.closing, 0)
    | '(' => (readOpening? cs).map fun (kind, k) => (.opening kind, k)
    | '[' => (readClass? cs).map fun (cls, k) => (.atom (.oneOf cls), k)
    | '\\' =>
      match cs with
      | [] => none
      | e :: rest =>
        (readEscape? false e rest).map fun (escape, k) =>
          match escape with
          | .char x => (.atom (.char x), k + 1)
          | .kind x negated => (.atom (.oneOf ⟨false, [.kind x negated]⟩), k + 1)
          | .anchor a => (.atom (.anchor a), k + 1)
    | c => some (.atom (.char c), 0)

/-- White space that a verbose expression may hold between its tokens. -/
def isLayout (c : Char) : Bool := c == ' ' || (9 ≤ c.toNat && c.toNat ≤ 13)

/-- The tokens of a text. In a verbose expression white space and comments are passed over. -/
def tokens? (verbose : Bool) (text : List Char) : Option (List Token) :=
  match text with
  | [] => some []
  | c :: cs =>
    if verbose && isLayout c then tokens? verbose cs
    else if verbose && c == '#' then tokens? verbose (cs.drop (cs.takeWhile (· != '\n')).length)
    else
      match Token.read? c cs with
      | none => none
      | some (token, k) => (tokens? verbose (cs.drop k)).map (token :: ·)
termination_by text.length
decreasing_by all_goals simp only [List.length_cons, List.length_drop]; omega

end EventHub.Regex
