import EventHub.Text.Printable

/-! # Quoted text

Text and bytes in quotes, as they appear inside messages. The quote is an apostrophe, unless the
content holds an apostrophe and no double quote. The quote itself and the backslash are escaped, line
feed, carriage return and tab have escapes of their own, and whatever is not printable is written by
its number.
-/

namespace EventHub.Text

/-- The apostrophe. -/
def apostrophe : Char := Char.ofNat 39

/-- The double quote. -/
def doubleQuote : Char := Char.ofNat 34

/-- The backslash. -/
def backslash : Char := Char.ofNat 92

/-- A number in hexadecimal notation with at least `width` digits. -/
def hexadecimal (width n : Nat) : List Char :=
  let ds := Nat.toDigits 16 n
  List.replicate (width - ds.length) '0' ++ ds

/-- The quote that encloses a content. -/
def quoteFor (content : List Char) : Char :=
  if content.contains apostrophe && !content.contains doubleQuote then doubleQuote else apostrophe

/-- The escape of a character that has a short one inside the given quotes. -/
def shortEscape? (quote c : Char) : Option (List Char) :=
  if c = quote ∨ c = backslash then some [backslash, c]
  else if c = '\n' then some [backslash, 'n']
  else if c = '\r' then some [backslash, 'r']
  else if c = '\t' then some [backslash, 't']
  else none

/-- The escape of a character by its number. -/
def numbered (c : Char) : List Char :=
  if c.toNat < 0x100 then backslash :: 'x' :: hexadecimal 2 c.toNat
  else if c.toNat < 0x10000 then backslash :: 'u' :: hexadecimal 4 c.toNat
  else backslash :: 'U' :: hexadecimal 8 c.toNat

/-- A text in which only ASCII characters stand for themselves. -/
def asciiOnly (s : List Char) : List Char := s.flatMap fun c => if c.toNat < 0x80 then [c] else numbered c

/-- A character as it is written inside the given quotes. -/
def quotedChar (quote c : Char) : List Char :=
  match shortEscape? quote c with
  | some e => e
  | none =>
    if isPrintable c then [c] else numbered c

/-- A text in quotes. -/
def quoted (s : List Char) : List Char :=
  let quote := quoteFor s
  quote :: s.flatMap (quotedChar quote) ++ [quote]

/-- A byte as it is written inside the given quotes; only printable ASCII stands for itself. -/
def quotedByte (quote : Char) (b : UInt8) : List Char :=
  let c := Char.ofNat b.toNat
  match shortEscape? quote c with
  | some e => e
  | none =>
    if 0x20 ≤ b.toNat ∧ b.toNat < 0x7F then [c] else backslash :: 'x' :: hexadecimal 2 b.toNat

/-- Bytes in quotes, marked by a letter in front. -/
def quotedBytes (bs : List UInt8) : List Char :=
  let quote := quoteFor (bs.map fun b => Char.ofNat b.toNat)
  'b' :: quote :: bs.flatMap (quotedByte quote) ++ [quote]

end EventHub.Text
