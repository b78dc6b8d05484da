import EventHub.Text.Ranges

/-! # White space

The characters that count as white space in every script, among them the four information
separators U+001C to U+001F, the next-line control U+0085 and the no-break space U+00A0, but not the
zero-width space U+200B.
-/

namespace EventHub.Text

/-- The code points of white space. -/
def blankRanges : Ranges := [
  (0x9, 0xD), (0x1C, 0x20), (0x85, 0x85), (0xA0, 0xA0), (0x1680, 0x1680), (0x2000, 0x200A),
  (0x2028, 0x2029), (0x202F, 0x202F), (0x205F, 0x205F), (0x3000, 0x3000)]

/-- Whether a character is white space. -/
def isBlank (c : Char) : Bool := blankRanges.contains c

/-- A text without the white space at its start. -/
def trimStart (s : List Char) : List Char := s.dropWhile isBlank

/-- A text without the white space at its end. -/
def trimEnd (s : List Char) : List Char := (s.reverse.dropWhile isBlank).reverse

/-- A text without the white space around it. -/
def trim (s : List Char) : List Char := trimEnd (trimStart s)

end EventHub.Text
