/-! # Wildcard patterns

A wildcard pattern is literal text with stars in it. A lone star stands for a run of characters that
are no separators, a double star for any run of characters within a line. The pattern is given its
meaning by an expression, anchored at the start of the name only, in which literal characters are
escaped. Three stars in a row are refused.
-/

namespace EventHub.Wildcard

/-- A piece of a pattern. -/
inductive Token where
  | literal (c : Char)
  | star
  | globstar
deriving DecidableEq, Repr

/-- The characters that a lone star does not run over. -/
def separators : List Char := [':', '/', '.', '?', '_', '&', ';']

/-- Whether a pattern has three stars in a row. -/
def isMalformed : List Char → Bool
  | '*' :: '*' :: '*' :: _ => true
  | _ :: cs => isMalformed cs
  | [] => false

/-- The pieces of a pattern from left to right; two stars in a row are one piece. -/
def tokens : List Char → List Token
  | '*' :: '*' :: cs => .globstar :: tokens cs
  | '*' :: cs => .star :: tokens cs
  | c :: cs => .literal c :: tokens cs
  | [] => []

/-- The characters that mean something in an expression or are layout there, and so are escaped. -/
def specials : List Char :=
  ['(', ')', '[', ']', Char.ofNat 123, Char.ofNat 125, '?', '*', '+', '-', '|', '^', '$', '\\', '.',
    '&', '~', '#', ' ', '\t', '\n', '\r', Char.ofNat 11, Char.ofNat 12]

/-- A character written so that it stands for itself in an expression. -/
def escapeChar (c : Char) : List Char := if specials.contains c then ['\\', c] else [c]

/-- Text written so that it stands for itself in an expression. -/
def escape (cs : List Char) : List Char := cs.flatMap escapeChar

/-- The expression text of one piece. -/
def Token.expression : Token → List Char
  | .literal c => escapeChar c
  | .star => ['[', '^'] ++ escape separators ++ [']', '*']
  | .globstar => ['.', '*']

/-- The expression text of a pattern. -/
def expression (source : List Char) : List Char := '^' :: (tokens source).flatMap Token.expression

end EventHub.Wildcard
