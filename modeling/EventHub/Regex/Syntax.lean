/-! # Regular expressions

The part of the language of expressions that is read here: characters and classes, anchors, groups without
names, alternatives, repetitions and looking ahead. Named groups, references back to a group, looking behind,
modes for a part of an expression, comments, conditions, and atomic groups and repetitions are not read.

Only whether an expression matches is ever asked, never where or what its groups hold, so groups leave no trace
and greedy and lazy repetition are one.
-/

namespace EventHub

namespace Regex

/-- A named set of characters. -/
inductive CharKind where
  | digit
  | word
  | blank
deriving DecidableEq, Repr

/-- A member of a character class. -/
inductive ClassItem where
  | range (first last : Char)
  | kind (k : CharKind) (negated : Bool)
deriving DecidableEq, Repr

/-- A character class: the characters of its members, or all others. -/
structure CharClass where
  negated : Bool
  items : List ClassItem
deriving DecidableEq, Repr

/-- A condition on a position that takes no character. -/
inductive Anchor where
  | lineStart
  | lineEnd
  | textStart
  | textEnd
  | wordEdge
  | wordInterior
deriving DecidableEq, Repr

/-- How an expression is to be read. The modes `template` and `debug` and the bits from 512 on, which name no
mode, change nothing about what it matches. -/
structure Modes where
  ignoreCase : Bool := false
  multiLine : Bool := false
  dotAll : Bool := false
  verbose : Bool := false
  ascii : Bool := false
  template : Bool := false
  debug : Bool := false
  beyond : Nat := 0
deriving DecidableEq, Repr

/-- The modes as a number, a bit for each; expressions not limited to ASCII carry the bit 32. -/
def Modes.bits (m : Modes) : Nat :=
  m.template.toNat + 2 * m.ignoreCase.toNat + 8 * m.multiLine.toNat + 16 * m.dotAll.toNat
    + (32 + 224 * m.ascii.toNat) + 64 * m.verbose.toNat + 128 * m.debug.toNat + 512 * m.beyond

end Regex

/-- A regular expression. A repetition has a least count and possibly a greatest one; `ahead` asks
whether its expression matches, or with `negated` does not match, from the position on. -/
inductive Regex where
  | empty
  | char (c : Char)
  | any
  | oneOf (cls : Regex.CharClass)
  | anchor (a : Regex.Anchor)
  | seq (first second : Regex)
  | either (left right : Regex)
  | repeated (least : Nat) (most : Option Nat) (body : Regex)
  | ahead (negated : Bool) (body : Regex)
deriving DecidableEq, Repr

namespace Regex

/-- The expressions of a list one after another. -/
def sequence (rs : List Regex) : Regex := rs.foldr .seq .empty

end Regex

end EventHub
