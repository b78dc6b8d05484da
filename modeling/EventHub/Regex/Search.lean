import EventHub.Regex.Syntax
import EventHub.Text.Blank
import EventHub.Text.Case
import EventHub.Text.Digit
import EventHub.Text.Word

/-! # Searching

An expression maps a set of positions of a text to the set of positions where a match that begins at
one of them may end. It occurs in the text when the positions of the whole text have an end.
-/

namespace EventHub.Regex

/-! ## Single characters -/

/-- Whether a character is in a named set. -/
def CharKind.contains (ascii : Bool) (k : CharKind) (c : Char) : Bool :=
  match k with
  | .digit => if ascii then '0' ≤ c && c ≤ '9' else Text.isDigit c
  | .word =>
    if ascii then c == '_' || ('0' ≤ c && c ≤ '9') || ('a' ≤ c && c ≤ 'z') || ('A' ≤ c && c ≤ 'Z')
    else Text.isWord c
  | .blank => if ascii then c == ' ' || (9 ≤ c.toNat && c.toNat ≤ 13) else Text.isBlank c

/-- The characters that count as the same as `c`. -/
def Modes.variants (m : Modes) (c : Char) : List Char :=
  if !m.ignoreCase then [c] else if m.ascii then Text.caseVariantsAscii c else Text.caseVariants c

/-- Whether a member of a class admits a character. -/
def ClassItem.admits (m : Modes) (c : Char) : ClassItem → Bool
  | .range first last => (m.variants c).any fun v => first ≤ v && v ≤ last
  | .kind k negated => k.contains m.ascii c != negated

/-- Whether a class admits a character. -/
def CharClass.admits (m : Modes) (cls : CharClass) (c : Char) : Bool :=
  cls.items.any (·.admits m c) != cls.negated

/-! ## Positions -/

/-- The positions behind those that hold a character with a property. -/
def after (text : Array Char) (p : Char → Bool) (positions : List Nat) : List Nat :=
  positions.filterMap fun i => if text[i]?.any p then some (i + 1) else none

/-- Whether the character before a position, and the one behind it, belong to a word. -/
def wordAround (m : Modes) (text : Array Char) (i : Nat) : Bool × Bool :=
  let word (c : Char) : Bool := CharKind.word.contains m.ascii c
  (i != 0 && text[i - 1]?.any word, text[i]?.any word)

/-- Whether a condition holds at a position. In an empty text there is neither an edge nor an
interior of a word. -/
def Anchor.holds (m : Modes) (text : Array Char) (i : Nat) : Anchor → Bool
  | .textStart => i = 0
  | .textEnd => i = text.size
  | .lineStart => i = 0 || (m.multiLine && text[i - 1]? = some '\n')
  | .lineEnd =>
    i = text.size || (text[i]? = some '\n' && (m.multiLine || i + 1 = text.size))
  | .wordEdge => text.size != 0 && (wordAround m text i).1 != (wordAround m text i).2
  | .wordInterior => text.size != 0 && (wordAround m text i).1 == (wordAround m text i).2

/-- The union of two sets of positions. -/
def union (s t : List Nat) : List Nat := s ++ t.filter fun i => !s.contains i

/-- The positions reached from a set in exactly `n` steps. -/
def steps (step : List Nat → List Nat) : Nat → List Nat → List Nat
  | 0, s => s
  | n + 1, s => steps step n (step s)

/-- The positions in `seen`, and those reached from `frontier` in at most `n` steps. A step is taken
only from positions that were not seen before. -/
def reach (step : List Nat → List Nat) : Nat → List Nat → List Nat → List Nat
  | 0, seen, _ => seen
  | n + 1, seen, frontier =>
    let fresh := (step frontier).filter fun i => !seen.contains i
    if fresh.isEmpty then seen else reach step n (seen ++ fresh) fresh

/-- How many steps beyond the least count can still reach a new position. -/
def extraSteps (text : Array Char) (least : Nat) : Option Nat → Nat
  | some most => min (most - least) (text.size + 1)
  | none => text.size + 1

/-! ## Matching -/

/-- The positions where matches that begin in a set of positions may end. -/
def ends (m : Modes) (text : Array Char) : Regex → List Nat → List Nat
  | .empty, s => s
  | .char c, s => after text (fun x => (m.variants x).contains c) s
  | .any, s => after text (fun x => m.dotAll || x != '\n') s
  | .oneOf cls, s => after text (cls.admits m) s
  | .anchor a, s => s.filter fun i => a.holds m text i
  | .seq first second, s => ends m text second (ends m text first s)
  | .either left right, s => union (ends m text left s) (ends m text right s)
  | .repeated least most body, s =>
    let t := steps (ends m text body) least s
    reach (ends m text body) (extraSteps text least most) t t
  | .ahead negated body, s => s.filter fun i => (ends m text body [i]).isEmpty = negated

/-- Whether an expression matches somewhere in a text. -/
def occurs (m : Modes) (r : Regex) (text : List Char) : Bool :=
  !(ends m text.toArray r (List.range (text.length + 1))).isEmpty

end EventHub.Regex
