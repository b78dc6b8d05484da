import EventHub.Regex.Reader
import EventHub.Regex.Search

/-! # Compiled expressions

A compiled expression keeps its written form and the modes in force beside the test of names. Modes may be given,
or written at the start of the text, as in `(?i)abc`. The expressions that are read here are compiled by
`Expression.compile?`; others come with a test of their own.
-/

namespace EventHub

namespace Regex

/-- A mode switched on by its letter. -/
def Modes.withLetter? (m : Modes) (c : Char) : Option Modes :=
  match c with
  | 'i' => some { m with ignoreCase := true }
  | 'm' => some { m with multiLine := true }
  | 's' => some { m with dotAll := true }
  | 'x' => some { m with verbose := true }
  | 'a' => some { m with ascii := true }
  | 'u' => some m
  | _ => none

/-- Modes with those of some letters switched on. -/
def Modes.withLetters? (m : Modes) (letters : List Char) : Option Modes :=
  letters.foldlM Modes.withLetter? m

/-- The modes switched on at the start of a text, and the text behind them. -/
def leadingModes? (m : Modes) (text : List Char) : Option (Modes × List Char) :=
  match text with
  | '(' :: '?' :: rest =>
    let letters := rest.takeWhile fun c => c.isAlpha
    match rest.drop letters.length with
    | ')' :: _ =>
      if letters.isEmpty then some (m, text)
      else
        match m.withLetters? letters with
        | some m => leadingModes? m (rest.drop (letters.length + 1))
        | none => none
    | _ => some (m, text)
  | _ => some (m, text)
termination_by text.length
decreasing_by simp only [List.length_cons, List.length_drop]; omega

/-- The modes in force and what the text of an expression stands for, read in the given modes. -/
def read? (text : List Char) (given : Modes) : Option (Modes × Regex) :=
  match leadingModes? given text with
  | none => none
  | some (m, text) => ((tokens? m.verbose text).bind ofTokens?).map fun r => (m, r)

end Regex

/-- A compiled expression: its text as written, the modes in force, and the names that it matches in. -/
structure Expression where
  source : String
  modes : Regex.Modes
  test : String → Bool

/-- Compiles an expression in the given modes. -/
def Expression.compile? (source : String) (modes : Regex.Modes) : Option Expression :=
  (Regex.read? source.toList modes).map fun (m, r) => ⟨source, m, fun name => Regex.occurs m r name.toList⟩

end EventHub
