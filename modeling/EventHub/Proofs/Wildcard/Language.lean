import EventHub.Proofs.Regex.Positions
import EventHub.Proofs.Wildcard.Reading
import Mathlib.Data.List.Forall2

/-! # The language of a wildcard

A wildcard pattern is read from left to right as double stars, lone stars and literal characters. It
accepts an event name when some prefix of the name is cut into one piece for each of them.

Main statement: `compile_wildcard_language`. A wildcard pattern is refused exactly when it has three
stars in a row, and otherwise its matcher accepts exactly the names of its language.
-/

namespace EventHub.Wildcard

open Regex (CharClass ClassItem Modes TakesOne ends mem_ends_one mem_ends_star)

/-- The reading of a pattern from left to right. A star is a lone one when no star follows it. -/
inductive Reads : List Char → List Token → Prop
  | nil : Reads [] []
  | globstar {cs : List Char} {ts : List Token} : Reads cs ts →
      Reads ('*' :: '*' :: cs) (.globstar :: ts)
  | star {cs : List Char} {ts : List Token} : cs.head? ≠ some '*' → Reads cs ts →
      Reads ('*' :: cs) (.star :: ts)
  | literal {c : Char} {cs : List Char} {ts : List Token} : c ≠ '*' → Reads cs ts →
      Reads (c :: cs) (.literal c :: ts)

/-- The characters that a token can take of a name. A lone star runs over everything but separators, a
double star over everything but the end of a line. -/
def Token.Takes : Token → List Char → Prop
  | .literal c, piece => piece = [c]
  | .star, piece => ∀ x ∈ piece, x ∉ separators
  | .globstar, piece => ∀ x ∈ piece, x ≠ '\n'

/-- Some prefix of a name is cut into one piece for each token. -/
def Accepts (ts : List Token) (name : List Char) : Prop :=
  ∃ pieces : List (List Char), List.Forall₂ Token.Takes ts pieces ∧ pieces.flatten <+: name

/-! ## Reading a pattern -/

/-- What is read is a reading. -/
theorem reads_tokens (cs : List Char) : Reads cs (tokens cs) := by
  fun_induction tokens cs with
  | case1 cs ih => exact .globstar ih
  | case2 cs hstar ih =>
      refine .star ?_ ih
      cases cs with
      | nil => simp
      | cons c cs =>
          intro hc
          exact hstar cs (by simpa using hc)
  | case3 c cs _ hc ih => exact .literal (fun e => hc e) ih
  | case4 => exact .nil

/-- A pattern has one reading. -/
theorem reads_iff (cs : List Char) (ts : List Token) : Reads cs ts ↔ ts = tokens cs := by
  refine ⟨fun h => ?_, fun h => h ▸ reads_tokens cs⟩
  -- the reading is the one that is computed, step by step
  induction h with
  | nil => rfl
  | globstar _ ih => rw [tokens, ← ih]
  | @star cs ts hcs _ ih =>
      cases cs with
      | nil => rw [ih]; rfl
      | cons c cs =>
          have hc : c ≠ '*' := by simpa using hcs
          rw [ih, tokens]
          simp [hc]
  | literal hc _ ih =>
      rw [ih, tokens]
      · simp [hc]
      · simp [hc]

/-- The check for three stars in a row looks for them anywhere. -/
theorem isMalformed_iff (cs : List Char) : isMalformed cs = true ↔ ['*', '*', '*'] <:+: cs := by
  fun_induction isMalformed cs with
  | case1 cs => simp only [true_iff]; exact ⟨[], cs, rfl⟩
  | case2 c cs hstars ih =>
      rw [ih, List.infix_cons_iff]
      constructor
      · exact Or.inr
      · rintro (⟨rest, hrest⟩ | h)
        · simp only [List.cons_append, List.nil_append, List.cons.injEq] at hrest
          obtain ⟨rfl, rfl⟩ := hrest
          exact absurd rfl (hstars rest rfl)
        · exact h
  | case3 => simp

/-! ## Searching with the expression of a pattern -/

theorem takesOne_char (text : List Char) (c : Char) :
    TakesOne {} text (.char c) (fun x => decide (c = x)) := by
  intro s
  simp [ends, Modes.variants]

theorem takesOne_any (text : List Char) : TakesOne {} text .any (· != '\n') := by
  intro s
  simp [ends]

/-- The class of a lone star takes all but separators. -/
theorem admits_openClass (c : Char) : openClass.admits {} c = !separators.contains c := by
  have hrange : ∀ d : Char, (decide (d ≤ c) && decide (c ≤ d)) = decide (c = d) := by
    intro d
    rw [Bool.eq_iff_iff]
    simp only [Bool.and_eq_true, decide_eq_true_eq]
    constructor
    · rintro ⟨h1, h2⟩
      exact Char.le_antisymm h2 h1
    · rintro rfl
      exact ⟨Char.le_refl _, Char.le_refl _⟩
  simp [CharClass.admits, openClass, ClassItem.admits, Modes.variants, hrange, separators]

/-- So the class takes one such character. -/
theorem takesOne_openClass (text : List Char) :
    TakesOne {} text (.oneOf openClass) (fun c => !separators.contains c) := by
  intro s
  simp only [ends]
  congr 1
  funext c
  exact admits_openClass c

/-- One token: the positions behind the pieces that it can take. -/
theorem mem_ends_token (text : List Char) (t : Token) (s : List Nat) (j : Nat) :
    j ∈ ends {} text.toArray t.regex s ↔
      ∃ i ∈ s, ∃ piece, t.Takes piece ∧ piece <+: text.drop i ∧ j = i + piece.length := by
  cases t with
  | literal c =>
      rw [Token.regex, mem_ends_one (takesOne_char text c)]
      refine exists_congr fun i => and_congr_right fun _ => ?_
      constructor
      · rintro ⟨x, hpre, hx, hj⟩
        obtain rfl : c = x := by simpa using hx
        exact ⟨[c], rfl, hpre, hj⟩
      · rintro ⟨piece, rfl, hpre, hj⟩
        exact ⟨c, hpre, by simp, hj⟩
  | star =>
      -- a run of characters that are no separators
      rw [Token.regex, mem_ends_star (takesOne_openClass text)]
      refine exists_congr fun i => and_congr_right fun _ => exists_congr fun piece => ?_
      simp [Token.Takes]
      tauto
  | globstar =>
      -- a run of characters other than line feeds
      rw [Token.regex, mem_ends_star (takesOne_any text)]
      refine exists_congr fun i => and_congr_right fun _ => exists_congr fun piece => ?_
      simp [Token.Takes]
      tauto

/-- A list of tokens: the pieces lie one behind another. -/
theorem mem_ends_sequence (text : List Char) (ts : List Token) (s : List Nat) (j : Nat) :
    j ∈ ends {} text.toArray (Regex.sequence (ts.map Token.regex)) s ↔
      ∃ i ∈ s, ∃ pieces, List.Forall₂ Token.Takes ts pieces ∧ pieces.flatten <+: text.drop i
        ∧ j = i + pieces.flatten.length := by
  induction ts generalizing s with
  | nil =>
      simp [Regex.sequence, ends]
  | cons t ts ih =>
      have hseq : Regex.sequence ((t :: ts).map Token.regex)
          = .seq t.regex (Regex.sequence (ts.map Token.regex)) := rfl
      rw [hseq, ends, ih]
      constructor
      · -- the first piece ends where the others begin
        rintro ⟨k, hk, pieces, hall, hpre, rfl⟩
        obtain ⟨i, hi, piece, htakes, ⟨rest, hrest⟩, rfl⟩ := (mem_ends_token text t s k).mp hk
        refine ⟨i, hi, piece :: pieces, .cons htakes hall, ?_, by simp; omega⟩
        have hdrop : text.drop (i + piece.length) = rest := by
          rw [← List.drop_drop, ← hrest, List.drop_left]
        rw [hdrop] at hpre
        rw [List.flatten_cons, ← hrest]
        exact (List.prefix_append_right_inj piece).mpr hpre
      · -- the first piece and the others are cut from a prefix of the name
        rintro ⟨i, hi, pieces, hall, hpre, rfl⟩
        cases hall with
        | @cons _ piece _ pieces htakes hall =>
            rw [List.flatten_cons] at hpre
            obtain ⟨rest, hrest⟩ := hpre
            refine ⟨i + piece.length, ?_, pieces, hall, ?_, by simp; omega⟩
            · refine (mem_ends_token text t s _).mpr ⟨i, hi, piece, htakes, ?_, rfl⟩
              rw [← hrest, List.append_assoc]
              exact List.prefix_append _ _
            · rw [← List.drop_drop, ← hrest, List.append_assoc, List.drop_left]
              exact List.prefix_append _ _

/-- The expression of a pattern occurs in a name exactly when the pattern accepts the name: the anchor
leaves no position but the first. -/
theorem occurs_meaning (ts : List Token) (name : List Char) :
    Regex.occurs {} (meaning ts) name = true ↔ Accepts ts name := by
  -- the anchor leaves the start of the name only
  have hstart : ∀ i, i ∈ ends {} name.toArray (.anchor .lineStart) (List.range (name.length + 1))
      ↔ i = 0 := by
    intro i
    simp only [ends, List.mem_filter, List.mem_range, Regex.Anchor.holds]
    constructor
    · rintro ⟨-, h⟩
      simpa using h
    · rintro rfl
      simp
  have hends : ∀ j, j ∈ ends {} name.toArray (meaning ts) (List.range (name.length + 1)) ↔
      ∃ pieces, List.Forall₂ Token.Takes ts pieces ∧ pieces.flatten <+: name
        ∧ j = pieces.flatten.length := by
    intro j
    rw [meaning, ends, mem_ends_sequence]
    constructor
    · rintro ⟨i, hi, pieces, hall, hpre, hj⟩
      obtain rfl := (hstart i).mp hi
      exact ⟨pieces, hall, by simpa using hpre, by omega⟩
    · rintro ⟨pieces, hall, hpre, hj⟩
      exact ⟨0, (hstart 0).mpr rfl, pieces, hall, by simpa using hpre, by omega⟩
  rw [Regex.occurs, Bool.not_eq_true', List.isEmpty_eq_false_iff_exists_mem]
  constructor
  · rintro ⟨j, hj⟩
    obtain ⟨pieces, hall, hpre, -⟩ := (hends j).mp hj
    exact ⟨pieces, hall, hpre⟩
  · rintro ⟨pieces, hall, hpre⟩
    exact ⟨_, (hends _).mpr ⟨pieces, hall, hpre, rfl⟩⟩

/-! ## Compiling a pattern -/

theorem compileWildcard?_malformed {w : String} (h : ['*', '*', '*'] <:+: w.toList) :
    Pattern.compileWildcard? w = .error (.tripleStar w) := by
  have hmal : isMalformed w.toList = true := (isMalformed_iff _).mpr h
  simp [Pattern.compileWildcard?, Pattern.wildcardExpression?, hmal]

/-- Any other pattern is compiled to the search for its expression. -/
theorem compileWildcard?_wellFormed {w : String} (h : ¬ ['*', '*', '*'] <:+: w.toList) :
    Pattern.compileWildcard? w = .ok ⟨.wildcard, w,
      ⟨String.ofList (expression w.toList), {},
        fun name => Regex.occurs {} (meaning (tokens w.toList)) name.toList⟩⟩ := by
  have hmal : isMalformed w.toList = false := by
    rw [Bool.eq_false_iff]
    exact fun e => h ((isMalformed_iff _).mp e)
  simp [Pattern.compileWildcard?, Pattern.wildcardExpression?, hmal, compile?_expression]

/-- **The language of a wildcard.** A wildcard text is refused, for its stars, exactly when it has three
stars in a row. Every other text has one reading and is compiled, and its matcher accepts exactly the
names that begin with one piece for each token of the reading. -/
theorem compile_wildcard_language (w : String) :
    (['*', '*', '*'] <:+: w.toList ∧
        Pattern.compile? (.plain (.text w)) = .error (.tripleStar w)) ∨
      (¬ ['*', '*', '*'] <:+: w.toList ∧ ∃ m ts,
        Pattern.compile? (.plain (.text w)) = .ok m ∧ m.kind = .wildcard ∧ m.source = w ∧
        (∀ reading, Reads w.toList reading ↔ reading = ts) ∧
        ∀ name : String, m.test name = true ↔ Accepts ts name.toList) := by
  have hcompile : Pattern.compile? (.plain (.text w)) = Pattern.compileWildcard? w := rfl
  rw [hcompile]
  by_cases h : ['*', '*', '*'] <:+: w.toList
  · exact Or.inl ⟨h, compileWildcard?_malformed h⟩
  · refine Or.inr ⟨h, _, _, compileWildcard?_wellFormed h, rfl, rfl, reads_iff _, ?_⟩
    intro name
    exact occurs_meaning _ _

end EventHub.Wildcard
