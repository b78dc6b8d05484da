import EventHub.Pattern
import Mathlib.Data.List.Basic

/-! # How the expression of a wildcard is read

The expression text of a wildcard pattern is read back as a sequence with one item for each token of
the pattern, behind the anchor at the start (`compile?_expression`). Escaping keeps every literal
apart from what the stars are written as: a literal is read as one atom whatever stands behind it
(`read?_literal`), and no literal begins with a question mark that would change the star before it
(`head?_ne_question`).
-/

namespace EventHub.Wildcard

open Regex (CharClass ClassItem)

/-- The class of the characters that a lone star runs over. -/
def openClass : CharClass := ⟨true, separators.map fun c => .range c c⟩

/-- What the expression text of a token is read as. -/
def Token.regex : Token → Regex
  | .literal c => .char c
  | .star => .repeated 0 none (.oneOf openClass)
  | .globstar => .repeated 0 none .any

/-- The tokens of an expression that the expression text of a token is cut into. -/
def Token.pieces : Token → List Regex.Token
  | .literal c => [.atom (.char c)]
  | .star => [.atom (.oneOf openClass), .times 0 none]
  | .globstar => [.atom .any, .times 0 none]

/-! ## Cutting into tokens -/

theorem tokens?_nil : Regex.tokens? false [] = some [] := by
  rw [Regex.tokens?]

/-- A token is cut off, and what is behind it goes on as before. -/
theorem tokens?_cons {c : Char} {cs : List Char} {t : Regex.Token} {k : Nat}
    (h : Regex.Token.read? c cs = some (t, k)) :
    Regex.tokens? false (c :: cs) = (Regex.tokens? false (cs.drop k)).map (t :: ·) := by
  rw [Regex.tokens?]
  simp [h]

/-- A special character that is escaped stands for itself. -/
theorem read?_special {c : Char} (hc : c ∈ specials) (cs : List Char) :
    Regex.Token.read? '\\' (c :: cs) = some (.atom (.char c), 1) := by
  have hescape : Regex.readEscape? false c cs = some (.char c, 0) := by
    simp only [specials, List.mem_cons, List.not_mem_nil, or_false] at hc
    rcases hc with rfl | rfl | rfl | rfl | rfl | rfl | rfl | rfl | rfl | rfl | rfl | rfl | rfl | rfl
      | rfl | rfl | rfl | rfl | rfl | rfl | rfl | rfl | rfl | rfl <;> rfl
  simp [Regex.Token.read?, Regex.readTimes?, hescape]

theorem read?_ordinary {c : Char} (hc : c ∉ specials) (cs : List Char) :
    Regex.Token.read? c cs = some (.atom (.char c), 0) := by
  simp only [specials, List.mem_cons, List.not_mem_nil, or_false, not_or] at hc
  simp [Regex.Token.read?, Regex.readTimes?, hc]

/-- An escaped character is one atom, whatever stands behind it. -/
theorem read?_literal (c : Char) (cs : List Char) :
    Regex.tokens? false (escapeChar c ++ cs)
      = (Regex.tokens? false cs).map (.atom (.char c) :: ·) := by
  by_cases hc : c ∈ specials
  · have htext : escapeChar c ++ cs = '\\' :: c :: cs := by simp [escapeChar, hc]
    rw [htext, tokens?_cons (read?_special hc cs)]
    rfl
  · have htext : escapeChar c ++ cs = c :: cs := by simp [escapeChar, hc]
    rw [htext, tokens?_cons (read?_ordinary hc cs)]
    rfl

theorem readClass?_separators (cs : List Char) :
    Regex.readClass? ('^' :: (escape separators ++ (']' :: cs))) = some (openClass, 12) := by
  simp [Regex.readClass?, escape, separators, escapeChar, specials, Regex.readItems?, Regex.readMember?,
    Regex.readEscape?, Regex.letterEscape?, Regex.isAsciiAlphanumeric, openClass]

theorem read?_times {cs : List Char} (h : cs.head? ≠ some '?') :
    Regex.Token.read? '*' cs = some (.times 0 none, 0) := by
  simp [Regex.Token.read?, Regex.readTimes?, h]

theorem read?_class (cs : List Char) :
    Regex.Token.read? '[' ('^' :: (escape separators ++ (']' :: cs)))
      = some (.atom (.oneOf openClass), 12) := by
  simp [Regex.Token.read?, Regex.readTimes?, readClass?_separators]

/-- No text of a token begins with a question mark. -/
theorem head?_ne_question (ts : List Token) :
    (ts.flatMap Token.expression).head? ≠ some '?' := by
  cases ts with
  | nil => simp
  | cons t ts =>
      cases t with
      | literal c =>
          by_cases hc : c ∈ specials
          · simp [Token.expression, escapeChar, hc]
          · -- the question mark is special, so that it would be escaped
            have hne : c ≠ '?' := by
              rintro rfl
              exact hc (by decide)
            simp [Token.expression, escapeChar, hc, hne]
      | star => simp [Token.expression]
      | globstar => simp [Token.expression]

/-- The text of tokens is cut into their pieces. -/
theorem tokens?_expression (ts : List Token) :
    Regex.tokens? false (ts.flatMap Token.expression) = some (ts.flatMap Token.pieces) := by
  induction ts with
  | nil => exact tokens?_nil
  | cons t ts ih =>
      -- what stands behind a star does not change it
      have htimes := read?_times (head?_ne_question ts)
      cases t with
      | literal c =>
          simp only [List.flatMap_cons, Token.expression, Token.pieces]
          rw [read?_literal, ih]
          rfl
      | star =>
          have htext : (Token.star :: ts).flatMap Token.expression
              = '[' :: '^' :: (escape separators ++ (']' :: '*' :: ts.flatMap Token.expression)) := by
            simp [Token.expression]
          have hdrop : ('^' :: (escape separators ++ (']' :: '*' :: ts.flatMap Token.expression))).drop 12
              = '*' :: ts.flatMap Token.expression := by
            rfl
          rw [htext, tokens?_cons (read?_class _), hdrop, tokens?_cons htimes]
          simp [ih, Token.pieces]
      | globstar =>
          have hdot : Regex.Token.read? '.' ('*' :: ts.flatMap Token.expression)
              = some (.atom .any, 0) := by
            simp [Regex.Token.read?, Regex.readTimes?]
          have htext : (Token.globstar :: ts).flatMap Token.expression
              = '.' :: '*' :: ts.flatMap Token.expression := by
            simp [Token.expression]
          rw [htext, tokens?_cons hdot, List.drop_zero, tokens?_cons htimes]
          simp [ih, Token.pieces]

/-! ## Putting the tokens together -/

/-- The item that a token adds to the open group. -/
def Token.item : Token → Regex.Item
  | .literal c => ⟨.char c, true⟩
  | .star => ⟨.repeated 0 none (.oneOf openClass), false⟩
  | .globstar => ⟨.repeated 0 none .any, false⟩

theorem item_body (t : Token) : t.item.body = t.regex := by
  cases t <;> rfl

theorem readToken?_pieces (t : Token) (items : List Regex.Item) :
    t.pieces.foldlM Regex.readToken? [⟨.plain, [], items⟩] = some [⟨.plain, [], t.item :: items⟩] := by
  cases t <;> rfl

/-- The pieces of tokens add their items one after another. -/
theorem readTokens?_pieces (ts : List Token) (items : List Regex.Item) :
    (ts.flatMap Token.pieces).foldlM Regex.readToken? [⟨.plain, [], items⟩]
      = some [⟨.plain, [], (ts.map Token.item).reverse ++ items⟩] := by
  induction ts generalizing items with
  | nil => rfl
  | cons t ts ih =>
      rw [List.flatMap_cons, List.foldlM_append, readToken?_pieces]
      simp [ih]

/-- What the expression of a wildcard stands for. -/
def meaning (ts : List Token) : Regex :=
  .seq (.anchor .lineStart) (Regex.sequence (ts.map Token.regex))

/-- The pieces are put together to what the tokens stand for. -/
theorem ofTokens?_pieces (ts : List Token) :
    Regex.ofTokens? (.atom (.anchor .lineStart) :: ts.flatMap Token.pieces) = some (meaning ts) := by
  have hanchor : Regex.readToken? [Regex.Group.begin .plain] (.atom (.anchor .lineStart))
      = some [⟨.plain, [], [⟨.anchor .lineStart, false⟩]⟩] := rfl
  have hbody : (ts.map Token.item).map (·.body) = ts.map Token.regex := by
    simp [Function.comp_def, item_body]
  simp only [Regex.ofTokens?, List.foldlM_cons, hanchor, Option.bind_eq_bind, Option.bind_some,
    readTokens?_pieces]
  simp [Regex.Group.body, Regex.Group.current, Regex.sequence, meaning, ← hbody]

/-- **The expression of a wildcard is read as what its tokens stand for.** -/
theorem compile?_expression (source : List Char) :
    Expression.compile? (String.ofList (expression source)) {}
      = some ⟨String.ofList (expression source), {},
          fun name => Regex.occurs {} (meaning (tokens source)) name.toList⟩ := by
  have hmodes : Regex.leadingModes? {} (expression source) = some ({}, expression source) := by
    rw [expression, Regex.leadingModes?]
    simp
  have hanchor : Regex.Token.read? '^' ((tokens source).flatMap Token.expression)
      = some (.atom (.anchor .lineStart), 0) := by
    simp [Regex.Token.read?, Regex.readTimes?]
  have htokens : Regex.tokens? false (expression source)
      = some (.atom (.anchor .lineStart) :: (tokens source).flatMap Token.pieces) := by
    rw [expression, tokens?_cons hanchor, List.drop_zero, tokens?_expression]
    rfl
  simp only [Expression.compile?, Regex.read?, String.toList_ofList, hmodes, htokens, Option.bind_some,
    ofTokens?_pieces, Option.map_some]

end EventHub.Wildcard
