import EventHub.Proofs.Wildcard.Language

/-! # Widening a star

A lone star of a pattern is widened to a double star. Neither star takes whatever the other one takes: a
double star takes separators too, but no end of a line, which a lone star does take.

Main statements: `globstar_widens`, by which the widened pattern accepts each name that the pattern accepts
with a piece for its star that holds no end of a line, and so all such names without an end of a line; and
`globstar_stops_at_line_end`, by which it does not accept all others.
-/

namespace EventHub.Wildcard

/-- A lone star of a pattern: what stands before it and behind it. -/
structure LoneStar (w : String) where
  before : List Char
  behind : List Char
  text : w.toList = before ++ '*' :: behind
  alone_before : before.getLast? ≠ some '*'
  alone_behind : behind.head? ≠ some '*'

namespace LoneStar

variable {w : String} (p : LoneStar w)

/-- The pattern with a double star in place of the lone one. -/
def widened : String := String.ofList (p.before ++ '*' :: '*' :: p.behind)

/-- Some prefix of a name fits the pattern in such a way that the star takes the given piece. -/
def Fits (name piece : List Char) : Prop :=
  Token.star.Takes piece ∧ ∃ front back,
    List.Forall₂ Token.Takes (tokens p.before) front ∧ List.Forall₂ Token.Takes (tokens p.behind) back ∧
      front.flatten ++ (piece ++ back.flatten) <+: name

end LoneStar

/-! ## Patterns in two parts -/

/-- The end of a text is that of what is behind its first character. -/
theorem getLast?_ne_of_cons {c x : Char} {cs : List Char} (h : (c :: cs).getLast? ≠ some x) :
    cs.getLast? ≠ some x := by
  cases cs with
  | nil => simp
  | cons d cs => rwa [List.getLast?_cons_cons] at h

/-- No token goes across the end of a part that does not end with a star. -/
theorem tokens_append {cs : List Char} (h : cs.getLast? ≠ some '*') (ds : List Char) :
    tokens (cs ++ ds) = tokens cs ++ tokens ds := by
  fun_induction tokens cs with
  | case1 cs ih =>
      rw [List.cons_append, List.cons_append, tokens,
        ih (getLast?_ne_of_cons (getLast?_ne_of_cons h)), List.cons_append]
  | case2 cs hstar ih =>
      have hrest := ih (getLast?_ne_of_cons h)
      cases cs with
      | nil => simp at h
      | cons c cs =>
          have hc : c ≠ '*' := fun e => hstar cs (by rw [e])
          rw [List.cons_append, List.cons_append, tokens, ← List.cons_append, hrest, List.cons_append]
          simp [hc]
  | case3 c cs _ hc ih =>
      rw [List.cons_append, tokens, ih (getLast?_ne_of_cons h), List.cons_append]
      · exact fun _ e => absurd e hc
      · exact hc
  | case4 => rfl

/-- No three stars go across the end of a part that does not end with a star. -/
theorem isMalformed_append {cs : List Char} (h : cs.getLast? ≠ some '*') (ds : List Char) :
    isMalformed (cs ++ ds) = (isMalformed cs || isMalformed ds) := by
  fun_induction isMalformed cs with
  | case1 cs => simp [isMalformed]
  | case2 c cs hstars ih =>
      rw [List.cons_append, isMalformed, ih (getLast?_ne_of_cons h)]
      -- the first three characters are all of the first part, or it ends with a star
      intro rest hc hrest
      match cs, hrest with
      | [], _ => simp [hc] at h
      | [d], hrest =>
          obtain rfl : d = '*' := by simpa using (List.cons.inj hrest).1
          simp at h
      | d :: e :: cs, hrest =>
          simp only [List.cons_append, List.cons.injEq] at hrest
          obtain ⟨rfl, rfl, -⟩ := hrest
          exact hstars cs hc rfl
  | case3 => simp

/-- The pieces before a token, its own, and those behind it. -/
theorem accepts_append_cons (ts : List Token) (t : Token) (us : List Token) (name : List Char) :
    Accepts (ts ++ t :: us) name ↔ ∃ piece, t.Takes piece ∧ ∃ front back,
      List.Forall₂ Token.Takes ts front ∧ List.Forall₂ Token.Takes us back ∧
        front.flatten ++ (piece ++ back.flatten) <+: name := by
  constructor
  · rintro ⟨pieces, hall, hpre⟩
    have hfront := List.forall₂_take_append pieces ts (t :: us) hall.flip
    have hrest := List.forall₂_drop_append pieces ts (t :: us) hall.flip
    obtain ⟨piece, back, hpiece, hback, hpieces⟩ := List.forall₂_cons_right_iff.mp hrest
    refine ⟨piece, hpiece, _, back, hfront.flip, hback.flip, ?_⟩
    rw [← List.flatten_cons, ← hpieces, ← List.flatten_append, List.take_append_drop]
    exact hpre
  · rintro ⟨piece, hpiece, front, back, hfront, hback, hpre⟩
    refine ⟨front ++ piece :: back, List.rel_append hfront (.cons hpiece hback), ?_⟩
    rwa [List.flatten_append, List.flatten_cons]

/-! ## Widening -/

namespace LoneStar

variable {w : String} (p : LoneStar w)

/-- The pattern is read as what is before the star, the star, and what is behind it. -/
theorem tokens_text : tokens w.toList = tokens p.before ++ .star :: tokens p.behind := by
  rw [p.text, tokens_append p.alone_before]
  have halone := p.alone_behind
  cases hbehind : p.behind with
  | nil => rfl
  | cons c cs =>
      rw [tokens]
      simpa [hbehind] using halone

theorem tokens_widened : tokens p.widened.toList = tokens p.before ++ .globstar :: tokens p.behind := by
  rw [widened, String.toList_ofList, tokens_append p.alone_before, tokens]

/-- One star or two before something that begins with none do not make three. -/
theorem isMalformed_star (cs : List Char) (h : cs.head? ≠ some '*') :
    isMalformed ('*' :: cs) = isMalformed cs ∧ isMalformed ('*' :: '*' :: cs) = isMalformed cs := by
  cases cs with
  | nil => exact ⟨rfl, rfl⟩
  | cons c cs =>
      have hc : c ≠ '*' := by simpa using h
      constructor <;> simp [isMalformed, hc]

theorem isMalformed_widened : isMalformed p.widened.toList = isMalformed w.toList := by
  obtain ⟨hone, htwo⟩ := isMalformed_star p.behind p.alone_behind
  rw [widened, String.toList_ofList, p.text, isMalformed_append p.alone_before,
    isMalformed_append p.alone_before, hone, htwo]

/-- The names that the pattern accepts, by the pieces that its star takes. -/
theorem accepts_text (name : List Char) :
    Accepts (tokens w.toList) name ↔ ∃ piece, p.Fits name piece := by
  rw [p.tokens_text]
  exact accepts_append_cons ..

/-- A double star takes every piece of a lone star that holds no end of a line. -/
theorem accepts_widened {name piece : List Char} (h : p.Fits name piece) (hline : '\n' ∉ piece) :
    Accepts (tokens p.widened.toList) name := by
  obtain ⟨-, hparts⟩ := h
  rw [p.tokens_widened]
  refine (accepts_append_cons ..).mpr ⟨piece, fun x hx e => ?_, hparts⟩
  exact hline (e ▸ hx)

theorem piece_subset {name piece : List Char} (h : p.Fits name piece) : piece ⊆ name := by
  obtain ⟨-, front, back, -, -, hpre⟩ := h
  intro x hx
  exact hpre.subset (List.mem_append_right _ (List.mem_append_left _ hx))

end LoneStar

/-- **A double star is at least as permissive as a lone one, within a line.** If a wildcard text is
accepted, it is also accepted with one of its lone stars replaced by a double star. The widened pattern
accepts each name of which a prefix fits the pattern so that the star takes no end of a line; so that each
name without an end of a line is accepted by the widened pattern if it is accepted by the pattern. -/
theorem globstar_widens {w : String} (p : LoneStar w) {m : Matcher}
    (h : Pattern.compile? (.plain (.text w)) = .ok m) :
    ∃ m', Pattern.compile? (.plain (.text p.widened)) = .ok m' ∧
      (∀ name : String, m.test name = true ↔ ∃ piece, p.Fits name.toList piece) ∧
      (∀ (name : String) (piece : List Char), p.Fits name.toList piece → '\n' ∉ piece →
        m'.test name = true) ∧
      ∀ name : String, '\n' ∉ name.toList → m.test name = true → m'.test name = true := by
  have hcompile : Pattern.compileWildcard? w = .ok m := h
  have hw : ¬ ['*', '*', '*'] <:+: w.toList := by
    intro hstars
    rw [compileWildcard?_malformed hstars] at hcompile
    cases hcompile
  have hwidened : ¬ ['*', '*', '*'] <:+: p.widened.toList := by
    rw [← isMalformed_iff, p.isMalformed_widened, isMalformed_iff]
    exact hw
  rw [compileWildcard?_wellFormed hw] at hcompile
  cases hcompile
  have haccepts : ∀ name : String, _ ↔ ∃ piece, p.Fits name.toList piece := fun name =>
    (occurs_meaning (tokens w.toList) name.toList).trans (p.accepts_text name.toList)
  have hwider : ∀ (name : String) (piece : List Char), p.Fits name.toList piece → '\n' ∉ piece → _ :=
    fun name piece hfits hline =>
      (occurs_meaning (tokens p.widened.toList) name.toList).mpr (p.accepts_widened hfits hline)
  refine ⟨_, compileWildcard?_wellFormed hwidened, haccepts, hwider, fun name hname hm => ?_⟩
  obtain ⟨piece, hfits⟩ := (haccepts name).mp hm
  exact hwider name piece hfits fun hline => hname (p.piece_subset hfits hline)

/-- The lone star of a pattern between two letters. -/
def starBetween : LoneStar "a*b" where
  before := ['a']
  behind := ['b']
  text := by decide
  alone_before := by decide
  alone_behind := by decide

/-- The end of a line behind what is accepted does not matter, as the piece of the star does not hold it. -/
theorem globstar_widens_between :
    ∃ m m', Pattern.compile? (.plain (.text "a*b")) = .ok m ∧
      starBetween.widened = "a**b" ∧ Pattern.compile? (.plain (.text "a**b")) = .ok m' ∧
      m.test "axb\nc" = true ∧ m'.test "axb\nc" = true := by
  have hw : ¬ ['*', '*', '*'] <:+: "a*b".toList := by decide
  obtain ⟨m', hm', haccepts, hwider, -⟩ := globstar_widens starBetween (compileWildcard?_wellFormed hw)
  -- the line ends behind what is accepted
  have hfits : starBetween.Fits "axb\nc".toList ['x'] :=
    ⟨by simp [Token.Takes, separators], [['a']], [['b']], .cons rfl .nil, .cons rfl .nil, by decide⟩
  exact ⟨_, m', compileWildcard?_wellFormed hw, by decide, hm', (haccepts _).mpr ⟨_, hfits⟩,
    hwider _ _ hfits (by decide)⟩

/-- The star of a pattern takes an end of a line, and a double star in its place does not. -/
theorem globstar_stops_at_line_end :
    ∃ m m', Pattern.compile? (.plain (.text "*x")) = .ok m ∧
      Pattern.compile? (.plain (.text "**x")) = .ok m' ∧
      m.test "\nx" = true ∧ m'.test "\nx" = false := by
  refine ⟨_, _, compileWildcard?_wellFormed (w := "*x") (by decide),
    compileWildcard?_wellFormed (w := "**x") (by decide), ?_, ?_⟩ <;> decide +kernel

end EventHub.Wildcard
