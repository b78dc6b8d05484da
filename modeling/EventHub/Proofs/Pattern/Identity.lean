import EventHub.Pattern
import Mathlib.Algebra.GroupWithZero.Nat
import Mathlib.Tactic.Common

/-! # What keys identify

A registry keeps one entry per key, so that two patterns with one key are one pattern to it. The key of an
expression is its source between slashes with its flags, the number of its modes, behind it; nothing in the
source is escaped, but the number holds no slash, so that the last slash is where the source ends
(`Matcher.key_eq_key_iff`).

Which names an expression matches in is told by its source and its flags: it follows a search
(`Expression.Follows`), whichever flags were given and whichever stand in the source as letters. For the
expressions that are read here this is `Regex.search`, as `Expression.follows_compile?` shows. Matchers that follow
one search and have one key then accept the same names.

Main statement: `keys_identify`.
-/

namespace EventHub

/-! ## Keys as texts -/

/-- Where a separator comes last is told by the whole. -/
theorem append_separator_inj {α : Type} {c : α} {l₁ l₂ r₁ r₂ : List α} (h₁ : c ∉ r₁) (h₂ : c ∉ r₂) :
    l₁ ++ c :: r₁ = l₂ ++ c :: r₂ ↔ l₁ = l₂ ∧ r₁ = r₂ := by
  constructor
  · intro h
    -- what one side has more in front would put its separator into the other's end
    rcases List.append_eq_append_iff.mp h with ⟨between, hl, hr⟩ | ⟨between, hl, hr⟩
    · cases between with
      | nil =>
          rw [List.append_nil] at hl
          exact ⟨hl.symm, (List.cons.inj hr).2⟩
      | cons d between =>
          have hmem : c ∈ r₁ := by
            rw [(List.cons.inj hr).2]
            exact List.mem_append_right _ List.mem_cons_self
          exact absurd hmem h₁
    · cases between with
      | nil =>
          rw [List.append_nil] at hl
          exact ⟨hl, (List.cons.inj hr).2.symm⟩
      | cons d between =>
          have hmem : c ∈ r₂ := by
            rw [(List.cons.inj hr).2]
            exact List.mem_append_right _ List.mem_cons_self
          exact absurd hmem h₂
  · rintro ⟨rfl, rfl⟩
    rfl

theorem slash_notMem_repr (n : Nat) : '/' ∉ n.repr.toList := by
  intro h
  rw [Nat.toList_repr] at h
  exact absurd (Nat.isDigit_of_mem_toDigits (by decide) (by decide) h) (by decide)

/-- A number is told by its digits. -/
theorem repr_injective {m n : Nat} (h : m.repr = n.repr) : m = n := by
  have hdigits : Nat.toDigits 10 m = Nat.toDigits 10 n := by
    rw [← Nat.toList_repr, ← Nat.toList_repr, h]
  rw [← Nat.ofDigitChars_toDigits (b := 10) (n := m) (by decide) (by decide), hdigits,
    Nat.ofDigitChars_toDigits (by decide) (by decide)]

namespace Regex.Modes

/-- The modes that a number stands for. -/
def ofBits (n : Nat) : Modes where
  ignoreCase := n.testBit 1
  multiLine := n.testBit 3
  dotAll := n.testBit 4
  verbose := n.testBit 6
  ascii := n.testBit 8
  template := n.testBit 0
  debug := n.testBit 7
  beyond := n / 512

/-- A bit is told by the digit that stands for it. -/
theorem testBit_of_digit {n k : Nat} {b : Bool} (h : n / 2 ^ k % 2 = b.toNat) : n.testBit k = b := by
  rw [Nat.testBit_eq_decide_div_mod_eq, h]
  cases b <;> rfl

/-- The number of modes tells them. -/
theorem ofBits_bits (m : Modes) : ofBits m.bits = m := by
  obtain ⟨ignoreCase, multiLine, dotAll, verbose, ascii, template, debug, beyond⟩ := m
  have hignoreCase := ignoreCase.toNat_le
  have hmultiLine := multiLine.toNat_le
  have hdotAll := dotAll.toNat_le
  have hverbose := verbose.toNat_le
  have htemplate := template.toNat_le
  have hdebug := debug.toNat_le
  unfold ofBits bits
  rw [Modes.mk.injEq]
  -- the bit 32 is there when the bit 256 is not
  cases ascii <;> refine ⟨testBit_of_digit ?_, testBit_of_digit ?_, testBit_of_digit ?_, testBit_of_digit ?_,
    testBit_of_digit ?_, testBit_of_digit ?_, testBit_of_digit ?_, ?_⟩ <;> simp <;> omega

end Regex.Modes

namespace Matcher

theorem key_of_wildcard {m : Matcher} (h : m.kind = .wildcard) : m.key = "wildcard:" ++ m.source := by
  unfold key
  rw [h]

/-- The key of an expression ends with its flags. -/
theorem key_of_regex {m : Matcher} (h : m.kind = .regex) :
    m.key = "regex:/" ++ m.source ++ "/" ++ m.expression.modes.bits.repr := by
  unfold key
  rw [h]
  rfl

/-- Keys of different kinds begin with different letters. -/
theorem wildcard_append_ne (s t : String) : "wildcard:" ++ s ≠ "regex:/" ++ t := by
  intro h
  have hlists := congrArg String.toList h
  rw [String.toList_append, String.toList_append] at hlists
  exact absurd (List.cons.inj hlists).1 (by decide)

/-- What a number is put behind can be told from it. -/
theorem regex_append_inj {s t : String} {i j : Nat}
    (h : "regex:/" ++ s ++ "/" ++ i.repr = "regex:/" ++ t ++ "/" ++ j.repr) : s = t ∧ i = j := by
  have hlists := congrArg String.toList h
  simp only [String.toList_append, List.append_assoc] at hlists
  obtain ⟨hsource, hnumber⟩ :=
    (append_separator_inj (slash_notMem_repr i) (slash_notMem_repr j)).mp (List.append_cancel_left hlists)
  exact ⟨String.toList_inj.mp hsource, repr_injective (String.toList_inj.mp hnumber)⟩

/-- **Keys tell matchers apart** by kind, source and, for expressions, flags. -/
theorem key_eq_key_iff (m n : Matcher) :
    m.key = n.key ↔ m.kind = n.kind ∧ m.source = n.source ∧
      (m.kind = .regex → m.expression.modes.bits = n.expression.modes.bits) := by
  cases hm : m.kind <;> cases hn : n.kind
  · rw [key_of_wildcard hm, key_of_wildcard hn]
    constructor
    · intro h
      have hlists := congrArg String.toList h
      rw [String.toList_append, String.toList_append] at hlists
      exact ⟨rfl, String.toList_inj.mp (List.append_cancel_left hlists), nofun⟩
    · rintro ⟨-, h, -⟩
      rw [h]
  · rw [key_of_wildcard hm, key_of_regex hn, String.append_assoc, String.append_assoc]
    exact ⟨fun h => absurd h (wildcard_append_ne _ _), fun h => nomatch h.1⟩
  · rw [key_of_regex hm, key_of_wildcard hn, String.append_assoc, String.append_assoc]
    exact ⟨fun h => absurd h.symm (wildcard_append_ne _ _), fun h => nomatch h.1⟩
  · rw [key_of_regex hm, key_of_regex hn]
    constructor
    · intro h
      obtain ⟨hsource, hbits⟩ := regex_append_inj h
      exact ⟨rfl, hsource, fun _ => hbits⟩
    · rintro ⟨-, hsource, hbits⟩
      rw [hsource, hbits rfl]

end Matcher

/-! ## Expressions and searches -/

namespace Regex

/-- Whether letters name modes does not depend on the modes that are on already. -/
theorem isSome_withLetters? (m m' : Modes) (letters : List Char) :
    (m.withLetters? letters).isSome = (m'.withLetters? letters).isSome := by
  induction letters generalizing m m' with
  | nil => rfl
  | cons c letters ih =>
      -- whether a letter names a mode is told by the letter
      have hletter : (m.withLetter? c).isSome = (m'.withLetter? c).isSome := by
        unfold Modes.withLetter?
        split <;> rfl
      unfold Modes.withLetters? at ih ⊢
      rw [List.foldlM_cons, List.foldlM_cons]
      cases hm : m.withLetter? c with
      | none =>
          rw [hm] at hletter
          rw [Option.isSome_eq_false_iff.mp hletter.symm |> Option.isNone_iff_eq_none.mp]
      | some n =>
          rw [hm] at hletter
          obtain ⟨n', hn'⟩ := Option.isSome_iff_exists.mp hletter.symm
          rw [hn']
          exact ih n n'

/-- What stands behind the modes at the start of a text does not depend on the modes that are on already. -/
theorem text_leadingModes? (m m' : Modes) (text : List Char) :
    (leadingModes? m text).map (·.2) = (leadingModes? m' text).map (·.2) := by
  -- the reading of the modes, group by group
  fun_induction leadingModes? m text generalizing m' with
  | case1 m rest letters tail hclose hempty =>
      rw [leadingModes?]
      simp [hclose, hempty, letters]
  | case2 m rest letters tail hclose hempty n hn ih =>
      have hsome := isSome_withLetters? m m' letters
      rw [hn] at hsome
      obtain ⟨n', hn'⟩ := Option.isSome_iff_exists.mp hsome.symm
      rw [ih n', leadingModes?.eq_def m']
      simp [hclose, hempty, letters, hn']
  | case3 m rest letters tail hclose hempty hn =>
      have hnone := isSome_withLetters? m m' letters
      rw [hn] at hnone
      have hn' : m'.withLetters? letters = none :=
        Option.isNone_iff_eq_none.mp (Option.isSome_eq_false_iff.mp hnone.symm)
      rw [leadingModes?]
      simp [hclose, hempty, letters, hn']
  | case4 m rest letters hclose =>
      rw [leadingModes?]
      split
      · rename_i tail htail
        exact absurd htail (hclose tail)
      · rfl
  | case5 m text htext =>
      rw [leadingModes?.eq_def m']
      split
      · rename_i rest
        exact absurd rfl (htext rest)
      · rfl

end Regex

/-- The search for an expression that is told by its source and its flags. The modes that stand in the source are
among the flags already. -/
def Regex.search (source : String) (flags : Nat) (name : String) : Bool :=
  let m := Modes.ofBits flags
  match leadingModes? m source.toList with
  | none => false
  | some (_, text) => ((tokens? m.verbose text).bind ofTokens?).any fun r => occurs m r name.toList

namespace Expression

/-- An expression matches in the names that a search finds it in, given its source and its flags. -/
def Follows (search : String → Nat → String → Bool) (e : Expression) : Prop :=
  ∀ name, e.test name = search e.source e.modes.bits name

/-- **The expressions that are read here follow one search**, whichever modes they were compiled with. -/
theorem follows_compile? {source : String} {modes : Regex.Modes} {e : Expression}
    (h : compile? source modes = some e) : e.Follows Regex.search := by
  obtain ⟨⟨m, r⟩, hread, rfl⟩ := Option.map_eq_some_iff.mp h
  intro name
  unfold Regex.read? at hread
  split at hread
  · cases hread
  · rename_i m' text hlead
    obtain ⟨body, hbody, heq⟩ := Option.map_eq_some_iff.mp hread
    obtain ⟨rfl, rfl⟩ := Prod.mk.inj heq
    -- whatever modes were given, the same text is left to read
    have htext := Regex.text_leadingModes? m' modes source.toList
    rw [hlead] at htext
    obtain ⟨⟨m, text'⟩, hagain, htexts⟩ := Option.map_eq_some_iff.mp htext
    obtain rfl : text' = text := htexts
    simp [Regex.search, Regex.Modes.ofBits_bits, hagain, hbody]

end Expression

/-! ## Patterns -/

/-- What a pattern is: its language, its text as the caller wrote it, and its flags where it is an expression. -/
structure PatternIdentity where
  kind : PatternKind
  source : String
  flags? : Option Nat
deriving DecidableEq, Repr

namespace Matcher

/-- What the pattern of a matcher is. -/
def identity (m : Matcher) : PatternIdentity where
  kind := m.kind
  source := m.source
  flags? :=
    match m.kind with
    | .wildcard => none
    | .regex => some m.expression.modes.bits

end Matcher

namespace PatternSpec

/-- What a tagged pattern is. -/
def identity : PatternSpec → PatternIdentity
  | .wildcard source => ⟨.wildcard, source, none⟩
  | .regex e => ⟨.regex, e.source, some e.modes.bits⟩

/-- The expression in a tagged pattern follows a search. -/
def Follows (search : String → Nat → String → Bool) : PatternSpec → Prop
  | .wildcard _ => True
  | .regex e => e.Follows search

end PatternSpec

/-- A matcher is compiled from a tagged pattern that follows a search. -/
def Matcher.Follows (search : String → Nat → String → Bool) (m : Matcher) : Prop :=
  ∃ s : PatternSpec, s.Follows search ∧ Pattern.ofSpec? s = .ok m

namespace Pattern

variable {search : String → Nat → String → Bool}

/-- What a pattern is, unless it is of a kind that is refused. -/
def identity? : Pattern → Option PatternIdentity
  | .plain (.text source) => some ⟨.wildcard, source, none⟩
  | .plain _ => none
  | .expression e => some ⟨.regex, e.source, some e.modes.bits⟩
  | .spec s => some s.identity
  | .matcher m => some m.identity
  | .byteExpression _ => none

/-- The expression in a pattern follows a search, and a matcher is compiled from a pattern whose one does. -/
def Follows (search : String → Nat → String → Bool) : Pattern → Prop
  | .expression e => e.Follows search
  | .spec s => s.Follows search
  | .matcher m => m.Follows search
  | _ => True

/-- A matcher is what it was compiled from. -/
theorem ofSpec?_ok {s : PatternSpec} {m : Matcher} (h : ofSpec? s = .ok m) : m.identity = s.identity := by
  cases s with
  | regex e =>
      cases h
      rfl
  | wildcard source =>
      unfold ofSpec? compileWildcard? at h
      dsimp only at h
      split at h
      · cases h
      · split at h
        · cases h
          rfl
        · cases h

/-- A pattern that is accepted is a matcher, or has a tagged form. -/
theorem compile?_cases {p : Pattern} {m : Matcher} (h : p.compile? = .ok m) :
    p = .matcher m ∨ ∃ s, ofSpec? s = .ok m ∧ p.identity? = some s.identity ∧
      ∀ search, p.Follows search → s.Follows search := by
  cases p with
  | plain v =>
      cases v with
      | text source => exact .inr ⟨.wildcard source, h, rfl, fun _ _ => trivial⟩
      | _ => cases h
  | expression e => exact .inr ⟨.regex e, h, rfl, fun _ he => he⟩
  | spec s => exact .inr ⟨s, h, rfl, fun _ hs => hs⟩
  | matcher n =>
      cases h
      exact .inl rfl
  | byteExpression source => cases h

/-- A pattern that is accepted is what its matcher is. -/
theorem identity?_of_compile? {p : Pattern} {m : Matcher} (h : p.compile? = .ok m) :
    p.identity? = some m.identity := by
  obtain rfl | ⟨s, hs, hidentity, -⟩ := compile?_cases h
  · rfl
  · rw [hidentity, ofSpec?_ok hs]

/-- The matcher of a pattern follows the search that the pattern does. -/
theorem follows_of_compile? {p : Pattern} {m : Matcher} (h : p.compile? = .ok m) (hp : p.Follows search) :
    m.Follows search := by
  obtain rfl | ⟨s, hs, -, hfollows⟩ := compile?_cases h
  · exact hp
  · exact ⟨s, hfollows search hp, hs⟩

end Pattern

namespace Matcher

/-- Matchers are what the same patterns are, if kind, source and flags agree. -/
theorem identity_eq_identity_iff (m n : Matcher) :
    m.identity = n.identity ↔ m.kind = n.kind ∧ m.source = n.source ∧
      (m.kind = .regex → m.expression.modes.bits = n.expression.modes.bits) := by
  unfold identity
  cases hm : m.kind <;> cases hn : n.kind <;> simp

/-- Matchers of the same patterns that follow one search accept the same names. -/
theorem Follows.test_eq {search : String → Nat → String → Bool} {m n : Matcher} (hm : m.Follows search)
    (hn : n.Follows search) (h : m.identity = n.identity) (name : String) : m.test name = n.test name := by
  obtain ⟨s, hs, hm⟩ := hm
  obtain ⟨t, ht, hn⟩ := hn
  rw [Pattern.ofSpec?_ok hm, Pattern.ofSpec?_ok hn] at h
  -- kinds agree, as the patterns are the same
  cases s with
  | wildcard source =>
      cases t with
      | wildcard source' =>
          -- a wildcard has one matcher
          cases h
          rw [hm] at hn
          cases hn
          rfl
      | regex f => cases h
  | regex e =>
      cases t with
      | wildcard source' => cases h
      | regex f =>
          obtain ⟨-, hsource, hflags⟩ := PatternIdentity.mk.inj h
          cases hm
          cases hn
          calc e.test name = search e.source e.modes.bits name := hs name
            _ = search f.source f.modes.bits name := by rw [hsource, Option.some.inj hflags]
            _ = f.test name := (ht name).symm

end Matcher

/-- **Keys identify patterns.** Whatever their texts hold and whatever their flags are, two accepted patterns have
the same key exactly when they are of the same language and have the same source and, as expressions, the same
flags in force. Then their matchers accept the same names, so that they may share an entry, as long as which names
an expression matches in is told by its source and its flags. -/
theorem keys_identify {p q : Pattern} {m n : Matcher} (hm : p.compile? = .ok m) (hn : q.compile? = .ok n) :
    (m.key = n.key ↔ p.identity? = q.identity?) ∧
      ∀ search, p.Follows search → q.Follows search → m.key = n.key → ∀ name, m.test name = n.test name := by
  have hkey : m.key = n.key ↔ m.identity = n.identity :=
    (m.key_eq_key_iff n).trans (m.identity_eq_identity_iff n).symm
  refine ⟨?_, fun search hp hq h name => ?_⟩
  · rw [Pattern.identity?_of_compile? hm, Pattern.identity?_of_compile? hn, Option.some.injEq]
    exact hkey
  · exact (Pattern.follows_of_compile? hm hp).test_eq (Pattern.follows_of_compile? hn hq) (hkey.mp h) name

/-- An expression that ignores case, with slashes and digits in its source. -/
def Sample.caseless : Expression where
  source := "(?i)a/32"
  modes := { ignoreCase := true }
  test := fun name =>
    Regex.occurs { ignoreCase := true } (Regex.sequence ("a/32".toList.map .char)) name.toList

/-- The same expression compiled in two ways: once the mode stands in the text only, and once it is given as
well. -/
theorem keys_identify_modeGivenTwice :
    ∃ m n, Expression.compile? "(?i)a/32" {} = some Sample.caseless ∧
      Expression.compile? "(?i)a/32" { ignoreCase := true } = some Sample.caseless ∧
      Pattern.compile? (.expression Sample.caseless) = .ok m ∧ Pattern.compile? (.matcher n) = .ok n ∧
      m.key = "regex:/(?i)a/32/34" ∧ m.key = n.key ∧ m.test "xA/32" = n.test "xA/32" := by
  have hread : Regex.read? "(?i)a/32".toList {} =
      some ({ ignoreCase := true }, Regex.sequence ("a/32".toList.map .char)) := by decide +kernel
  have hreadGiven : Regex.read? "(?i)a/32".toList { ignoreCase := true } =
      some ({ ignoreCase := true }, Regex.sequence ("a/32".toList.map .char)) := by decide +kernel
  have hletter : Expression.compile? "(?i)a/32" {} = some Sample.caseless := by
    rw [Expression.compile?, hread]
    rfl
  have hgiven : Expression.compile? "(?i)a/32" { ignoreCase := true } = some Sample.caseless := by
    rw [Expression.compile?, hreadGiven]
    rfl
  have hm : Pattern.compile? (.expression Sample.caseless) = .ok ⟨.regex, "(?i)a/32", Sample.caseless⟩ := rfl
  have hn : Pattern.compile? (.matcher ⟨.regex, "(?i)a/32", Sample.caseless⟩) =
      .ok ⟨.regex, "(?i)a/32", Sample.caseless⟩ := rfl
  obtain ⟨hkey, htest⟩ := keys_identify hm hn
  -- both follow the search that expressions follow that are read
  have hexpression : (Pattern.expression Sample.caseless).Follows Regex.search := Expression.follows_compile? hletter
  have hmatcher : (Pattern.matcher ⟨.regex, "(?i)a/32", Sample.caseless⟩).Follows Regex.search :=
    ⟨.regex Sample.caseless, Expression.follows_compile? hgiven, rfl⟩
  exact ⟨_, _, hletter, hgiven, hm, hn, by decide +kernel, hkey.mpr rfl,
    htest _ hexpression hmatcher (hkey.mpr rfl) _⟩

end EventHub
