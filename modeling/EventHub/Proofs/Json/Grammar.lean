import EventHub.Json.Reader
import Mathlib.Tactic.Common

/-! # The grammar of JSON

A relation says which texts spell which data, rule by rule and apart from how texts are written or read
here: white space around every element, each character of a string by itself or by an escape, whole numbers
without zeros in front, and objects in which no key is repeated. Numbers with a fraction or with a power of
ten are left out.

Main statements: `spells_write`, what is written of data without floating-point numbers spells that data,
and `printed_write`, it has no control characters and therefore stands on a single line.
-/

namespace EventHub.Json

/-! ## Characters, strings and numbers -/

/-- The ways to write a character inside a string. A character beyond U+FFFF may be written as the two
numbers of a surrogate pair; a surrogate by itself is no character. -/
inductive SpellsChar : Char → List Char → Prop
  | plain {c : Char} (hquote : c ≠ Text.doubleQuote) (hslash : c ≠ Text.backslash)
      (hcontrol : 0x20 ≤ c.toNat) : SpellsChar c [c]
  | letter {c e : Char} (h : shortEscape? e = some c) : SpellsChar c [Text.backslash, e]
  | number {a b d e : Char} {n : Nat} (h : fourDigits? a b d e = some n)
      (hchar : n < 0xD800 ∨ 0xE000 ≤ n) :
      SpellsChar (Char.ofNat n) [Text.backslash, 'u', a, b, d, e]
  | pair {a b d e p q r s : Char} {high low : Nat}
      (hfirst : fourDigits? a b d e = some high) (hhigh : 0xD800 ≤ high ∧ high < 0xDC00)
      (hsecond : fourDigits? p q r s = some low) (hlow : 0xDC00 ≤ low ∧ low < 0xE000) :
      SpellsChar (Char.ofNat (0x10000 + (high - 0xD800) * 0x400 + (low - 0xDC00)))
        [Text.backslash, 'u', a, b, d, e, Text.backslash, 'u', p, q, r, s]

/-- The ways to write the characters of a string between its quotes. -/
inductive SpellsText : List Char → List Char → Prop
  | nil : SpellsText [] []
  | cons {c : Char} {cs s ds : List Char} (hc : SpellsChar c cs) (hs : SpellsText s ds) :
      SpellsText (c :: s) (cs ++ ds)

/-- The way to write a natural number; only zero itself begins with a zero. -/
inductive SpellsNumber : Nat → List Char → Prop
  | digit {d : Nat} (hd : d < 10) : SpellsNumber d [d.digitChar]
  | more {n d : Nat} {cs : List Char} (h : SpellsNumber n cs) (hn : 0 < n) (hd : d < 10) :
      SpellsNumber (n * 10 + d) (cs ++ [d.digitChar])

/-! ## Elements -/

/-- What commas separate: the items of an array, or the members of an object. -/
inductive Piece where
  | item (j : Json)
  | member (b : String × Json)

/-- The ways to write pieces with commas between them, and with white space around each. -/
inductive SpellsPieces : List Piece → List Char → Prop
  | spaceBefore {ps : List Piece} {c : Char} {cs : List Char} (hc : isSpace c = true)
      (h : SpellsPieces ps cs) : SpellsPieces ps (c :: cs)
  | spaceAfter {ps : List Piece} {c : Char} {cs : List Char} (hc : isSpace c = true)
      (h : SpellsPieces ps cs) : SpellsPieces ps (cs ++ [c])
  | null : SpellsPieces [.item .null] "null".toList
  | true : SpellsPieces [.item (.bool Bool.true)] "true".toList
  | false : SpellsPieces [.item (.bool Bool.false)] "false".toList
  | natural {n : Nat} {cs : List Char} (h : SpellsNumber n cs) : SpellsPieces [.item (.int n)] cs
  | negative {n : Nat} {cs : List Char} (h : SpellsNumber n cs) :
      SpellsPieces [.item (.int (-n))] ('-' :: cs)
  | text {s cs : List Char} (h : SpellsText s cs) :
      SpellsPieces [.item (.text (String.ofList s))] (Text.doubleQuote :: cs ++ [Text.doubleQuote])
  | emptyArray {blanks : List Char} (h : ∀ c ∈ blanks, isSpace c = true) :
      SpellsPieces [.item (.array [])] ('[' :: blanks ++ [']'])
  | array {items : List Json} {cs : List Char} (h : SpellsPieces (items.map .item) cs) :
      SpellsPieces [.item (.array items)] ('[' :: cs ++ [']'])
  | emptyObject {blanks : List Char} (h : ∀ c ∈ blanks, isSpace c = true) :
      SpellsPieces [.item (.object [])] (Char.ofNat 123 :: blanks ++ [Char.ofNat 125])
  | object {bindings : List (String × Json)} {cs : List Char} (hkeys : (bindings.map (·.1)).Nodup)
      (h : SpellsPieces (bindings.map .member) cs) :
      SpellsPieces [.item (.object bindings)] (Char.ofNat 123 :: cs ++ [Char.ofNat 125])
  | member {key : String} {j : Json} {ks cs : List Char} (hkey : SpellsPieces [.item (.text key)] ks)
      (hj : SpellsPieces [.item j] cs) : SpellsPieces [.member (key, j)] (ks ++ ':' :: cs)
  | comma {p : Piece} {ps : List Piece} {cs ds : List Char} (hp : SpellsPieces [p] cs)
      (hps : SpellsPieces ps ds) : SpellsPieces (p :: ps) (cs ++ ',' :: ds)

/-- A text is a JSON text that spells the given data. -/
def Spells (j : Json) (text : List Char) : Prop := SpellsPieces [.item j] text

/-- Data without floating-point numbers, and without an object that has a key twice. -/
inductive Exact : Json → Prop
  | null : Exact .null
  | bool (b : Bool) : Exact (.bool b)
  | int (i : Int) : Exact (.int i)
  | text (s : String) : Exact (.text s)
  | array {items : List Json} (h : ∀ j ∈ items, Exact j) : Exact (.array items)
  | object {bindings : List (String × Json)} (hkeys : (bindings.map (·.1)).Nodup)
      (h : ∀ b ∈ bindings, Exact b.2) : Exact (.object bindings)

/-! ## Written data -/

theorem writeItems_eq (items : List Json) : writeItems items = items.map write := by
  induction items with
  | nil => rfl
  | cons j items ih => rw [writeItems, ih, List.map_cons]

/-- Members are written one by one, each as its key, a colon and its value. -/
theorem writeBindings_eq (bindings : List (String × Json)) :
    writeBindings bindings = bindings.map fun b => writeText b.1 ++ ": ".toList ++ write b.2 := by
  induction bindings with
  | nil => rfl
  | cons b bindings ih => rw [writeBindings, ih, List.map_cons]

/-- Decimal digits are a way to write a natural number. -/
theorem spellsNumber_decimal (n : Nat) : SpellsNumber n (Num.decimal n) := by
  induction n using Nat.strongRecOn with
  | ind n ih =>
    by_cases hn : n < 10
    · have hdigits : Num.decimal n = [n.digitChar] := Nat.toDigits_of_lt_base hn
      rw [hdigits]
      exact .digit hn
    · -- the last digit stands behind those of the tenth part
      have hdigits : Num.decimal n = Num.decimal (n / 10) ++ [(n % 10).digitChar] :=
        Nat.toDigits_of_base_le (by omega) (by omega)
      have hmore := SpellsNumber.more (ih (n / 10) (by omega)) (by omega) (Nat.mod_lt n (by omega))
      rwa [← hdigits, Nat.div_add_mod'] at hmore

/-- Control characters are below U+0020, so that the first two digits of their numbers are zeros. -/
theorem hexadecimal_control : ∀ n < 0x20,
    Text.hexadecimal 4 n = ['0', '0', (n / 16).digitChar, (n % 16).digitChar] ∧
      fourDigits? '0' '0' (n / 16).digitChar (n % 16).digitChar = some n := by
  decide

/-- An escaped character is a way to write that character. -/
theorem spellsChar_escapedChar (c : Char) : SpellsChar c (escapedChar c) := by
  unfold escapedChar
  split_ifs with hspecial hcontrol hfeed hreturn htab hback hform
  · exact .letter (by rcases hspecial with rfl | rfl <;> rfl)
  · exact .letter (hfeed ▸ rfl)
  · exact .letter (hreturn ▸ rfl)
  · exact .letter (htab ▸ rfl)
  · exact .letter (by rw [← Char.ofNat_toNat c, hback]; rfl)
  · exact .letter (by rw [← Char.ofNat_toNat c, hform]; rfl)
  · obtain ⟨hdigits, hvalue⟩ := hexadecimal_control c.toNat hcontrol
    -- the number of a control character is no surrogate
    have hnumber := SpellsChar.number hvalue (.inl (by omega))
    rwa [Char.ofNat_toNat, ← hdigits] at hnumber
  · obtain ⟨hquote, hslash⟩ := not_or.mp hspecial
    exact .plain hquote hslash (Nat.le_of_not_lt hcontrol)

theorem spellsText_escaped (s : List Char) : SpellsText s (s.flatMap escapedChar) := by
  induction s with
  | nil => exact .nil
  | cons c s ih => exact .cons (spellsChar_escapedChar c) ih

theorem spells_writeText (s : String) : Spells (.text s) (writeText s) := by
  have h := SpellsPieces.text (spellsText_escaped s.toList)
  rwa [String.ofList_toList] at h

/-- A written integer is a JSON text that spells it, with a sign or without. -/
theorem spells_signedDecimal (i : Int) : Spells (.int i) (Num.signedDecimal i) := by
  cases i with
  | ofNat n => exact .natural (spellsNumber_decimal n)
  | negSucc n => exact .negative (spellsNumber_decimal (n + 1))

/-- Pieces that are written one by one are spelled with a comma and a space between them. -/
theorem spellsPieces_intercalate {α : Type} (piece : α → Piece) (form : α → List Char) (xs : List α)
    (hne : xs ≠ []) (h : ∀ x ∈ xs, SpellsPieces [piece x] (form x)) :
    SpellsPieces (xs.map piece) (", ".toList.intercalate (xs.map form)) := by
  induction xs with
  | nil => exact absurd rfl hne
  | cons x xs ih =>
    -- the comma is followed by one space, which the grammar lets stand before the next piece
    have hx := h x List.mem_cons_self
    cases xs with
    | nil => simpa using hx
    | cons y ys =>
      have hrest := ih (List.cons_ne_nil y ys) fun z hz => h z (List.mem_cons_of_mem x hz)
      have hspaced := SpellsPieces.comma hx (.spaceBefore (c := ' ') rfl hrest)
      simpa [List.intercalate_cons_cons] using hspaced

/-- **What is written is JSON**: a text of the grammar that spells the data. -/
theorem spells_write {j : Json} (h : j.Exact) : Spells j j.write := by
  induction h with
  | null => exact .null
  | bool b =>
    cases b with
    | false => exact .false
    | true => exact .true
  | int i => exact spells_signedDecimal i
  | text s => exact spells_writeText s
  | @array items _ ih =>
    rw [write, writeItems_eq]
    cases items with
    | nil => exact .emptyArray nofun
    | cons j items => exact .array (spellsPieces_intercalate .item write _ (List.cons_ne_nil j items) ih)
  | @object bindings hkeys _ ih =>
    rw [write, writeBindings_eq]
    cases bindings with
    | nil => exact .emptyObject nofun
    | cons b bindings =>
      refine .object hkeys (spellsPieces_intercalate .member _ _ (List.cons_ne_nil b bindings) fun b hb => ?_)
      -- the colon is followed by one space as well
      have hmember := SpellsPieces.member (spells_writeText b.1) (.spaceBefore (c := ' ') rfl (ih b hb))
      simpa using hmember

/-! ## A single line -/

/-- No control characters. -/
def Printed (cs : List Char) : Prop := ∀ c ∈ cs, 0x20 ≤ c.toNat

instance (cs : List Char) : Decidable (Printed cs) :=
  List.decidableBAll (fun c : Char => 0x20 ≤ c.toNat) cs

theorem printed_append {cs ds : List Char} (h : Printed cs) (h' : Printed ds) : Printed (cs ++ ds) :=
  List.forall_mem_append.mpr ⟨h, h'⟩

/-- Commas and spaces between printed parts do not end the line. -/
theorem printed_intercalate {parts : List (List Char)} (h : ∀ cs ∈ parts, Printed cs) :
    Printed (", ".toList.intercalate parts) := by
  have hcomma : Printed ", ".toList := by decide
  induction parts with
  | nil => nofun
  | cons cs parts ih =>
    obtain ⟨hcs, hparts⟩ := List.forall_mem_cons.mp h
    cases parts with
    | nil => rwa [List.intercalate_singleton]
    | cons ds parts =>
      rw [List.intercalate_cons_cons]
      exact printed_append (printed_append hcs hcomma) (ih hparts)

/-- Decimal digits are printed. -/
theorem printed_decimal (n : Nat) : Printed (Num.decimal n) := by
  intro c hc
  have hdigit : c.isDigit = true := Nat.isDigit_of_mem_toDigits (by decide) (by decide) hc
  have hzero : 0x20 ≤ '0'.toNat := by decide
  exact Nat.le_trans hzero (Char.isDigit_iff_toNat.mp hdigit).1

/-- So are those of an integer, and its sign. -/
theorem printed_signedDecimal (i : Int) : Printed (Num.signedDecimal i) := by
  have hminus : Printed ['-'] := by decide
  cases i with
  | ofNat n => exact printed_decimal n
  | negSucc n => exact printed_append hminus (printed_decimal (n + 1))

/-- An escaped character is printed: what is a control character goes as its letter or its number. -/
theorem printed_escapedChar (c : Char) : Printed (escapedChar c) := by
  have hnumber : ∀ n < 0x20, Printed (Text.backslash :: 'u' :: Text.hexadecimal 4 n) := by decide
  unfold escapedChar
  split_ifs with hspecial hcontrol hfeed hreturn htab hback hform
  · rcases hspecial with rfl | rfl <;> decide
  · decide
  · decide
  · decide
  · decide
  · decide
  · exact hnumber c.toNat hcontrol
  · exact List.forall_mem_singleton.mpr (Nat.le_of_not_lt hcontrol)

/-- A written string is printed, its quotes included. -/
theorem printed_writeText (s : String) : Printed (writeText s) := by
  have hquote : Printed [Text.doubleQuote] := by decide
  have hcontent : Printed (s.toList.flatMap escapedChar) := fun c hc => by
    obtain ⟨d, -, hd⟩ := List.mem_flatMap.mp hc
    exact printed_escapedChar d c hd
  exact printed_append (printed_append hquote hcontent) hquote

/-- **What is written is one line** and has no control characters. -/
theorem printed_write {j : Json} (h : j.Exact) : Printed j.write := by
  induction h with
  | null => decide
  | bool b => cases b <;> decide
  | int i => exact printed_signedDecimal i
  | text s => exact printed_writeText s
  | array _ ih =>
    have hopen : Printed ['['] := by decide
    have hclose : Printed [']'] := by decide
    rw [write, writeItems_eq]
    exact printed_append (printed_append hopen (printed_intercalate (List.forall_mem_map.mpr ih))) hclose
  | object _ _ ih =>
    have hopen : Printed [Char.ofNat 123] := by decide
    have hclose : Printed [Char.ofNat 125] := by decide
    have hcolon : Printed ": ".toList := by decide
    rw [write, writeBindings_eq]
    refine printed_append (printed_append hopen (printed_intercalate ?_)) hclose
    exact List.forall_mem_map.mpr fun b hb =>
      printed_append (printed_append (printed_writeText b.1) hcolon) (ih b hb)

end EventHub.Json
