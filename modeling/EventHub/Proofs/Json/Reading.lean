import EventHub.Proofs.Json.Grammar

/-! # Reading what the grammar spells

The tokens of a text are the tokens of the data that it spells, one after another, as long as what follows
does not go on with a number; this is an induction over the rules of the grammar. The tokens of an element
bring the reader from a place where an element may stand to the place behind it, whatever is open around it;
this is an induction over the data.

Main statement: `read?_of_spells`, each JSON text is read as the data that it spells, so that no text spells
two of them.
-/

namespace EventHub.Json

/-! ## The tokens of data -/

mutual

/-- The tokens of an element. -/
def tokens : Json → List Token
  | .array items => .openArray :: [.comma].intercalate (itemTokens items) ++ [.closeArray]
  | .object bindings => .openObject :: [.comma].intercalate (memberTokens bindings) ++ [.closeObject]
  | j => [.scalar j]

/-- The tokens of each item of an array. -/
def itemTokens : List Json → List (List Token)
  | [] => []
  | j :: js => tokens j :: itemTokens js

/-- The tokens of each member of an object. -/
def memberTokens : List (String × Json) → List (List Token)
  | [] => []
  | (k, j) :: rest => (.scalar (.text k) :: .colon :: tokens j) :: memberTokens rest

end

/-- The tokens of a piece. -/
def Piece.tokens : Piece → List Token
  | .item j => j.tokens
  | .member (k, j) => .scalar (.text k) :: .colon :: j.tokens

/-- The tokens of pieces with commas between them. -/
def Piece.separated (ps : List Piece) : List Token := [.comma].intercalate (ps.map Piece.tokens)

theorem Piece.separated_one (p : Piece) : Piece.separated [p] = p.tokens := List.intercalate_singleton

/-- A comma stands between the first piece and the others. -/
theorem Piece.separated_cons (p : Piece) {ps : List Piece} (hne : ps ≠ []) :
    Piece.separated (p :: ps) = p.tokens ++ .comma :: Piece.separated ps := by
  cases ps with
  | nil => exact absurd rfl hne
  | cons q qs =>
    unfold Piece.separated
    rw [List.map_cons, List.map_cons, List.intercalate_cons_cons, List.append_assoc]
    rfl

theorem itemTokens_eq (items : List Json) : itemTokens items = (items.map Piece.item).map Piece.tokens := by
  induction items with
  | nil => rfl
  | cons j items ih => rw [itemTokens, ih]; rfl

/-- The tokens of members, piece by piece. -/
theorem memberTokens_eq (bindings : List (String × Json)) :
    memberTokens bindings = (bindings.map Piece.member).map Piece.tokens := by
  induction bindings with
  | nil => rfl
  | cons b bindings ih => rw [memberTokens, ih]; rfl

/-! ## Strings -/

/-- A number that is no surrogate is a character, whatever comes behind it. -/
theorem ofUnits?_of_char {n : Nat} (h : n < 0xD800 ∨ 0xE000 ≤ n) (second : Option Nat) :
    ofUnits? n second = some (Char.ofNat n, false) := by
  have hsurrogate : ¬ (0xD800 ≤ n ∧ n < 0xE000) := by omega
  cases second with
  | none => rw [ofUnits?, if_neg hsurrogate]
  | some low =>
    have hhigh : ¬ (0xD800 ≤ n ∧ n < 0xDC00 ∧ 0xDC00 ≤ low ∧ low < 0xE000) := by omega
    rw [ofUnits?, if_neg hhigh, if_neg hsurrogate]

theorem readText?_quote (rest : List Char) : readText? (Text.doubleQuote :: rest) = some ([], 1) := by
  rw [readText?.eq_def]
  exact if_pos rfl

/-- A character that needs no escaping stands for itself. -/
theorem readText?_plain {c : Char} (hquote : c ≠ Text.doubleQuote) (hslash : c ≠ Text.backslash)
    (hcontrol : 0x20 ≤ c.toNat) (rest : List Char) :
    readText? (c :: rest) = (readText? rest).map fun (s, n) => (c :: s, n + 1) := by
  rw [readText?.eq_def]
  simp only [if_neg hquote, if_neg hslash, if_neg (Nat.not_lt.mpr hcontrol)]

theorem backslash_ne_quote : Text.backslash ≠ Text.doubleQuote := by decide

/-- A backslash and a letter stand for one character. -/
theorem readText?_letter {c e : Char} (he : shortEscape? e = some c) (rest : List Char) :
    readText? (Text.backslash :: e :: rest) = (readText? rest).map fun (s, n) => (c :: s, n + 2) := by
  have hu : e ≠ 'u' := by
    rintro rfl
    cases he
  rw [readText?.eq_def]
  simp only [if_neg backslash_ne_quote, if_true]
  split
  case h_3 heq =>
    -- the letter is the one that is looked up
    obtain ⟨rfl, rfl⟩ := List.cons.inj heq
    simp only [he]
  case h_4 heq => cases heq
  all_goals
    -- the letter is none that announces a number
    rename_i heq
    exact absurd (List.cons.inj heq).1 hu

/-- A backslash and a number stand for the character of that number. -/
theorem readText?_number {a b d e : Char} {n : Nat} (hn : fourDigits? a b d e = some n)
    (hchar : n < 0xD800 ∨ 0xE000 ≤ n) (rest : List Char) :
    readText? (Text.backslash :: 'u' :: a :: b :: d :: e :: rest) =
      (readText? rest).map fun (s, k) => (Char.ofNat n :: s, k + 6) := by
  rw [readText?.eq_def]
  simp only [if_neg backslash_ne_quote, if_true]
  split
  case h_1 heq =>
    -- whatever is read as a second number, the first one stands by itself
    simp only [List.cons.injEq] at heq
    obtain ⟨-, rfl, rfl, rfl, rfl, rfl⟩ := heq
    simp only [hn, ofUnits?_of_char hchar]
  case h_2 heq =>
    simp only [List.cons.injEq] at heq
    obtain ⟨-, rfl, rfl, rfl, rfl, rfl⟩ := heq
    simp only [hn, Option.bind_some, ofUnits?_of_char hchar]
  case h_3 hshort heq =>
    obtain ⟨rfl, rfl⟩ := List.cons.inj heq
    exact absurd rfl (hshort a b d e rest rfl)
  case h_4 heq => cases heq

/-- The two numbers of a surrogate pair stand for one character. -/
theorem readText?_pair {a b d e p q r s : Char} {high low : Nat} (hfirst : fourDigits? a b d e = some high)
    (hhigh : 0xD800 ≤ high ∧ high < 0xDC00) (hsecond : fourDigits? p q r s = some low)
    (hlow : 0xDC00 ≤ low ∧ low < 0xE000) (rest : List Char) :
    readText? (Text.backslash :: 'u' :: a :: b :: d :: e :: Text.backslash :: 'u' :: p :: q :: r :: s :: rest) =
      (readText? rest).map fun (xs, k) =>
        (Char.ofNat (0x10000 + (high - 0xD800) * 0x400 + (low - 0xDC00)) :: xs, k + 12) := by
  have hunit : startsUnit Text.backslash 'u' = true := rfl
  rw [readText?.eq_def]
  simp only [if_neg backslash_ne_quote, if_true, hfirst, hunit, hsecond, ofUnits?, hhigh, hlow, and_self]

/-- One character more in front of a string. -/
theorem readText?_cons {c : Char} {cs : List Char} (hc : SpellsChar c cs) {rest s : List Char} {n : Nat}
    (h : readText? rest = some (s, n)) : readText? (cs ++ rest) = some (c :: s, n + cs.length) := by
  cases hc with
  | plain hquote hslash hcontrol => exact (readText?_plain hquote hslash hcontrol rest).trans (by rw [h]; rfl)
  | letter he => exact (readText?_letter he rest).trans (by rw [h]; rfl)
  | number hn hchar => exact (readText?_number hn hchar rest).trans (by rw [h]; rfl)
  | pair hfirst hhigh hsecond hlow =>
    exact (readText?_pair hfirst hhigh hsecond hlow rest).trans (by rw [h]; rfl)

/-- What spells a string is read as that string, up to its quote. -/
theorem readText?_of_spells {s cs : List Char} (h : SpellsText s cs) (rest : List Char) :
    readText? (cs ++ Text.doubleQuote :: rest) = some (s, cs.length + 1) := by
  induction h with
  | nil => exact readText?_quote rest
  | @cons c cs s ds hc _ ih =>
    rw [List.append_assoc, readText?_cons hc ih, List.length_append]
    congr 2
    omega

/-! ## Numbers -/

/-- A text does not go on with a number. -/
def Ends (rest : List Char) : Prop := ∀ c ∈ rest.head?, isNumberChar c = false

theorem digitChar_spec : ∀ d < 10,
    Num.isAsciiDigit d.digitChar = true ∧ d.digitChar.toNat - '0'.toNat = d := by
  decide

/-- A digit more makes a number ten times as large and adds the digit. -/
theorem ofDecimalDigits_concat (cs : List Char) (c : Char) :
    Num.ofDecimalDigits (cs ++ [c]) = Num.ofDecimalDigits cs * 10 + (c.toNat - '0'.toNat) := by
  unfold Num.ofDecimalDigits Num.ofDigits
  rw [List.map_append, List.foldl_append]
  rfl

/-- What spells a natural number is some digits, with that number as their value. -/
theorem digits_of_spells {n : Nat} {cs : List Char} (h : SpellsNumber n cs) :
    cs ≠ [] ∧ cs.all Num.isAsciiDigit = true ∧ Num.ofDecimalDigits cs = n := by
  induction h with
  | @digit d hd =>
    obtain ⟨hdigit, hvalue⟩ := digitChar_spec d hd
    have hone := ofDecimalDigits_concat [] d.digitChar
    -- the value of one digit is that of no digit with it
    rw [hvalue] at hone
    exact ⟨List.cons_ne_nil _ _, by simp [hdigit], hone.trans (Nat.zero_add d)⟩
  | @more n d cs _ _ hd ih =>
    obtain ⟨hdigit, hvalue⟩ := digitChar_spec d hd
    obtain ⟨-, hall, hn⟩ := ih
    refine ⟨by simp, by simp [hall, hdigit], ?_⟩
    rw [ofDecimalDigits_concat, hn, hvalue]

/-- Digits are read as their value, and with a minus sign as its negative. -/
theorem readInt?_of_digits {cs : List Char} (hne : cs ≠ []) (hall : cs.all Num.isAsciiDigit = true) :
    Num.readInt? cs = some (Num.ofDecimalDigits cs : Int) ∧
      Num.readInt? ('-' :: cs) = some (-(Num.ofDecimalDigits cs : Int)) := by
  have hsome : (cs.isEmpty || !cs.all Num.isAsciiDigit) = false := by
    rw [hall, Bool.not_true, Bool.or_false, List.isEmpty_eq_false_iff]
    exact hne
  refine ⟨?_, by simp only [Num.readInt?, hsome]; rfl⟩
  -- the first digit is no minus sign
  have hminus : ∀ ds, cs ≠ '-' :: ds := by
    rintro ds rfl
    exact absurd (List.all_eq_true.mp hall '-' List.mem_cons_self) (by decide)
  unfold Num.readInt?
  split
  next negative ds heq =>
    split at heq
    case h_1 ds' => exact absurd rfl (hminus ds')
    case h_2 =>
      cases heq
      rw [hsome]
      rfl

/-- What spells an integer: characters of numbers only, and at least one. -/
structure Figures (i : Int) (cs : List Char) : Prop where
  ne_nil : cs ≠ []
  all : cs.all isNumberChar = true
  read : readNumber? cs = some (.int i)

theorem isNumberChar_of_digit {c : Char} (h : Num.isAsciiDigit c = true) : isNumberChar c = true := by
  unfold isNumberChar
  rw [h]
  rfl

/-- A natural number is spelled by characters of numbers. -/
theorem figures_natural {n : Nat} {cs : List Char} (h : SpellsNumber n cs) : Figures n cs := by
  obtain ⟨hne, hall, hn⟩ := digits_of_spells h
  refine ⟨hne, List.all_eq_true.mpr fun c hc => ?_, ?_⟩
  · exact isNumberChar_of_digit (List.all_eq_true.mp hall c hc)
  · rw [readNumber?, (readInt?_of_digits hne hall).1, hn]

/-- So is a negative one, with a minus sign in front. -/
theorem figures_negative {n : Nat} {cs : List Char} (h : SpellsNumber n cs) :
    Figures (-n) ('-' :: cs) := by
  obtain ⟨hne, hall, hn⟩ := digits_of_spells h
  refine ⟨List.cons_ne_nil _ _, List.all_eq_true.mpr (List.forall_mem_cons.mpr ⟨rfl, fun c hc => ?_⟩), ?_⟩
  · exact isNumberChar_of_digit (List.all_eq_true.mp hall c hc)
  · rw [readNumber?, (readInt?_of_digits hne hall).2, hn]

/-! ## Cutting a text into tokens -/

theorem tokens?_space {c : Char} {cs : List Char} (hc : isSpace c = true) : tokens? (c :: cs) = tokens? cs := by
  rw [tokens?, if_pos hc]

theorem tokens?_token {c : Char} {cs : List Char} {t : Token} {k : Nat} (hc : isSpace c = false)
    (h : Token.read? c cs = some (t, k)) : tokens? (c :: cs) = (tokens? (cs.drop k)).map (t :: ·) := by
  rw [tokens?, if_neg (by simp [hc]), h]

/-- A text is cut into tokens, and so is all that follows. -/
def Cuts (cs : List Char) (ts : List Token) : Prop :=
  ∀ ⦃rest us⦄, Ends rest → tokens? rest = some us → tokens? (cs ++ rest) = some (ts ++ us)

theorem ends_cons {c : Char} (hc : isNumberChar c = false) (rest : List Char) : Ends (c :: rest) := by
  intro d hd
  cases hd
  exact hc

theorem cuts_nil : Cuts [] [] := fun _ _ _ hus => hus

/-- White space in front adds no token. -/
theorem cuts_spaceBefore {c : Char} {cs : List Char} {ts : List Token} (hc : isSpace c = true)
    (h : Cuts cs ts) : Cuts (c :: cs) ts := by
  intro rest us hrest hus
  rw [List.cons_append, tokens?_space hc]
  exact h hrest hus

theorem isNumberChar_of_space {c : Char} (hc : isSpace c = true) : isNumberChar c = false := by
  simp only [isSpace, Bool.or_eq_true, beq_iff_eq] at hc
  rcases hc with ((rfl | rfl) | rfl) | rfl <;> rfl

/-- White space behind adds no token either. -/
theorem cuts_spaceAfter {c : Char} {cs : List Char} {ts : List Token} (hc : isSpace c = true)
    (h : Cuts cs ts) : Cuts (cs ++ [c]) ts := by
  intro rest us hrest hus
  rw [List.append_assoc]
  exact h (ends_cons (isNumberChar_of_space hc) rest) ((tokens?_space hc).trans hus)

/-- White space alone has no tokens. -/
theorem cuts_blanks {blanks : List Char} (h : ∀ c ∈ blanks, isSpace c = true) : Cuts blanks [] := by
  induction blanks with
  | nil => exact cuts_nil
  | cons c cs ih =>
    obtain ⟨hc, hcs⟩ := List.forall_mem_cons.mp h
    exact cuts_spaceBefore hc (ih hcs)

/-- A text that is read as one token. -/
theorem cuts_token {c : Char} {cs : List Char} {t : Token} (hc : isSpace c = false)
    (h : ∀ rest, Ends rest → Token.read? c (cs ++ rest) = some (t, cs.length)) : Cuts (c :: cs) [t] := by
  intro rest us hrest hus
  rw [List.cons_append, tokens?_token hc (h rest hrest), List.drop_left, hus]
  rfl

/-- A character that is a token by itself. -/
theorem cuts_mark {c : Char} {cs : List Char} {t : Token} {ts : List Token} (hc : isSpace c = false)
    (ht : ∀ cs, Token.read? c cs = some (t, 0)) (h : Cuts cs ts) : Cuts (c :: cs) (t :: ts) := by
  intro rest us hrest hus
  rw [List.cons_append, tokens?_token hc (ht (cs ++ rest)), List.drop_zero, h hrest hus]
  rfl

/-- Texts one behind the other, where the first one has an end. -/
theorem cuts_append {cs ds : List Char} {ts us : List Token} (hcs : Cuts cs ts) (hds : Cuts ds us)
    (h : ∀ rest, Ends (ds ++ rest)) : Cuts (cs ++ ds) (ts ++ us) := by
  intro rest vs hrest hvs
  rw [List.append_assoc, List.append_assoc]
  exact hcs (h rest) (hds hrest hvs)

/-- Something between an opening and a closing mark. -/
theorem cuts_enclosed {o c : Char} {cs : List Char} {start stop : Token} {ts : List Token}
    (ho : isSpace o = false) (hstart : ∀ cs, Token.read? o cs = some (start, 0))
    (hc : isSpace c = false ∧ isNumberChar c = false) (hstop : ∀ cs, Token.read? c cs = some (stop, 0))
    (h : Cuts cs ts) : Cuts (o :: cs ++ [c]) (start :: ts ++ [stop]) :=
  cuts_append (cuts_mark ho hstart h) (cuts_mark hc.1 hstop cuts_nil) (ends_cons hc.2)

/-- A character of a number begins no other token. -/
theorem read?_number {c : Char} (hc : isNumberChar c = true) (cs : List Char) :
    Token.read? c cs = (readNumber? (c :: cs.takeWhile isNumberChar)).map fun j =>
      (.scalar j, (cs.takeWhile isNumberChar).length) := by
  have hne : ∀ d, isNumberChar d = false → c ≠ d := by
    rintro d hd rfl
    exact Bool.noConfusion (hc.symm.trans hd)
  unfold Token.read?
  rw [if_neg (hne '[' rfl), if_neg (hne ']' rfl), if_neg (hne (Char.ofNat 123) rfl),
    if_neg (hne (Char.ofNat 125) rfl), if_neg (hne ',' rfl), if_neg (hne ':' rfl),
    if_neg (hne Text.doubleQuote rfl), if_pos hc]

/-- A number goes on as long as it can, and no further than its own characters. -/
theorem takeWhile_number {cs rest : List Char} (hcs : cs.all isNumberChar = true) (hrest : Ends rest) :
    (cs ++ rest).takeWhile isNumberChar = cs := by
  have hnone : rest.takeWhile isNumberChar = [] := by
    cases rest with
    | nil => rfl
    | cons c rest => exact List.takeWhile_cons_of_neg (by simp [hrest c rfl])
  rw [List.takeWhile_append_of_pos (List.all_eq_true.mp hcs), hnone, List.append_nil]

/-- An integer is one token. -/
theorem cuts_figures {i : Int} {cs : List Char} (h : Figures i cs) : Cuts cs [.scalar (.int i)] := by
  obtain ⟨hne, hall, hread⟩ := h
  cases cs with
  | nil => exact absurd rfl hne
  | cons c cs =>
    rw [List.all_cons, Bool.and_eq_true] at hall
    -- a character of a number is no white space
    have hspace : isSpace c = false := by
      cases hc : isSpace c with
      | false => rfl
      | true => exact Bool.noConfusion (hall.1.symm.trans (isNumberChar_of_space hc))
    refine cuts_token hspace fun rest hrest => ?_
    rw [read?_number hall.1, takeWhile_number hall.2 hrest, hread]
    rfl

/-- A string is one token. -/
theorem cuts_string {s cs : List Char} (h : SpellsText s cs) :
    Cuts (Text.doubleQuote :: cs ++ [Text.doubleQuote]) [.scalar (.text (String.ofList s))] := by
  change Cuts (Text.doubleQuote :: (cs ++ [Text.doubleQuote])) _
  refine cuts_token rfl fun rest _ => ?_
  have hs := readText?_of_spells h rest
  have hread : Token.read? Text.doubleQuote (cs ++ Text.doubleQuote :: rest) =
      (readText? (cs ++ Text.doubleQuote :: rest)).map fun (s, n) =>
        (.scalar (.text (String.ofList s)), n) := rfl
  rw [List.append_assoc, List.length_append]
  exact hread.trans (by rw [hs]; rfl)

/-- There is a piece in every text. -/
theorem ne_nil_of_spells {ps : List Piece} {cs : List Char} (h : SpellsPieces ps cs) : ps ≠ [] := by
  induction h with
  | spaceBefore _ _ ih => exact ih
  | spaceAfter _ _ ih => exact ih
  | _ => exact List.cons_ne_nil _ _

/-- **The tokens of a text are those of the data that it spells.** -/
theorem cuts_of_spells {ps : List Piece} {cs : List Char} (h : SpellsPieces ps cs) :
    Cuts cs (Piece.separated ps) := by
  induction h with
  | spaceBefore hc _ ih => exact cuts_spaceBefore hc ih
  | spaceAfter hc _ ih => exact cuts_spaceAfter hc ih
  | null => exact cuts_token rfl fun rest _ => rfl
  | true => exact cuts_token rfl fun rest _ => rfl
  | false => exact cuts_token rfl fun rest _ => rfl
  | natural h => exact cuts_figures (figures_natural h)
  | negative h => exact cuts_figures (figures_negative h)
  | text h => exact cuts_string h
  | emptyArray h => exact cuts_enclosed rfl (fun _ => rfl) ⟨rfl, rfl⟩ (fun _ => rfl) (cuts_blanks h)
  | @array items _ _ ih =>
    rw [Piece.separated_one, Piece.tokens, tokens, itemTokens_eq]
    exact cuts_enclosed rfl (fun _ => rfl) ⟨rfl, rfl⟩ (fun _ => rfl) ih
  | emptyObject h => exact cuts_enclosed rfl (fun _ => rfl) ⟨rfl, rfl⟩ (fun _ => rfl) (cuts_blanks h)
  | @object bindings _ _ _ ih =>
    rw [Piece.separated_one, Piece.tokens, tokens, memberTokens_eq]
    exact cuts_enclosed rfl (fun _ => rfl) ⟨rfl, rfl⟩ (fun _ => rfl) ih
  | member _ _ ihkey ihj =>
    rw [Piece.separated_one] at ihkey ihj ⊢
    exact cuts_append ihkey (cuts_mark rfl (fun _ => rfl) ihj) (ends_cons rfl)
  | comma _ hps ihp ihps =>
    rw [Piece.separated_cons _ (ne_nil_of_spells hps)]
    rw [Piece.separated_one] at ihp
    exact cuts_append ihp (cuts_mark rfl (fun _ => rfl) ihps) (ends_cons rfl)

/-- A JSON text is cut into the tokens of its data. -/
theorem tokens?_of_spells {j : Json} {text : List Char} (h : Spells j text) :
    tokens? text = some j.tokens := by
  have hcuts : tokens? (text ++ []) = some (Piece.separated [.item j] ++ []) :=
    cuts_of_spells h nofun (by rw [tokens?])
  rwa [List.append_nil, List.append_nil, Piece.separated_one] at hcuts

/-! ## From tokens to data -/

/-- What may come next is an element. -/
inductive Expected.AllowsElement : Expected → Prop
  | value : AllowsElement .value
  | itemOrClose : AllowsElement .itemOrClose

/-- What may come next is a key. -/
inductive Expected.AllowsKey : Expected → Prop
  | key : AllowsKey .key
  | keyOrClose : AllowsKey .keyOrClose

/-- The tokens of an element complete it, whatever is open around it. -/
def Completes (j : Json) : Prop :=
  ∀ ⦃e : Expected⦄, e.AllowsElement → ∀ frames,
    j.tokens.foldlM Reading.take? ⟨frames, e⟩ = some (.complete frames j)

/-- The tokens of pieces add them to what is open, one after another: each piece where one may stand, and
behind a comma one may stand again. -/
theorem foldlM_separated {α : Type} (piece : α → Piece) (reading : Expected → List α → Reading)
    {Allows : Expected → Prop} {again : Expected} (hagain : Allows again)
    (hcomma : ∀ prior, (reading .separator prior).take? .comma = some (reading again prior)) {xs : List α}
    (hne : xs ≠ [])
    (hxs : ∀ x ∈ xs, ∀ ⦃e⦄, Allows e → ∀ prior,
      (piece x).tokens.foldlM Reading.take? (reading e prior) = some (reading .separator (x :: prior)))
    {e : Expected} (he : Allows e) (prior : List α) :
    (Piece.separated (xs.map piece)).foldlM Reading.take? (reading e prior) =
      some (reading .separator (xs.reverse ++ prior)) := by
  induction xs generalizing e prior with
  | nil => exact absurd rfl hne
  | cons x xs ih =>
    obtain ⟨hx, hrest⟩ := List.forall_mem_cons.mp hxs
    have hfirst := hx he prior
    cases xs with
    | nil => rwa [List.map_singleton, Piece.separated_one]
    | cons y ys =>
      have hmore := ih (List.cons_ne_nil y ys) hrest hagain (x :: prior)
      have hys : (y :: ys).map piece ≠ [] := List.cons_ne_nil _ _
      calc (Piece.separated ((x :: y :: ys).map piece)).foldlM Reading.take? (reading e prior)
          = (Piece.separated ((y :: ys).map piece)).foldlM Reading.take? (reading again (x :: prior)) := by
            rw [List.map_cons, Piece.separated_cons _ hys, List.foldlM_append, hfirst]
            simp only [Option.bind_eq_bind, Option.bind_some, List.foldlM_cons, hcomma]
        _ = some (reading .separator ((x :: y :: ys).reverse ++ prior)) := by
            rw [hmore, List.reverse_cons (a := x), List.append_assoc]
            rfl

/-- The items of an array are read into the array that is open. -/
theorem foldlM_items {items : List Json} (hne : items ≠ []) (h : ∀ j ∈ items, j.Completes)
    (frames : List Frame) :
    (Piece.separated (items.map .item)).foldlM Reading.take? ⟨.array [] :: frames, .itemOrClose⟩ =
      some ⟨.array items.reverse :: frames, .separator⟩ := by
  have hfold := foldlM_separated .item (fun e prior => ⟨.array prior :: frames, e⟩)
    .value (fun _ => rfl) hne (fun j hj e he prior => h j hj he (.array prior :: frames)) .itemOrClose []
  rwa [List.append_nil] at hfold

/-- The members of an object are read into the object that is open. -/
theorem foldlM_members {bindings : List (String × Json)} (hne : bindings ≠ [])
    (h : ∀ b ∈ bindings, b.2.Completes) (frames : List Frame) :
    (Piece.separated (bindings.map .member)).foldlM Reading.take? ⟨.object [] :: frames, .keyOrClose⟩ =
      some ⟨.object bindings.reverse :: frames, .separator⟩ := by
  -- a member is its key, a colon and an element, and the element completes it
  have hmember : ∀ b ∈ bindings, ∀ ⦃e : Expected⦄, e.AllowsKey → ∀ prior,
      (Piece.member b).tokens.foldlM Reading.take? ⟨.object prior :: frames, e⟩ =
        some ⟨.object (b :: prior) :: frames, .separator⟩ := by
    intro b hb e he prior
    have helement := h b hb .value (.binding prior b.1 :: frames)
    cases he <;> exact helement
  have hfold := foldlM_separated .member (fun e prior => ⟨.object prior :: frames, e⟩) .key (fun _ => rfl) hne
    hmember .keyOrClose []
  rwa [List.append_nil] at hfold

/-- What is between an opening and a closing mark is read before the closing one is. -/
theorem foldlM_enclosed {start stop : Token} {ts : List Token} {r s t u : Reading}
    (hstart : r.take? start = some s) (hts : ts.foldlM Reading.take? s = some t)
    (hstop : t.take? stop = some u) : (start :: ts ++ [stop]).foldlM Reading.take? r = some u := by
  rw [List.cons_append, List.foldlM_cons, hstart]
  simp only [Option.bind_eq_bind, Option.bind_some]
  rw [List.foldlM_append, hts]
  simp only [Option.bind_eq_bind, Option.bind_some]
  rw [List.foldlM_cons, hstop]
  rfl

/-- The tokens of an array complete it, if those of its items do. -/
theorem completes_array {items : List Json} (h : ∀ j ∈ items, j.Completes) : (array items).Completes := by
  intro e he frames
  cases items with
  | nil => cases he <;> rfl
  | cons item items =>
    -- the opening bracket opens an array without items, and the closing one turns the items round
    have hopen : (Reading.mk frames e).take? .openArray = some ⟨.array [] :: frames, .itemOrClose⟩ := by
      cases he <;> rfl
    have hclose : (Reading.mk (.array (item :: items).reverse :: frames) .separator).take? .closeArray =
        some (.complete frames (.array (item :: items))) :=
      congrArg (fun js => some (Reading.complete frames (.array js))) (List.reverse_reverse (item :: items))
    rw [tokens, itemTokens_eq]
    exact foldlM_enclosed hopen (foldlM_items (List.cons_ne_nil item items) h frames) hclose

/-- The tokens of an object complete it, if those of its members do. -/
theorem completes_object {bindings : List (String × Json)} (h : ∀ b ∈ bindings, b.2.Completes) :
    (object bindings).Completes := by
  intro e he frames
  cases bindings with
  | nil => cases he <;> rfl
  | cons b bindings =>
    -- likewise for the members
    have hopen : (Reading.mk frames e).take? .openObject = some ⟨.object [] :: frames, .keyOrClose⟩ := by
      cases he <;> rfl
    have hclose : (Reading.mk (.object (b :: bindings).reverse :: frames) .separator).take? .closeObject =
        some (.complete frames (.object (b :: bindings))) :=
      congrArg (fun bs => some (Reading.complete frames (.object bs))) (List.reverse_reverse (b :: bindings))
    rw [tokens, memberTokens_eq]
    exact foldlM_enclosed hopen (foldlM_members (List.cons_ne_nil b bindings) h frames) hclose

/-- The tokens of any data complete it, by the structure of the data. -/
theorem completes : ∀ j : Json, j.Completes
  | .null => fun _ he _ => by cases he <;> rfl
  | .bool _ => fun _ he _ => by cases he <;> rfl
  | .int _ => fun _ he _ => by cases he <;> rfl
  | .real _ => fun _ he _ => by cases he <;> rfl
  | .text _ => fun _ he _ => by cases he <;> rfl
  | .array items => completes_array fun j _ => completes j
  | .object bindings => completes_object fun b _ => completes b.2
termination_by j => sizeOf j
decreasing_by
  · have hj := List.sizeOf_lt_of_mem ‹_ ∈ items›
    simp only [array.sizeOf_spec]
    omega
  · have hb := List.sizeOf_lt_of_mem ‹_ ∈ bindings›
    obtain ⟨k, j⟩ := b
    simp only [Prod.mk.sizeOf_spec] at hb
    simp only [object.sizeOf_spec]
    omega

/-- **Every JSON text is read as the data that it spells.** -/
theorem read?_of_spells {j : Json} {text : List Char} (h : Spells j text) : read? text = some j := by
  have hfold : j.tokens.foldlM Reading.take? ⟨[], .value⟩ = some ⟨[], .nothing j⟩ :=
    completes j .value []
  unfold read?
  rw [tokens?_of_spells h, Option.bind_some, hfold]

end EventHub.Json
