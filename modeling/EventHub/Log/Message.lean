import EventHub.Log.Conversion

/-! # Messages with places for arguments

Arguments fill the places of a message from left to right, and two percent signs are one. All places must be
filled and all arguments used. A single dictionary fills places by name, as in `%(key)s`, and need not be used.
-/

namespace EventHub.Log

/-- A piece of a message. -/
inductive Piece where
  | literal (c : Char)
  | place (p : Place)
deriving Repr

/-- The pieces of a message; `index` counts the characters before the text. -/
def pieces (index : Nat) (text : List Char) : List Piece :=
  match text with
  | [] => []
  | '%' :: '%' :: cs => .literal '%' :: pieces (index + 2) cs
  | '%' :: cs =>
    let (p, length) := readPlace (index + 1) cs
    .place p :: pieces (index + 1 + length) (cs.drop length)
  | c :: cs => .literal c :: pieces (index + 1) cs
termination_by text.length
decreasing_by all_goals simp only [List.length_cons, List.length_drop]; omega

/-- The text of a piece. -/
def Piece.text (named : Option (List (Value × Value))) : Piece → Filling (List Char)
  | .literal c => return [c]
  | .place p => p.text named

/-- Fills the places of a message, by name from `named` where they have keys. -/
def fill (named : Option (List (Value × Value))) (message : String) (args : List Value) :
    Except Fault String := do
  let (texts, rest) ← ((pieces 0 message.toList).mapM (Piece.text named)).run args
  if rest.isEmpty || named.isSome then return String.ofList texts.flatten
  else throw (.badMessage .typeError "not all arguments converted during string formatting")

/-- The text of a message with its arguments; without arguments nothing is filled in. -/
def messageText (message : Value) (args : List Value) : Except Fault String :=
  match args with
  | [] => if message.fits then .ok message.plain else .error .tooManyDigits
  | [.dict (b :: bs)] => fill (some (b :: bs)) message.plain [.dict (b :: bs)]
  | args => fill none message.plain args

end EventHub.Log
