/-! # Cutting text into parts -/

namespace EventHub.Text

/-- The parts of a text between the characters that equal `separator`. -/
def splitAt (separator : Char) (s : List Char) : List (List Char) :=
  s.foldr (fun c parts =>
    if c = separator then [] :: parts
    else
      match parts with
      | p :: ps => (c :: p) :: ps
      | [] => [[c]]) [[]]

/-- A text in which every line ends with a line feed only. -/
def plainLines : List Char → List Char
  | '\r' :: '\n' :: cs => '\n' :: plainLines cs
  | '\r' :: cs => '\n' :: plainLines cs
  | c :: cs => c :: plainLines cs
  | [] => []

end EventHub.Text
