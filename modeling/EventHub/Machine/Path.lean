import EventHub.Text.Split

/-! # Paths

A path is a root and the names on the way. Empty names and single dots are left out, double dots are
kept, and a path that begins with exactly two slashes keeps both.
-/

namespace EventHub

/-- A path: the slashes it begins with, and its names. -/
structure Path where
  root : String
  names : List String
deriving DecidableEq, Repr

namespace Path

/-- How many slashes of a path's beginning count: one stands for any number but two. -/
def rootOf (s : List Char) : String :=
  match (s.takeWhile (· == '/')).length with
  | 0 => ""
  | 2 => "//"
  | _ => "/"

/-- The path that a text writes. -/
def ofText (s : String) : Path where
  root := rootOf s.toList
  names := ((Text.splitAt '/' s.toList).filter fun p => p ≠ [] ∧ p ≠ ['.']).map String.ofList

/-- The written form of a path. -/
def text (p : Path) : String :=
  if p.root = "" ∧ p.names = [] then "." else p.root ++ "/".intercalate p.names

/-- Whether a path does not depend on where the program runs. -/
def isAbsolute (p : Path) : Bool := p.root ≠ ""

/-- The user whose home a path begins in, which its first name tells behind a tilde; a tilde alone stands for
the user who runs the program. -/
def user? (p : Path) : Option String :=
  match p.root, p.names with
  | "", first :: _ =>
    match first.toList with
    | '~' :: user => some (String.ofList user)
    | _ => none
  | _, _ => none

/-- A home directory without the slashes at its end; what has nothing else is the root. -/
def homeText (home : String) : String :=
  match home.toList.reverse.dropWhile (· == '/') with
  | [] => "/"
  | cs => String.ofList cs.reverse

/-- A path with the home directory in place of a user. None when that home is not known. -/
def expandHome? (p : Path) (homeOf : String → Option String) : Option Path :=
  match p.user? with
  | none => some p
  | some user =>
    match homeOf user with
    | none => none
    | some home =>
      if (homeText home).startsWith "~" then none
      else
        let h := ofText (homeText home)
        some { h with names := h.names ++ p.names.tail }

/-- A path to something below. -/
def child (p : Path) (name : String) : Path := { p with names := p.names ++ [name] }

/-- The path without its last name. -/
def parent (p : Path) : Path := { p with names := p.names.dropLast }

end Path

end EventHub
