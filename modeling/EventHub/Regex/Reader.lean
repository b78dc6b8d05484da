import EventHub.Regex.Token

/-! # From tokens to an expression

Tokens are read from left to right into the group that is open. A bar ends an alternative of it, an
opening parenthesis puts it aside until its own group is closed, and a repetition applies to the item
before it.
-/

namespace EventHub.Regex

/-- An item of a sequence, and whether a repetition may follow it. -/
structure Item where
  body : Regex
  repeatable : Bool

/-- An open group: its earlier alternatives and the items of the last one, both latest first. -/
structure Group where
  kind : GroupKind
  alternatives : List Regex
  items : List Item

/-- A group that holds nothing yet. -/
def Group.begin (kind : GroupKind) : Group := ⟨kind, [], []⟩

/-- The expression of the last alternative. -/
def Group.current (g : Group) : Regex := sequence (g.items.reverse.map (·.body))

/-- The expression of a group. -/
def Group.body (g : Group) : Regex :=
  g.alternatives.foldl (fun right left => .either left right) g.current

/-- A group with one more item. -/
def Group.push (g : Group) (item : Item) : Group := { g with items := item :: g.items }

/-- A closed group as an item of the group around it. -/
def Group.toItem (g : Group) : Item :=
  match g.kind with
  | .plain => ⟨g.body, true⟩
  | .ahead negated => ⟨.ahead negated g.body, true⟩

/-- Takes one token into the open groups, innermost first. Nothing or a condition on the position
cannot be repeated, nor can a repetition, and there must be a group to close. -/
def readToken? : List Group → Token → Option (List Group)
  | g :: outer, .atom (.anchor a) => some (g.push ⟨.anchor a, false⟩ :: outer)
  | g :: outer, .atom r => some (g.push ⟨r, true⟩ :: outer)
  | g :: outer, .times least most =>
    match g.items with
    | item :: items =>
      if item.repeatable then
        some ({ g with items := ⟨.repeated least most item.body, false⟩ :: items } :: outer)
      else none
    | [] => none
  | g :: outer, .bar => some ({ g with alternatives := g.current :: g.alternatives, items := [] } :: outer)
  | groups, .opening kind => some (Group.begin kind :: groups)
  | g :: h :: outer, .closing => some (h.push g.toItem :: outer)
  | _, _ => none

/-- The expression that a list of tokens stands for; every group must be closed. -/
def ofTokens? (ts : List Token) : Option Regex :=
  match ts.foldlM readToken? [Group.begin .plain] with
  | some [g] => some g.body
  | _ => none

end EventHub.Regex
