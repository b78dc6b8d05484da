import EventHub.Num.Decimal
import EventHub.Num.Shortest
import EventHub.OrderedMap
import EventHub.Text.Quoted

/-! # Values

The data that travels with events and sits in error details, log fields and settings. A value has a
literal form, which quotes text, and a plain form, which shows text as it is.
-/

namespace EventHub

/-- The identity of a published event as an actor sees it: its name, and the source of the pattern
that matched. -/
structure Event where
  name : String
  pattern : String
deriving DecidableEq, Repr

/-- An object of a type that has no values of its own here, such as a date or a set. It is known by its type,
its literal and plain forms, whether it counts as true, and whether its forms can be written. -/
structure Foreign where
  typeName : String
  literal : String
  plain : String
  truthy : Bool := true
  fits : Bool := true
deriving DecidableEq, Repr

/-- A dynamic value. The bindings of a dictionary are in order. -/
inductive Value where
  | none
  | bool (b : Bool)
  | int (i : Int)
  | float (x : Num.Binary64)
  | text (s : String)
  | bytes (bs : List UInt8)
  | list (items : List Value)
  | dict (bindings : List (Value × Value))
  | event (e : Event)
  | foreign (x : Foreign)
deriving Inhabited

/-- Named values in order. -/
abbrev Fields := OrderedMap String Value

namespace Value

/-- The name of a value's type. -/
def typeName : Value → String
  | .none => "NoneType"
  | .bool _ => "bool"
  | .int _ => "int"
  | .float _ => "float"
  | .text _ => "str"
  | .bytes _ => "bytes"
  | .list _ => "list"
  | .dict _ => "dict"
  | .event _ => "Event"
  | .foreign x => x.typeName

/-- Whether a value counts as true: all but nothing, false, zero and what is empty. -/
def isTruthy : Value → Bool
  | .none => false
  | .bool b => b
  | .int i => i != 0
  | .float x => x.isNonzero
  | .text s => s != ""
  | .bytes bs => !bs.isEmpty
  | .list xs => !xs.isEmpty
  | .dict kvs => !kvs.isEmpty
  | .event _ => true
  | .foreign x => x.truthy

/-- A text in quotes. -/
def quotedText (s : String) : List Char := Text.quoted s.toList

/-- Parts with a separator between them. -/
def joined (separator : String) (parts : List (List Char)) : List Char :=
  separator.toList.intercalate parts

/-- The text of an event in literal form. -/
def literalEvent (e : Event) : List Char :=
  "Event(name=".toList ++ quotedText e.name ++ ", pattern=".toList ++ quotedText e.pattern ++ [')']

/-- The text of a floating-point number. -/
def floatText (x : Num.Binary64) : List Char := x.text "nan".toList "inf".toList

mutual

/-- The characters of the literal form. -/
def literalChars : Value → List Char
  | .none => "None".toList
  | .bool b => (if b then "True" else "False").toList
  | .int i => Num.signedDecimal i
  | .float x => floatText x
  | .text s => quotedText s
  | .bytes bs => Text.quotedBytes bs
  | .list items => '[' :: joined ", " (literalItems items) ++ [']']
  | .dict bindings => Char.ofNat 123 :: joined ", " (literalBindings bindings) ++ [Char.ofNat 125]
  | .event e => literalEvent e
  | .foreign x => x.literal.toList

/-- The literal forms of the items of a list. -/
def literalItems : List Value → List (List Char)
  | [] => []
  | v :: vs => literalChars v :: literalItems vs

/-- The literal forms of the bindings of a dictionary. -/
def literalBindings : List (Value × Value) → List (List Char)
  | [] => []
  | (k, v) :: rest => (literalChars k ++ ": ".toList ++ literalChars v) :: literalBindings rest

end

/-- The literal form of a value: text is quoted, also inside lists and dictionaries. -/
def literal (v : Value) : String := String.ofList (literalChars v)

/-- The plain form of a value: a text is itself, an event its name, a foreign object has one of its own, and all
else its literal form. -/
def plain : Value → String
  | .text s => s
  | .event e => e.name
  | .foreign x => x.plain
  | v => literal v

mutual

/-- Whether a value can be written: no integer in it has more digits than the limit. -/
def fits : Value → Bool
  | .int i => (Num.decimal i.natAbs).length ≤ Num.digitLimit
  | .list items => itemsFit items
  | .dict bindings => bindingsFit bindings
  | .foreign x => x.fits
  | _ => true

/-- Whether the items of a list can be written. -/
def itemsFit : List Value → Bool
  | [] => true
  | v :: vs => fits v && itemsFit vs

/-- Whether the bindings of a dictionary can be written. -/
def bindingsFit : List (Value × Value) → Bool
  | [] => true
  | (k, v) :: rest => fits k && fits v && bindingsFit rest

end

/-- A number in the wide sense, in which false and true are zero and one. -/
def number? : Value → Option (Int ⊕ Num.Binary64)
  | .bool b => some (.inl (if b then 1 else 0))
  | .int i => some (.inl i)
  | .float x =>
    match x.magnitude? with
    | some (n, d) =>
      if n % d = 0 then some (.inl (if x.isNegative then -(n / d : Nat) else (n / d : Nat)))
      else some (.inr x)
    | Option.none => some (.inr x)
  | _ => Option.none

/-- Whether two values are the same key of a dictionary; numbers are compared by their value. -/
def sameKey (v w : Value) : Bool :=
  match v, w with
  | .none, .none => true
  | .text s, .text t => s = t
  | .bytes s, .bytes t => s = t
  | .event e, .event f => e = f
  | .foreign x, .foreign y => x = y
  | v, w =>
    match v.number?, w.number? with
    | some a, some b => a = b && a != .inr .nan
    | _, _ => false

/-- Whether a value can be a key of a dictionary. A foreign object is taken to be one. -/
def isKey : Value → Bool
  | .list _ => false
  | .dict _ => false
  | _ => true

/-- Named values as a dictionary. -/
def ofFields (fs : Fields) : Value := .dict (fs.map fun (k, v) => (.text k, v))

/-- Whether a value is the given text. -/
def isText (v : Value) (s : String) : Bool :=
  match v with
  | .text t => t = s
  | _ => false

end Value

end EventHub
