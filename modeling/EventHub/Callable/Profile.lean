import EventHub.Fault

/-! # Callables

What can be attached as an actor or wrapped as an emitter: functions, bound methods, objects that can
be called, classes, callables with arguments stored in advance, some functions built into the
language, and values that cannot be called at all. A callable is described by its shape, its names and
its signature; what its body does is left open.

An asynchronous callable is called without its body being run: the call only makes something that can
be awaited.
-/

namespace EventHub

/-- The functions built into the host language that are known here. -/
inductive Builtin where
  | length
  | greatest
  | dictionary
deriving DecidableEq, Repr

/-- How a callable came about. A method and a callable object receive the object first; a class runs
its initializer, and its objects may be callable asynchronously. Arguments are stored for a target. Where a
target has stored arguments itself, the two layers stay apart: they stand for objects with attributes of their
own, which are not merged. Layers that are merged are one layer here, with the arguments of both. -/
inductive Shape where
  | function
  | method (owner : String)
  | object (owner : String)
  | constructor (asynchronousCall : Bool)
  | builtin (b : Builtin)
  | plain (v : Value)
  | stored (target : Shape) (args : List Value) (named : Fields)

/-- The attributes by which callables are named. -/
inductive Attribute where
  | home
  | name
  | qualifiedName
deriving DecidableEq, Repr

/-- A callable whose body has type `β`. The body is told how often it ran before and what its
parameters received. -/
structure Callable (β : Type) where
  shape : Shape
  name : String
  asynchronous : Bool
  signature : Signature
  attributes : OrderedMap Attribute Value := []
  doc? : Option String := none
  label : String
  showsContext : Bool
  body : Nat → Fields → β

/-- What a call starts. -/
inductive Started where
  /-- The body runs, with what its parameters received. -/
  | runs (bound : Fields)
  /-- Something to be awaited; only then the body runs. -/
  | suspended (bound : Fields)
  /-- The call ends at once with a value. -/
  | gives (v : Value)

namespace Builtin

/-- The name of a built-in function. -/
def label : Builtin → String
  | .length => "len"
  | .greatest => "max"
  | .dictionary => "dict"

/-- The documented signature of a built-in function. -/
def signature? : Builtin → Option Signature
  | .length => some ⟨[⟨"obj", .positionalOnly, none, none⟩], none⟩
  | _ => none

/-- The documentation of a built-in function. -/
def doc : Builtin → String
  | .length => "Return the number of items in a container."
  | .greatest =>
    "max(iterable, *[, default=obj, key=func]) -> value\n"
      ++ "max(arg1, arg2, *args, *[, key=func]) -> value\n\n"
      ++ "With a single iterable argument, return its biggest item. The\n"
      ++ "default keyword-only argument specifies an object to return if\n"
      ++ "the provided iterable is empty.\n"
      ++ "With two or more arguments, return the largest argument."
  | .dictionary =>
    "dict() -> new empty dictionary\n"
      ++ "dict(mapping) -> new dictionary initialized from a mapping object's\n"
      ++ "    (key, value) pairs\n"
      ++ "dict(iterable) -> new dictionary initialized as if via:\n"
      ++ "    d = \x7b\x7d\n"
      ++ "    for k, v in iterable:\n"
      ++ "        d[k] = v\n"
      ++ "dict(**kwargs) -> new dictionary initialized with the name=value pairs\n"
      ++ "    in the keyword argument list.  For example:  dict(one=1, two=2)"

/-- The number of items of a value. -/
def lengthOf : Value → Except CallError Value
  | .text s => .ok (.int s.length)
  | .bytes bs => .ok (.int bs.length)
  | .list xs => .ok (.int xs.length)
  | .dict kvs => .ok (.int kvs.length)
  | v => .error (.noLength v.typeName)

/-- The greatest character of a text. -/
def greatestChar (s : String) : Value :=
  match s.toList with
  | [] => .none
  | c :: cs => .text (String.ofList [cs.foldl (fun a b => if a < b then b else a) c])

/-- The greater of two values; the first one when neither is greater. -/
def greater (v w : Value) : Except CallError Value :=
  match v, w with
  | .text s, .text t => .ok (.text (if s < t then t else s))
  | .int i, .int j => .ok (.int (if i < j then j else i))
  | v, w => .error (.notOrdered w.typeName v.typeName)

/-- Calls a built-in function. -/
def call (b : Builtin) (args : List Value) : Except CallError Value :=
  match b, args with
  | .length, [v] => lengthOf v
  | .length, args => .error (.exactlyOne "len" args.length)
  | .greatest, [.text s] => .ok (greatestChar s)
  | .greatest, v :: w :: rest => (w :: rest).foldlM greater v
  | .dictionary, _ :: _ :: rest => .error (.atMostOne "dict" (rest.length + 2))
  | _, _ => .ok .none

end Builtin

namespace Shape

/-- Whether a callable of this shape can be called. -/
def isCallable : Shape → Bool
  | .plain _ => false
  | _ => true

/-- The name of the type of a callable of this shape. -/
def typeName : Shape → String
  | .function => "function"
  | .method _ => "method"
  | .object owner => owner
  | .constructor _ => "type"
  | .builtin .dictionary => "type"
  | .builtin _ => "builtin_function_or_method"
  | .plain v => v.typeName
  | .stored .. => "partial"

/-- Whether an asynchronous body makes a callable of this shape an asynchronous function. -/
def isFunctionLike : Shape → Bool
  | .function => true
  | .method _ => true
  | .stored target _ _ => target.isFunctionLike
  | _ => false

/-- The module that a callable of this shape belongs to. -/
def home? : Shape → Option String
  | .builtin _ => some "builtins"
  | .plain (.event _) => some "mediator.event.types"
  | .plain _ => none
  | .stored .. => some "functools"
  | _ => some "app"

/-- The last part of a dotted name. -/
def lastPart (name : String) : String :=
  String.ofList ((Text.splitAt '.' name.toList).getLastD [])

/-- The simple name of a callable of this shape, defined under a name. -/
def simpleName? (name : String) : Shape → Option String
  | .function => some (lastPart name)
  | .method _ => some name
  | .constructor _ => some name
  | .builtin b => some b.label
  | _ => none

/-- The qualified name of a callable of this shape, defined under a name. -/
def qualifiedName? (name : String) : Shape → Option String
  | .method owner => some (owner ++ "." ++ name)
  | .function => some name
  | .constructor _ => some name
  | .builtin b => some b.label
  | _ => none

/-- How complaints about a call name a callable of this shape, defined under a name. -/
def callee (name : String) : Shape → String
  | .method owner => owner ++ "." ++ name
  | .object owner => owner ++ ".__call__"
  | .constructor _ => name ++ ".__init__"
  | .stored target _ _ => target.callee name
  | _ => name

/-- Whether a call hands over an object before the arguments. -/
def hasReceiver : Shape → Bool
  | .method _ => true
  | .object _ => true
  | .constructor _ => true
  | _ => false

/-- The signature that a caller sees, given that of the body; none when it cannot be told. -/
def signature? (own : Signature) : Shape → Option Signature
  | .builtin b => b.signature?
  | .plain _ => none
  | .stored target args named => (target.signature? own).bind (·.derive? args named)
  | _ => some own

/-- The parameter for the object that a call hands over. -/
def receiver (own : Signature) : Param :=
  let kind := match own.params with
    | p :: _ => if p.kind = .positionalOnly then .positionalOnly else .standard
    | [] => .standard
  ⟨"self", kind, none, none⟩

/-- Starts the body of a callable with the given signature. -/
def startBody (asynchronous : Bool) (bound : Fields) : Started :=
  if asynchronous then .suspended bound else .runs bound

/-- Starts a call, where `own` is the signature of the body. What the receiver is given is left out of
what the parameters received. -/
def start (callee : String) (own : Signature) (asynchronous : Bool) (args : List Value)
    (named : Fields) : Shape → Except CallError Started
  | .builtin b => (b.call args).map .gives
  | .plain v => .error (.notCallable v.typeName)
  | .stored target first before =>
    target.start callee own asynchronous (first ++ args) (OrderedMap.insertAll before named)
  | .function => (own.bind callee args named).map (startBody asynchronous)
  | .constructor _ =>
    (({ own with params := receiver own :: own.params } : Signature).bind callee (.none :: args)
      named).map fun bound => .runs (bound.drop 1)
  | _ =>
    (({ own with params := receiver own :: own.params } : Signature).bind callee (.none :: args)
      named).map fun bound => startBody asynchronous (bound.drop 1)

end Shape

namespace Callable

variable {β : Type}

/-- An attribute of a callable: as it was set, or else by its shape. -/
def attribute? (c : Callable β) (a : Attribute) : Option Value :=
  match c.attributes.find? a with
  | some v => some v
  | none =>
    match a with
    | .home => c.shape.home?.map .text
    | .name => (c.shape.simpleName? c.name).map .text
    | .qualifiedName => (c.shape.qualifiedName? c.name).map .text

/-- The literal form of a callable. -/
def literal (c : Callable β) : String :=
  match c.shape with
  | .object owner => "<" ++ owner ++ ">"
  | .plain v => v.literal
  | s => "<" ++ s.typeName ++ " " ++ c.name ++ ">"

/-- The documentation of all callables with arguments stored in advance. -/
def storedDoc : String :=
  "partial(func, *args, **keywords) - new function with partial application\n"
    ++ "    of the given arguments and keywords.\n"

/-- The documentation of a callable: its own, unless its shape has one. -/
def documentation? (c : Callable β) : Option String :=
  match c.shape with
  | .stored .. => some storedDoc
  | .builtin b => some b.doc
  | .object _ => none
  | _ => c.doc?

/-- Whether a callable is an asynchronous function. -/
def isAsynchronous (c : Callable β) : Bool := c.asynchronous && c.shape.isFunctionLike

/-- Whether calling the callable, or one of its objects, runs asynchronously. -/
def callsAsynchronously (c : Callable β) : Bool :=
  match c.shape with
  | .object _ => c.asynchronous
  | .constructor asynchronousCall => asynchronousCall
  | _ => false

/-- The name of a callable in complaints about it. -/
def shownName (c : Callable β) : Value :=
  match c.attribute? .qualifiedName with
  | some v => if v.isTruthy then v else (c.attribute? .name).getD (.text c.literal)
  | none => (c.attribute? .name).getD (.text c.literal)

/-- The signature that a caller sees, if it can be told. -/
def signature? (c : Callable β) : Option Signature := c.shape.signature? c.signature

/-- What is wrong with a callable as an actor, which is called with an event and a payload. A callable
whose signature cannot be told is trusted. -/
def objection? (c : Callable β) : Option String :=
  if !c.shape.isCallable then some "actor is not callable"
  else if c.isAsynchronous || c.callsAsynchronously then
    some "coroutine functions cannot be actors; dispatch is synchronous"
  else
    match c.signature? with
    | none => none
    | some s =>
      if s.accepts 2 then none
      else some ("actor must accept (event, payload), signature is " ++ s.shown)

/-- Refuses a callable that cannot be an actor. -/
def check (c : Callable β) : Except Fault Unit :=
  match c.objection? with
  | none => .ok ()
  | some reason => .error (.invalidActor c.shownName reason)

/-- The identifier of an actor that is given none: where it is from, what it is called, and the
pattern it is attached to. -/
def identifier (c : Callable β) (pattern : String) : String :=
  let home := match c.attribute? .home with
    | some v => if v.isTruthy then v else .text "unknown"
    | none => .text "unknown"
  let name := match c.attribute? .qualifiedName with
    | some v => v
    | none => (c.attribute? .name).getD (.text c.shape.typeName)
  home.plain ++ "." ++ name.plain ++ "@" ++ pattern

/-- How complaints about a call name the callable. The qualified name of a function can be changed. -/
def callee (c : Callable β) : String :=
  match c.shape, c.attributes.find? .qualifiedName with
  | .function, some v => v.plain
  | s, _ => s.callee c.name

/-- Starts a call. -/
def start (c : Callable β) (args : List Value) (named : Fields) : Except CallError Started :=
  c.shape.start c.callee c.signature c.asynchronous args named

end Callable

end EventHub
