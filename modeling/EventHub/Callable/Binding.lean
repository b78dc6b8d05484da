import EventHub.Callable.Signature

/-! # Binding the arguments of a call

A call gives arguments by position and by name. Binding hands each parameter what it receives, or
finds the first fault: a name that fits no parameter or one given twice, too many arguments, missing
ones by position, missing ones by name.
-/

namespace EventHub

/-- Why a call does not come about. -/
inductive CallError where
  | givenTwice (callee name : String)
  | positionalOnlyNamed (callee : String) (names : List String)
  | unexpectedName (callee name : String)
  | tooMany (callee : String) (least most given keywordsGiven : Nat)
  | missing (callee : String) (byName : Bool) (names : List String)
  | notCallable (typeName : String)
  | exactlyOne (callee : String) (given : Nat)
  | atMostOne (callee : String) (given : Nat)
  | notOrdered (left right : String)
  | noLength (typeName : String)
  | nameNotText (name : String)

/-- The plural ending for a count. -/
def pluralEnding (n : Nat) : String := if n = 1 then "" else "s"

/-- Names in apostrophes as an enumeration. -/
def enumerated (names : List String) : String :=
  let quotes := names.map fun n => "'" ++ n ++ "'"
  match quotes with
  | [] => ""
  | [a] => a
  | [a, b] => a ++ " and " ++ b
  | _ =>
    let n := quotes.length
    ", ".intercalate (quotes.take (n - 2)) ++ ", " ++ ", and ".intercalate (quotes.drop (n - 2))

/-- The wording of a call that does not come about. -/
def CallError.message : CallError → String
  | .givenTwice callee name => callee ++ "() got multiple values for argument '" ++ name ++ "'"
  | .positionalOnlyNamed callee names =>
    callee ++ "() got some positional-only arguments passed as keyword arguments: '"
      ++ ", ".intercalate names ++ "'"
  | .unexpectedName callee name =>
    callee ++ "() got an unexpected keyword argument '" ++ name ++ "'"
  | .tooMany callee least most given keywordsGiven =>
    let takes :=
      if least < most then "from " ++ toString least ++ " to " ++ toString most ++ " positional arguments"
      else toString most ++ " positional argument" ++ pluralEnding most
    let keywords :=
      if keywordsGiven = 0 then ""
      else " positional argument" ++ pluralEnding given ++ " (and " ++ toString keywordsGiven
        ++ " keyword-only argument" ++ pluralEnding keywordsGiven ++ ")"
    callee ++ "() takes " ++ takes ++ " but " ++ toString given ++ keywords
      ++ (if given = 1 ∧ keywordsGiven = 0 then " was given" else " were given")
  | .missing callee byName names =>
    callee ++ "() missing " ++ toString names.length ++ " required "
      ++ (if byName then "keyword-only" else "positional") ++ " argument" ++ pluralEnding names.length
      ++ ": " ++ enumerated names
  | .notCallable typeName => "'" ++ typeName ++ "' object is not callable"
  | .exactlyOne callee given =>
    callee ++ "() takes exactly one argument (" ++ toString given ++ " given)"
  | .atMostOne callee given =>
    callee ++ " expected at most 1 argument, got " ++ toString given
  | .notOrdered left right =>
    "'>' not supported between instances of '" ++ left ++ "' and '" ++ right ++ "'"
  | .noLength typeName => "object of type '" ++ typeName ++ "' has no len()"
  | .nameNotText name => name ++ " must be set to a string object"

namespace Signature

/-- What named arguments bind: parameters, and names of their own where a parameter takes the rest. -/
structure Named where
  bound : Fields := []
  others : Fields := []

/-- Binds one named argument, given the parameters that are bound by position. -/
def bindNamed (s : Signature) (callee : String) (direct : List Param) (names : List String)
    (acc : Named) (arg : String × Value) : Except CallError Named :=
  let (name, value) := arg
  if s.params.any fun p => p.isNamed && p.name = name then
    if direct.any (·.name = name) || acc.bound.contains name then .error (.givenTwice callee name)
    else .ok { acc with bound := acc.bound ++ [(name, value)] }
  else if s.has .keywordRest then .ok { acc with others := acc.others ++ [(name, value)] }
  else
    let hidden := (s.params.filter fun p => p.kind = .positionalOnly && names.contains p.name).map (·.name)
    if hidden.isEmpty then .error (.unexpectedName callee name)
    else .error (.positionalOnlyNamed callee hidden)

/-- What a parameter receives, if it is given something or has a default. -/
def received? (direct : Fields) (extra : List Value) (named : Named) (p : Param) : Option Value :=
  match p.kind with
  | .rest => some (.list extra)
  | .keywordRest => some (Value.ofFields named.others)
  | _ =>
    match direct.find? p.name with
    | some v => some v
    | none =>
      match named.bound.find? p.name with
      | some v => some v
      | none => p.default?

/-- Binds the arguments of a call to the parameters, in the order of the parameters. -/
def bind (s : Signature) (callee : String) (args : List Value) (named : Fields) :
    Except CallError Fields := do
  let places := s.positional
  let direct := places.take args.length
  let taken ← named.foldlM (s.bindNamed callee direct named.keys) {}
  if places.length < args.length && !s.has .rest then
    let keywordsGiven := (s.keywordOnly.filter fun p => taken.bound.contains p.name).length
    .error (.tooMany callee (places.filter (·.isRequired)).length places.length args.length
      keywordsGiven)
  else
    let open_ (p : Param) : Bool := p.isRequired && !taken.bound.contains p.name
    let missing := (places.drop args.length).filter open_
    if !missing.isEmpty then .error (.missing callee false (missing.map (·.name)))
    else
      let missing := s.keywordOnly.filter open_
      if !missing.isEmpty then .error (.missing callee true (missing.map (·.name)))
      else
        let byPlace := (direct.map (·.name)).zip args
        .ok (s.params.filterMap fun p =>
          (received? byPlace (args.drop places.length) taken p).map (p.name, ·))

end Signature

end EventHub
