import EventHub.Value

/-! # Signatures

The parameters of a callable, and how a signature is written. `derive?` gives the signature that is
left once some arguments are stored in advance.
-/

namespace EventHub

/-- How a parameter takes its argument. -/
inductive ParamKind where
  | positionalOnly
  | standard
  | rest
  | keywordOnly
  | keywordRest
deriving DecidableEq, Repr

/-- A parameter. -/
structure Param where
  name : String
  kind : ParamKind
  default? : Option Value
  annotation? : Option String

/-- The parameters of a callable, and the annotation of what it returns. -/
structure Signature where
  params : List Param
  returns? : Option String

namespace Param

/-- Whether an argument may be given by position. -/
def isPositional (p : Param) : Bool := p.kind = .positionalOnly || p.kind = .standard

/-- Whether an argument may be given by name. -/
def isNamed (p : Param) : Bool := p.kind = .standard || p.kind = .keywordOnly

/-- Whether an argument has to be given. -/
def isRequired (p : Param) : Bool :=
  p.default?.isNone && p.kind ≠ .rest && p.kind ≠ .keywordRest

/-- A parameter as it is written. -/
def shown (p : Param) : String :=
  let marks := match p.kind with
    | .rest => "*"
    | .keywordRest => "**"
    | _ => ""
  let annotation := match p.annotation? with
    | some t => ": " ++ t
    | none => ""
  let value := match p.default? with
    | some v => (if p.annotation?.isSome then " = " else "=") ++ v.literal
    | none => ""
  marks ++ p.name ++ annotation ++ value

end Param

namespace Signature

/-- Whether some parameter has the given kind. -/
def has (s : Signature) (k : ParamKind) : Bool := s.params.any (·.kind = k)

/-- The parameters that take arguments by position. -/
def positional (s : Signature) : List Param := s.params.filter (·.isPositional)

/-- The parameters that take arguments by name only. -/
def keywordOnly (s : Signature) : List Param := s.params.filter (·.kind = .keywordOnly)

/-! ## Written form -/

/-- The parts between the parentheses. A slash ends the positional-only parameters, and a star begins
the keyword-only ones unless a parameter for the rest stands before them. -/
def parts (afterPositional starPending : Bool) : List Param → List String
  | [] => if afterPositional then ["/"] else []
  | p :: ps =>
    let slash := afterPositional && p.kind ≠ .positionalOnly
    let star := p.kind = .keywordOnly && starPending
    (if slash then ["/"] else []) ++ (if star then ["*"] else []) ++ p.shown ::
      parts (p.kind = .positionalOnly) (starPending && !star && p.kind ≠ .rest) ps

/-- A signature as it is written. -/
def shown (s : Signature) : String :=
  let arrow := match s.returns? with
    | some t => " -> " ++ t
    | none => ""
  "(" ++ ", ".intercalate (parts false true s.params) ++ ")" ++ arrow

/-! ## Arguments stored in advance -/

/-- Whether a call with `count` arguments, all by position, fits. -/
def accepts (s : Signature) (count : Nat) : Bool :=
  (count ≤ s.positional.length || s.has .rest)
    && (s.positional.drop count).all (!·.isRequired) && s.keywordOnly.all (!·.isRequired)

/-- Whether stored arguments fit in part: none is left over or given twice, and a positional-only
parameter is not named. -/
def acceptsStored (s : Signature) (args : List Value) (named : Fields) : Bool :=
  let names := named.keys
  let direct := s.positional.take args.length
  let others := s.params.filter fun p => !(direct.any (·.name = p.name))
  let taken := (others.filter (·.isNamed)).map (·.name)
  (args.length ≤ s.positional.length || s.has .rest)
    && direct.all (fun p => p.kind ≠ .standard || !names.contains p.name)
    && others.all (fun p => p.kind ≠ .positionalOnly || !names.contains p.name)
    && (s.has .keywordRest || names.all taken.contains)

/-- The parameters from the first one that is stored by name. From there on arguments can be given by
name only, and there is no place for a rest of positional ones. -/
def byName (named : Fields) (p : Param) : List Param :=
  let value := match named.find? p.name with
    | some v => some v
    | none => p.default?
  match p.kind with
  | .standard => [{ p with kind := .keywordOnly, default? := value }]
  | .keywordOnly => [{ p with default? := value }]
  | .rest => []
  | _ => [p]

/-- The signature that is left once arguments are stored by position and by name; none when they do
not fit. -/
def derive? (s : Signature) (args : List Value) (named : Fields) : Option Signature :=
  if !s.acceptsStored args named then none else
  let direct := s.positional.take args.length
  let open_ := s.params.filter fun p => !(direct.any (·.name = p.name))
  let byStoredName (p : Param) : Bool := p.kind = .standard && named.contains p.name
  let before := open_.takeWhile (!byStoredName ·)
  let onward := open_.drop before.length
  let before := before.map fun p =>
    if p.kind = .keywordOnly then
      { p with default? := match named.find? p.name with
        | some v => some v
        | none => p.default? }
    else p
  some { s with params := before ++ onward.flatMap (byName named) }

end Signature

end EventHub
