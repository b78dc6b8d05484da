import EventHub.Regex.Expression
import EventHub.Value
import EventHub.Wildcard

/-! # Patterns and matchers

What a caller may give as a pattern, and the matcher it is compiled to. A matcher keeps the source as
the caller wrote it; its key identifies it, so that equal patterns share one registry entry.
-/

namespace EventHub

/-- The two languages of patterns. -/
inductive PatternKind where
  | wildcard
  | regex
deriving DecidableEq, Repr

/-- The name of a kind. -/
def PatternKind.label : PatternKind → String
  | .wildcard => "wildcard"
  | .regex => "regex"

/-- A compiled pattern. -/
structure Matcher where
  kind : PatternKind
  source : String
  expression : Expression

namespace Matcher

/-- Whether the pattern accepts an event name. -/
def test (m : Matcher) (name : String) : Bool := m.expression.test name

/-- The text that identifies a pattern: its kind, its source and, for an expression, its modes. -/
def key (m : Matcher) : String :=
  match m.kind with
  | .regex => "regex:/" ++ m.source ++ "/" ++ toString m.expression.modes.bits
  | .wildcard => "wildcard:" ++ m.source

/-- The pattern as it is listed: an expression stands between slashes. -/
def shown (m : Matcher) : String :=
  match m.kind with
  | .regex => "/" ++ m.source ++ "/"
  | .wildcard => m.source

end Matcher

/-- A pattern in a tagged form that leaves no doubt about its language. The tag of an expression goes with one
over text. It is not looked at: one over bytes would pass for a pattern here and break every test, and is left
out. -/
inductive PatternSpec where
  | wildcard (source : String)
  | regex (e : Expression)

/-- The name of a tagged form. -/
def PatternSpec.label : PatternSpec → String
  | .wildcard _ => "WildcardSpec"
  | .regex _ => "RegexSpec"

/-- What a caller may give where a pattern is expected. Only plain text, an expression, a tagged form
or a matcher is one; expressions over bytes and other values are refused. -/
inductive Pattern where
  | plain (v : Value)
  | expression (e : Expression)
  | spec (s : PatternSpec)
  | matcher (m : Matcher)
  | byteExpression (source : List UInt8)

/-- Why something is not a pattern. -/
inductive PatternError where
  | tripleStar (source : String)
  | overBytes (source : List UInt8)
  | unsupported (v : Value)
  | unreadable (source : String)

namespace PatternError

/-- The rejected pattern as text. The quoted source of an expression over bytes is cut after two
hundred characters. -/
def subject : PatternError → String
  | .tripleStar source => source
  | .overBytes source =>
    "re.compile(" ++ String.ofList ((Text.quotedBytes source).take 200) ++ ")"
  | .unsupported v => v.plain
  | .unreadable source => source

/-- The reason for the rejection. -/
def reason : PatternError → String
  | .tripleStar _ => "three or more consecutive '*' are not allowed"
  | .overBytes _ => "byte-string expressions cannot match event names"
  | .unsupported v =>
    "expected a wildcard string or compiled regular expression, got " ++ v.typeName
  | .unreadable _ => "the expression cannot be read"

end PatternError

namespace Pattern

/-- The expression text of a wildcard pattern. -/
def wildcardExpression? (source : String) : Except PatternError String :=
  if Wildcard.isMalformed source.toList then .error (.tripleStar source)
  else .ok (String.ofList (Wildcard.expression source.toList))

/-- The matcher of a wildcard pattern. -/
def compileWildcard? (source : String) : Except PatternError Matcher :=
  match wildcardExpression? source with
  | .error e => .error e
  | .ok text =>
    match Expression.compile? text {} with
    | some e => .ok ⟨.wildcard, source, e⟩
    | none => .error (.unreadable source)

/-- The tagged form of a pattern. A matcher is none. -/
def toSpec? : Pattern → Except PatternError PatternSpec
  | .plain (.text s) => .ok (.wildcard s)
  | .plain v => .error (.unsupported v)
  | .expression e => .ok (.regex e)
  | .spec s => .ok s
  | .matcher m => .error (.unreadable m.source)
  | .byteExpression source => .error (.overBytes source)

/-- The matcher of a tagged form. -/
def ofSpec? : PatternSpec → Except PatternError Matcher
  | .wildcard s => compileWildcard? s
  | .regex e => .ok ⟨.regex, e.source, e⟩

/-- The matcher of a pattern; a matcher is its own. -/
def compile? : Pattern → Except PatternError Matcher
  | .matcher m => .ok m
  | p => (toSpec? p).bind ofSpec?

end Pattern

end EventHub
