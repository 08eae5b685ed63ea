import Understudy.Matcher.Input
import Understudy.Matcher.Wildcard
import Understudy.Matcher.NumericRange
import Understudy.Net.Network
import Understudy.Json.Comparison
import Understudy.JsonPath.Parser
import Understudy.Regex.Parser
import Understudy.XPath.Parser
import Understudy.Bytes.Base64
import Understudy.Score.Fold

/-!
# Matchers

A `Matcher` holds the patterns of one kind and scores an attribute: each pattern gives a match or a mismatch, its
fold makes one score of them, and its behaviour turns that over or not.
-/

namespace Understudy

namespace Matcher

structure Exact where
  value : String
  lower : String

namespace Exact

def ofText (s : String) : Exact := { value := s, lower := Text.lowercase s }

def matches? (e : Exact) (ignoreCase : Bool) (s : String) : Bool :=
  if ignoreCase then Text.lowercase s == e.lower else s == e.value

end Exact

structure Pattern where
  source : String
  regex : Regex

namespace Pattern

/-- A pattern that is matched by a regular expression in which a point stands for any character. -/
def build (source expression : String) (ignoreCase : Bool) : Option Pattern :=
  (Regex.parse? ignoreCase true expression).map fun regex => { source, regex }

def ofWildcard (source : String) (ignoreCase : Bool) : Option Pattern :=
  build source (Wildcard.expression source) ignoreCase

def ofRegex (source : String) (ignoreCase : Bool) : Option Pattern := build source source ignoreCase

def matches? (p : Pattern) (s : String) : Bool := p.regex.occursIn s

end Pattern

structure Query where
  source : String
  path : JsonPath

def Query.ofText? (source : String) : Option Query :=
  (JsonPath.parse? source).map fun path => { source, path }

inductive Kind where
  | exact (values : List Exact)
  | wildcard (patterns : List Pattern)
  | regex (patterns : List Pattern)
  | jsonPath (queries : List Query)
  /-- the value as a whole -/
  | json (expected : Json)
  /-- all that is in the value, and perhaps more -/
  | jsonPartial (expected : Json)
  | xPath (expressions : List String)
  | exactBytes (expected : Bytes)
  | numericRange (range : NumericRange)
  | network (networks : List Network)
  | notEmpty

def Kind.name : Kind → String
  | .exact _ => "ExactMatcher"
  | .wildcard _ => "WildcardMatcher"
  | .regex _ => "RegexMatcher"
  | .jsonPath _ => "JsonPathMatcher"
  | .json _ => "JsonMatcher"
  | .jsonPartial _ => "JsonPartialMatcher"
  | .xPath _ => "XPathMatcher"
  | .exactBytes _ => "ExactObjectMatcher"
  | .numericRange _ => "NumericRangeMatcher"
  | .network _ => "CidrMatcher"
  | .notEmpty => "NotNullOrEmptyMatcher"

def Kind.patterns : Kind → List Json
  | .exact vs => vs.map (.string ·.value)
  | .wildcard ps | .regex ps => ps.map (.string ·.source)
  | .jsonPath qs => qs.map (.string ·.source)
  | .json v | .jsonPartial v => [v]
  | .xPath es => es.map .string
  | .exactBytes b => [.string (Base64.encode b)]
  | .numericRange r => [r.toJson]
  | .network ns => ns.map (.string ·.text)
  | .notEmpty => []

/-- For each expression, whether it holds on the document; on a text that is no document none does. -/
def expressionsHold (expressions : List String) (document : String) : List Bool :=
  match Xml.parse? document with
  | none => expressions.map fun _ => false
  | some doc => expressions.map fun e => (XPath.parse? e).any (·.holds doc)

/--
For each pattern whether the attribute fits, or nothing when the attribute cannot be seen as the patterns need it.
-/
def Kind.verdicts (ignoreCase : Bool) (kind : Kind) (input : Attribute) : Option (List Bool) :=
  match kind with
  | .exact vs => input.text?.map fun s => vs.map (·.matches? ignoreCase s)
  | .wildcard ps | .regex ps => input.text?.map fun s => ps.map (·.matches? s)
  | .jsonPath qs => input.json?.map fun v => qs.map (·.path.selectsAny v)
  | .json e => input.json?.map fun v => [Json.equals ignoreCase e v]
  | .jsonPartial e => input.json?.map fun v => [Json.includes ignoreCase e v]
  | .xPath es => input.text?.map (expressionsHold es)
  | .exactBytes e => input.bytes?.map fun b => [b == e]
  | .numericRange r => input.text?.map fun s => [r.containsText s]
  | .network ns =>
    (input.text?.bind Network.addressIn?).map fun a => ns.map (·.contains a)
  | .notEmpty => some [input.isFilled]

/-- The kinds that hold a list of patterns, each of which gives a verdict of its own. -/
def Kind.isFolded : Kind → Bool
  | .exact _ | .wildcard _ | .regex _ | .jsonPath _ | .xPath _ | .network _ => true
  | _ => false

end Matcher

structure Matcher where
  kind : Matcher.Kind
  ignoreCase : Bool
  behaviour : Behaviour
  fold : Fold

namespace Matcher

/-- A matcher that accepts, takes the best score and regards case. -/
def ofKind (kind : Kind) : Matcher :=
  { kind, ignoreCase := false, behaviour := .accept, fold := .or }

def exact (s : String) : Matcher := ofKind (.exact [.ofText s])

def exactAny (texts : List String) : Matcher := ofKind (.exact (texts.map .ofText))

def json (expected : Json) : Matcher := ofKind (.json expected)

def jsonPartial (expected : Json) : Matcher := ofKind (.jsonPartial expected)

def xPath (expression : String) : Matcher := ofKind (.xPath [expression])

def exactBytes (expected : Bytes) : Matcher := ofKind (.exactBytes expected)

def numericRange (min max : Option Binary64) : Matcher := ofKind (.numericRange { min, max })

def notEmpty : Matcher := ofKind .notEmpty

def wildcard (pattern : String) : Except Error Matcher :=
  match Pattern.ofWildcard pattern false with
  | some p => pure (ofKind (.wildcard [p]))
  | none => throw (.pattern "WildcardMatcher" pattern .unreadable)

def regex (pattern : String) : Except Error Matcher :=
  match Pattern.ofRegex pattern false with
  | some p => pure (ofKind (.regex [p]))
  | none => throw (.pattern "RegexMatcher" pattern .unreadable)

def jsonPath (path : String) : Except Error Matcher :=
  match Query.ofText? path with
  | some q => pure (ofKind (.jsonPath [q]))
  | none => throw (.pattern "JsonPathMatcher" path .unreadable)

def readNetwork (s : String) : Except Error Network :=
  (Network.parse s).mapError (.pattern "CidrMatcher" s ·)

def network (s : String) : Except Error Matcher :=
  (readNetwork s).map fun n => ofKind (.network [n])

def name (m : Matcher) : String := m.kind.name

def patterns (m : Matcher) : List Json := m.kind.patterns

variable {α : Type} [Scale α]

/-- The score before the behaviour is applied. -/
def rawScore (m : Matcher) (input : Attribute) : α :=
  match m.kind.verdicts m.ignoreCase input with
  | none => Scale.zero
  | some verdicts =>
    if m.kind.isFolded then m.fold.combine (verdicts.map Scale.ofBool)
    else Scale.ofBool (verdicts.all id)

def score (m : Matcher) (input : Attribute) : α := m.behaviour.apply (m.rawScore input)

end Matcher

end Understudy
