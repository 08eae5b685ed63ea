import Understudy.Matcher.Basic
import Understudy.Json.Labelled
import Understudy.Form.Basic
import Understudy.Error

/-!
# Matchers from their written form

`Matcher.compile` makes a matcher from the name of its kind and its patterns; `Matcher.ofForm` and `Matcher.toForm` go
between matchers and their written form.
-/

namespace Understudy

namespace Matcher

/-- The patterns as texts: texts, numbers and truth values are; at least one is needed. -/
def textPatterns (name : String) (patterns : List Json) : Except Error (List String) :=
  if patterns.isEmpty then throw (.pattern name "" .noPattern)
  else patterns.mapM fun p =>
    match p with
    | .string s => pure s
    | .number n => pure n.text
    | .bool b => pure (if b then "true" else "false")
    | p => throw (.pattern name p.compact .noText)

/-- The one value that is expected; a text that reads as JSON stands for what it says. -/
def jsonPattern (name : String) (patterns : List Json) : Except Error Json :=
  match patterns with
  | [.string s] => pure ((Json.parse? s).getD (.string s))
  | [v] => pure v
  | ps => throw (.pattern name (Json.labelledList ps) .notOneJson)

/-- Each text as a pattern of the kind, or the first one that cannot be read. -/
def readAll {α : Type} (name : String) (read? : String → Option α) (texts : List String) :
    Except Error (List α) :=
  texts.mapM fun s =>
    match read? s with
    | some a => pure a
    | none => throw (.pattern name s .unreadable)

def Kind.compile (name : String) (patterns : List Json) (ignoreCase : Bool) : Except Error Kind := do
  match name with
  | "ExactMatcher" =>
    let texts ← textPatterns name patterns
    pure (.exact (texts.map .ofText))
  | "WildcardMatcher" =>
    let texts ← textPatterns name patterns
    let ps ← readAll name (Pattern.ofWildcard · ignoreCase) texts
    pure (.wildcard ps)
  | "RegexMatcher" =>
    let texts ← textPatterns name patterns
    let ps ← readAll name (Pattern.ofRegex · ignoreCase) texts
    pure (.regex ps)
  | "JsonPathMatcher" =>
    let texts ← textPatterns name patterns
    let qs ← readAll name Query.ofText? texts
    pure (.jsonPath qs)
  | "JsonMatcher" =>
    let v ← jsonPattern name patterns
    pure (.json v)
  | "JsonPartialMatcher" =>
    let v ← jsonPattern name patterns
    pure (.jsonPartial v)
  | "XPathMatcher" =>
    let texts ← textPatterns name patterns
    if texts.any Text.isAllBlank then throw (.pattern name "" .emptyPath)
    pure (.xPath texts)
  | "ExactObjectMatcher" =>
    let texts ← textPatterns name patterns
    match texts with
    | [encoded] =>
      match Base64.decode? encoded with
      | some b => pure (.exactBytes b)
      | none => throw (.pattern name encoded .unreadable)
    | _ => throw (.pattern name (Json.labelledList patterns) .notOneEncoded)
  | "NumericRangeMatcher" =>
    match patterns with
    | [p] =>
      match NumericRange.ofPattern p with
      | .ok r => pure (.numericRange r)
      | .error f => throw (.pattern name p.compact f)
    | ps => throw (.pattern name (Json.labelledList ps) .notOneRange)
  | "CidrMatcher" =>
    let texts ← textPatterns name patterns
    let ns ← texts.mapM readNetwork
    pure (.network ns)
  | "NotNullOrEmptyMatcher" => pure .notEmpty
  | other => throw (.mapping (.unknownMatcher other))

def compile (name : String) (patterns : List Json) (ignoreCase : Bool) : Except Error Matcher :=
  (Kind.compile name patterns ignoreCase).map fun kind => { ofKind kind with ignoreCase }

end Matcher

def Fold.ofForm (name : Option String) : Except Error Fold :=
  match name with
  | none => pure .or
  | some s =>
    match Fold.ofName? s with
    | some f => pure f
    | none => throw (.mapping (.unknownFold (Text.lower s)))

/-- The name of a way to fold, or none for the one that takes the best score. -/
def Fold.toForm (f : Fold) : Option String := if f = .or then none else some f.name

namespace Matcher

/-- The matcher of a written form; of one pattern and a list of patterns the list counts. -/
def ofForm (form : Form.Matcher) : Except Error Matcher := do
  let patterns := form.patterns.getD form.pattern.toList
  let m ← compile form.name patterns (form.ignoreCase.getD false)
  let fold ← Fold.ofForm form.matchOperator
  pure { m with behaviour := .ofReject (form.rejectOnMatch.getD false), fold }

def ifTrue (b : Bool) : Option Bool := if b then some true else none

/-- The written form of a matcher; a single pattern is written alone. -/
def toForm (m : Matcher) : Form.Matcher :=
  let (pattern, patterns) := match m.patterns with
    | [] => (none, none)
    | [p] => (some p, none)
    | ps => (none, some ps)
  { name := m.name
    pattern
    patterns
    ignoreCase := ifTrue m.ignoreCase
    rejectOnMatch := ifTrue m.behaviour.isReject
    matchOperator := m.fold.toForm }

end Matcher

end Understudy
