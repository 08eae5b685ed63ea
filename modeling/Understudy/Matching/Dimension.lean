import Understudy.Matcher.Basic
import Understudy.Matching.Result
import Understudy.Request.Basic

/-!
# Dimensions of a request

A `Dimension` looks at one part of a request and scores it. Methods are listed; paths, URLs, addresses and bodies have a
set of matchers; headers, cookies and query parameters are found by name and matched on all values of that name.
-/

namespace Understudy

structure MatcherSet where
  matchers : List Matcher
  fold : Fold

def MatcherSet.single (m : Matcher) : MatcherSet := { matchers := [m], fold := .or }

structure KeyedMatcher where
  name : String
  /-- without any, the name only has to be there -/
  matchers : List Matcher
  /-- ASCII case does not tell names apart; it never does in headers -/
  ignoreCase : Bool
  behaviour : Behaviour
  fold : Fold

namespace KeyedMatcher

def of (name : String) (matchers : List Matcher) (ignoreCase : Bool) : KeyedMatcher :=
  { name, matchers, ignoreCase, behaviour := .accept, fold := .or }

end KeyedMatcher

/-- A part of a request with what it has to be like. -/
inductive Dimension where
  | methods (names : List String)
  | path (set : MatcherSet)
  | url (set : MatcherSet)
  | clientIp (set : MatcherSet)
  | header (keyed : KeyedMatcher)
  | cookie (keyed : KeyedMatcher)
  | param (keyed : KeyedMatcher)
  | body (set : MatcherSet)
  | predicate (name : String) (holds : Request → Bool)

namespace Dimension

def label : Dimension → String
  | .methods _ => "Methods"
  | .path _ => "Path"
  | .url _ => "Url"
  | .clientIp _ => "ClientIP"
  | .header k => "Header:" ++ k.name
  | .cookie k => "Cookie:" ++ k.name
  | .param k => "Param:" ++ k.name
  | .body _ => "Body"
  | .predicate name _ => "Predicate:" ++ name

def ofMethods (names : List String) : Dimension := .methods (names.map Text.upper)

def headerValues? (r : Request) (k : KeyedMatcher) : Option (List String) :=
  r.headers.getAll? k.name

/-- The value of the first cookie, in the order of names, that a matcher names. -/
def cookieValues? (r : Request) (k : KeyedMatcher) : Option (List String) :=
  (r.cookies.find? fun c => MultiMap.sameKey k.ignoreCase c.1 k.name).map fun c => [c.2]

def paramValues? (r : Request) (k : KeyedMatcher) : Option (List String) :=
  let found := r.query.entries.filter fun e => MultiMap.sameKey k.ignoreCase e.1 k.name
  if found.isEmpty then none else some (found.flatMap Prod.snd)

end Dimension

section

variable {α : Type} [Scale α]

def MatcherSet.score (set : MatcherSet) (input : Attribute) : α :=
  set.fold.combine (set.matchers.map (·.score input))

/-- Each matcher takes its best score over the values. -/
def KeyedMatcher.rawScore (k : KeyedMatcher) (values : Option (List String)) : α :=
  match values with
  | none => Scale.zero
  | some vs =>
    if k.matchers.isEmpty then Scale.one
    else k.fold.combine (k.matchers.map fun m =>
      (vs.map fun v => m.score (.text v)).foldl Scale.max (Scale.zero : α))

def KeyedMatcher.score (k : KeyedMatcher) (values : Option (List String)) : α :=
  k.behaviour.apply (k.rawScore values)

def Dimension.score (r : Request) : Dimension → α
  | .methods names => Scale.ofBool (Text.listsName names r.method)
  | .path set => set.score (.text r.path)
  | .url set => set.score (.text r.url.text)
  | .clientIp set =>
    set.score (match r.clientIp with
      | some ip => .text ip.text
      | none => .missing)
  | .header k => k.score (headerValues? r k)
  | .cookie k => k.score (cookieValues? r k)
  | .param k => k.score (paramValues? r k)
  | .body set => set.score r.bodyAttribute
  | .predicate _ holds => Scale.ofBool (holds r)

end

end Understudy
