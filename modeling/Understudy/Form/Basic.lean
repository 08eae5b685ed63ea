import Understudy.Json.Basic
import Understudy.Guid
import Understudy.Time.Instant

/-!
# The written form of mappings

A mapping is written as a JSON object whose members are named in capitals. The structures here hold what was written
and no more: a member that is left out is no value.
-/

namespace Understudy

namespace Form

structure Matcher where
  name : String
  pattern : Option Json
  patterns : Option (List Json)
  ignoreCase : Option Bool
  rejectOnMatch : Option Bool
  matchOperator : Option String
  deriving Inhabited

structure Matchers where
  matchers : List Matcher
  matchOperator : Option String

inductive Value where
  | pattern (s : String)
  | matchers (m : Matchers)

structure Keyed where
  name : String
  matchers : Option (List Matcher)
  ignoreCase : Option Bool
  rejectOnMatch : Option Bool
  matchOperator : Option String

structure Body where
  matcher : Option Matcher
  matchers : Option (List Matcher)
  matchOperator : Option String

structure Request where
  clientIp : Option Value
  path : Option Value
  url : Option Value
  methods : Option (List String)
  headers : Option (List Keyed)
  cookies : Option (List Keyed)
  params : Option (List Keyed)
  body : Option Body

def Request.empty : Request := ⟨none, none, none, none, none, none, none, none⟩

/-- The values of a header: a single one is written without brackets. -/
inductive HeaderValue where
  | one (s : String)
  | many (ss : List String)

def HeaderValue.values : HeaderValue → List String
  | .one s => [s]
  | .many ss => ss

def HeaderValue.ofValues : List String → HeaderValue
  | [s] => .one s
  | ss => .many ss

@[simp] theorem HeaderValue.values_ofValues (ss : List String) : (ofValues ss).values = ss := by
  unfold ofValues
  split <;> rfl

structure Replace where
  oldValue : String
  newValue : String
  ignoreCase : Bool
  deriving DecidableEq, Inhabited

structure Response where
  statusCode : Option Nat
  /-- in ascending order of the names -/
  headers : Option (List (String × HeaderValue))
  body : Option String
  bodyAsJson : Option Json
  bodyAsBytes : Option String
  delay : Option Nat
  proxyUrl : Option String
  proxyUrlReplaceSettings : Option Replace

def Response.empty : Response := ⟨none, none, none, none, none, none, none, none⟩

structure Mapping where
  guid : Option Guid
  title : Option String
  description : Option String
  priority : Option Int
  scenario : Option String
  whenStateIs : Option String
  setStateTo : Option String
  timesInSameState : Option Nat
  request : Request
  response : Response
  updatedAt : Option Instant

def Mapping.empty : Mapping :=
  { guid := none, title := none, description := none, priority := none, scenario := none,
    whenStateIs := none, setStateTo := none, timesInSameState := none, request := .empty,
    response := .empty, updatedAt := none }

end Form

end Understudy
