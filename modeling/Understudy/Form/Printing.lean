import Understudy.Form.Basic

/-!
# Writing mappings

The JSON values of written forms. Members stand in a fixed order and those without a value are left out.
-/

namespace Understudy

namespace Form

open Json (optional ofStrings)

def Matcher.toJson (m : Matcher) : Json :=
  .object ([("Name", .string m.name)]
    ++ optional "Pattern" id m.pattern
    ++ optional "Patterns" .array m.patterns
    ++ optional "IgnoreCase" .bool m.ignoreCase
    ++ optional "RejectOnMatch" .bool m.rejectOnMatch
    ++ optional "MatchOperator" .string m.matchOperator)

def ofMatchers (ms : List Matcher) : Json := .array (ms.map Matcher.toJson)

def Value.toJson : Value → Json
  | .pattern s => .string s
  | .matchers m =>
    .object ([("Matchers", ofMatchers m.matchers)]
      ++ optional "MatchOperator" .string m.matchOperator)

def Keyed.toJson (k : Keyed) : Json :=
  .object ([("Name", .string k.name)]
    ++ optional "Matchers" ofMatchers k.matchers
    ++ optional "IgnoreCase" .bool k.ignoreCase
    ++ optional "RejectOnMatch" .bool k.rejectOnMatch
    ++ optional "MatchOperator" .string k.matchOperator)

def Body.toJson (b : Body) : Json :=
  .object (optional "Matcher" Matcher.toJson b.matcher
    ++ optional "Matchers" ofMatchers b.matchers
    ++ optional "MatchOperator" .string b.matchOperator)

def Request.toJson (r : Request) : Json :=
  let keyed (ks : List Keyed) : Json := .array (ks.map Keyed.toJson)
  .object (optional "ClientIP" Value.toJson r.clientIp
    ++ optional "Path" Value.toJson r.path
    ++ optional "Url" Value.toJson r.url
    ++ optional "Methods" ofStrings r.methods
    ++ optional "Headers" keyed r.headers
    ++ optional "Cookies" keyed r.cookies
    ++ optional "Params" keyed r.params
    ++ optional "Body" Body.toJson r.body)

def HeaderValue.toJson : HeaderValue → Json
  | .one s => .string s
  | .many ss => ofStrings ss

def Replace.toJson (r : Replace) : Json :=
  .object [("OldValue", .string r.oldValue), ("NewValue", .string r.newValue),
    ("IgnoreCase", .bool r.ignoreCase)]

def Response.toJson (r : Response) : Json :=
  .object (optional "StatusCode" Json.ofNat r.statusCode
    ++ optional "Headers" (fun hs => .object (hs.map fun (n, v) => (n, v.toJson))) r.headers
    ++ optional "Body" .string r.body
    ++ optional "BodyAsJson" id r.bodyAsJson
    ++ optional "BodyAsBytes" .string r.bodyAsBytes
    ++ optional "Delay" Json.ofNat r.delay
    ++ optional "ProxyUrl" .string r.proxyUrl
    ++ optional "ProxyUrlReplaceSettings" Replace.toJson r.proxyUrlReplaceSettings)

def Mapping.toJson (m : Mapping) : Json :=
  .object (optional "Guid" (.string ·.text) m.guid
    ++ optional "Title" .string m.title
    ++ optional "Description" .string m.description
    ++ optional "Priority" Json.ofInt m.priority
    ++ optional "Scenario" .string m.scenario
    ++ optional "WhenStateIs" .string m.whenStateIs
    ++ optional "SetStateTo" .string m.setStateTo
    ++ optional "TimesInSameState" Json.ofNat m.timesInSameState
    ++ [("Request", m.request.toJson), ("Response", m.response.toJson)]
    ++ optional "UpdatedAt" (.string ·.text) m.updatedAt)

end Form

end Understudy
