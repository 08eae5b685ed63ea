import Understudy.Form.Basic
import Understudy.Record.Reader

/-!
# Reading mappings

Each structure of the written form is a record with the fields in a fixed order. `Form.readMappings` reads a text that
holds one mapping or an array of them, the last of two members of one name counting; `Form.Mapping.ofText` reads one
mapping and refuses such members.
-/

namespace Understudy

namespace Form

open Reader

variable {τ : Type} [Tree τ]

def Matcher.fields : List (Field τ Matcher) :=
  [.needed "Name" string fun a m => { m with name := a },
    .maybe "Pattern" json fun a m => { m with pattern := a },
    .maybe "Patterns" (list json) fun a m => { m with patterns := a },
    .maybe "IgnoreCase" bool fun a m => { m with ignoreCase := a },
    .maybe "RejectOnMatch" bool fun a m => { m with rejectOnMatch := a },
    .maybe "MatchOperator" string fun a m => { m with matchOperator := a }]

def Matcher.read : Reader τ Matcher :=
  Field.record Matcher.fields ⟨"", none, none, none, none, none⟩

def Matchers.fields : List (Field τ Matchers) :=
  [.needed "Matchers" (list Matcher.read) fun a m => { m with matchers := a },
    .maybe "MatchOperator" string fun a m => { m with matchOperator := a }]

def Matchers.read : Reader τ Matchers := Field.record Matchers.fields ⟨[], none⟩

def Value.read : Reader τ Value := either (string.map .pattern) (Matchers.read.map .matchers)

def Keyed.fields : List (Field τ Keyed) :=
  [.needed "Name" string fun a m => { m with name := a },
    .maybe "Matchers" (list Matcher.read) fun a m => { m with matchers := a },
    .maybe "IgnoreCase" bool fun a m => { m with ignoreCase := a },
    .maybe "RejectOnMatch" bool fun a m => { m with rejectOnMatch := a },
    .maybe "MatchOperator" string fun a m => { m with matchOperator := a }]

def Keyed.read : Reader τ Keyed := Field.record Keyed.fields ⟨"", none, none, none, none⟩

def Body.fields : List (Field τ Body) :=
  [.maybe "Matcher" Matcher.read fun a m => { m with matcher := a },
    .maybe "Matchers" (list Matcher.read) fun a m => { m with matchers := a },
    .maybe "MatchOperator" string fun a m => { m with matchOperator := a }]

def Body.read : Reader τ Body := Field.record Body.fields ⟨none, none, none⟩

def Request.fields : List (Field τ Request) :=
  [.maybe "ClientIP" Value.read fun a r => { r with clientIp := a },
    .maybe "Path" Value.read fun a r => { r with path := a },
    .maybe "Url" Value.read fun a r => { r with url := a },
    .maybe "Methods" (list string) fun a r => { r with methods := a },
    .maybe "Headers" (list Keyed.read) fun a r => { r with headers := a },
    .maybe "Cookies" (list Keyed.read) fun a r => { r with cookies := a },
    .maybe "Params" (list Keyed.read) fun a r => { r with params := a },
    .maybe "Body" Body.read fun a r => { r with body := a }]

def Request.read : Reader τ Request := Field.record Request.fields .empty

def HeaderValue.read : Reader τ HeaderValue :=
  either (string.map .one) ((list string).map .many)

def Replace.fields : List (Field τ Replace) :=
  [.needed "OldValue" string fun a r => { r with oldValue := a },
    .needed "NewValue" string fun a r => { r with newValue := a },
    .defaulted "IgnoreCase" bool fun a r => { r with ignoreCase := a }]

def Replace.read : Reader τ Replace := Field.record Replace.fields ⟨"", "", false⟩

/-- A status code: a whole number of sixteen bits, or a text of digits with such a value. -/
def readStatus : Reader τ (Option Nat) := fun d v => do
  match ← json d v with
  | .null => pure none
  | .number (.whole n) =>
    if 0 ≤ n ∧ n < 65536 then pure (some n.toNat) else throw .statusNumber
  | .number _ => throw .statusNumber
  | .string s =>
    match Numeral.atMost? 65535 s with
    | some n => pure (some n)
    | none => throw (.statusText s)
  | _ => throw .statusKind

def Response.fields : List (Field τ Response) :=
  [.defaulted "StatusCode" readStatus fun a r => { r with statusCode := a },
    .maybe "Headers" ((table HeaderValue.read).map Ascending.sort) fun a r => { r with headers := a },
    .maybe "Body" string fun a r => { r with body := a },
    .maybe "BodyAsJson" json fun a r => { r with bodyAsJson := a },
    .maybe "BodyAsBytes" string fun a r => { r with bodyAsBytes := a },
    .maybe "Delay" (nat 0xFFFFFFFFFFFFFFFF) fun a r => { r with delay := a },
    .maybe "ProxyUrl" string fun a r => { r with proxyUrl := a },
    .maybe "ProxyUrlReplaceSettings" Replace.read fun a r =>
      { r with proxyUrlReplaceSettings := a }]

def Response.read : Reader τ Response := Field.record Response.fields .empty

def Mapping.fields : List (Field τ Mapping) :=
  [.maybe "Guid" (parsed Guid.parse?) fun a m => { m with guid := a },
    .maybe "Title" string fun a m => { m with title := a },
    .maybe "Description" string fun a m => { m with description := a },
    .maybe "Priority" (int (-0x80000000) 0x7FFFFFFF) fun a m => { m with priority := a },
    .maybe "Scenario" string fun a m => { m with scenario := a },
    .maybe "WhenStateIs" string fun a m => { m with whenStateIs := a },
    .maybe "SetStateTo" string fun a m => { m with setStateTo := a },
    .maybe "TimesInSameState" (nat 0xFFFFFFFF) fun a m => { m with timesInSameState := a },
    .defaulted "Request" Request.read fun a m => { m with request := a },
    .defaulted "Response" Response.read fun a m => { m with response := a },
    .maybe "UpdatedAt" (parsed Instant.parse?) fun a m => { m with updatedAt := a }]

def Mapping.read : Reader τ Mapping := Field.record Mapping.fields .empty

def Mapping.ofJson (v : Json) : Except Error Mapping :=
  (Mapping.read Json.maxDepth (Json.Written.ofJson v)).mapError .json

/-- The mapping of a text, in which no member may be given twice. -/
def Mapping.ofText (text : String) : Except Error Mapping := do
  let doc := Json.Document.ofText text
  let m ← (Mapping.read Json.maxDepth doc.value).mapError .json
  if doc.closed then pure m else throw (.json .unreadable)

/-- The mappings of a text: one, or an array of them. -/
def readMappings (text : String) : Except Error (List Mapping) :=
  match Json.parse? text with
  | some (.array items) => items.mapM Mapping.ofJson
  | some (.object ms) => do
    let m ← Mapping.ofJson (.object ms)
    pure [m]
  | some _ => throw (.mapping .notMappings)
  | none => throw (.json .unreadable)

end Form

end Understudy
