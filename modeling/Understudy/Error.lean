import Understudy.Guid
import Understudy.Url.Fault

/-!
# Errors

An `Error` is a cause; `Error.kind` sorts causes and `Error.message` words them. Where the reader of a format or the
file system knows more about a failure, the message has `Error.reason` in that place.
-/

namespace Understudy

/-- Stands in a message for what the reader of a format or the file system would say. -/
def Error.reason : String := "<reason>"

inductive PatternFault where
  | noPattern
  | noText
  | notOneEncoded
  | notOneRange
  | notOneJson
  | emptyPath
  | boundNoNumber
  | noRangeSign
  | noRange
  | emptyRange
  | lengthNoNumber
  | lengthTooGreat
  | noAddress
  /-- the pattern does not follow its grammar -/
  | unreadable
  deriving DecidableEq

def PatternFault.message : PatternFault → String
  | .noPattern => "at least one pattern is required"
  | .noText => "pattern must be a string"
  | .notOneEncoded => "exactly one base64 pattern is required"
  | .notOneRange => "exactly one range pattern is required"
  | .notOneJson => "exactly one JSON pattern is required"
  | .emptyPath => "empty XPath expression"
  | .boundNoNumber => "bounds must be numbers"
  | .noRangeSign => "expected 'min..max'"
  | .noRange => "expected an object with Min/Max"
  | .emptyRange => "Min is greater than Max"
  | .lengthNoNumber => "prefix length is not a number"
  | .lengthTooGreat => "prefix length out of range"
  | .noAddress => "invalid IP address"
  | .unreadable => Error.reason

inductive SettingsFault where
  | proxyUrl (url : String) (fault : Url.Fault)
  | proxyScheme (scheme : String)
  | statusClass (item : String)
  | statusRange (item : String)
  | statusCode (item : String)
  | noTimeout
  | webProxyAddress (address : String) (fault : Url.Fault)
  | passwordAlone
  | emptyHost
  | noLogCapacity
  | logExpiration (hours : Nat)
  deriving DecidableEq

/-- The longest time that the request log keeps entries, in hours: one hundred years. -/
def longestExpiration : Nat := 876000

def SettingsFault.message : SettingsFault → String
  | .proxyUrl url f => s!"Invalid proxy url '{url}': {f.message}"
  | .proxyScheme s => s!"Unsupported proxy url scheme '{s}'. Currently supported: http, https"
  | .statusClass i => s!"Invalid status code class '{i}'"
  | .statusRange i => s!"Invalid status code range '{i}'"
  | .statusCode i => s!"Invalid status code '{i}'"
  | .noTimeout => "timeoutMs must be greater than zero"
  | .webProxyAddress a f => s!"Invalid web proxy address '{a}': {f.message}"
  | .passwordAlone => "webProxySettings.password requires userName"
  | .emptyHost => "Server host must not be empty"
  | .noLogCapacity => "maxRequestLogCount must be greater than zero when set"
  | .logExpiration h =>
    s!"requestLogExpirationDuration must be at most {longestExpiration} hours, got {h}"

inductive DecodeFault where
  | missing (field : String)
  | statusNumber
  | statusText (text : String)
  | statusKind
  /-- the text is no JSON, or a value is of the wrong kind -/
  | unreadable
  deriving DecidableEq

/-- The field's name stands between two signs of this. -/
def graveAccent : String := "\x60"

def DecodeFault.message : DecodeFault → String
  | .missing f => "missing field " ++ graveAccent ++ f ++ graveAccent
  | .statusNumber => "invalid StatusCode number"
  | .statusText s => s!"invalid StatusCode string: {s}"
  | .statusKind => "StatusCode must be a number or string"
  | .unreadable => Error.reason

inductive MappingFault where
  | unknownFold (name : String)
  | unknownMatcher (name : String)
  | noMatchers
  | noName
  | noBodyMatcher
  | manyBodies
  | bodyEncoding
  | stateWithoutScenario
  | emptyScenario
  | noTimes
  | settings (fault : SettingsFault)
  | status (code : Nat)
  | notMappings
  | noGuid
  | told (text : String)
  deriving DecidableEq

def MappingFault.message : MappingFault → String
  | .unknownFold n => s!"Unknown MatchOperator '{n}'. Expected Or, And or Average"
  | .unknownMatcher n => s!"Unknown matcher type '{n}'"
  | .noMatchers => "Matchers must not be empty"
  | .noName => "Header, cookie and param matchers need a Name"
  | .noBodyMatcher => "Body needs a Matcher or Matchers"
  | .manyBodies => "Only one of Body, BodyAsJson and BodyAsBytes may be set"
  | .bodyEncoding => s!"BodyAsBytes is not base64: {Error.reason}"
  | .stateWithoutScenario => "WhenStateIs, SetStateTo and TimesInSameState require a Scenario"
  | .emptyScenario => "Scenario name must not be empty"
  | .noTimes => "TimesInSameState must be at least 1"
  | .settings f => f.message
  | .status c => s!"Invalid status code {c}"
  | .notMappings => "Expected a mapping object or an array of mappings"
  | .noGuid => "Cannot save a mapping without a Guid"
  | .told s => s

inductive RequestFault where
  | url (text : String) (fault : Url.Fault)
  | method (name : String)
  | told (text : String)
  deriving DecidableEq

def RequestFault.message : RequestFault → String
  | .url t f => s!"Invalid url '{t}': {f.message}"
  | .method m => s!"Invalid method '{m}': invalid HTTP method"
  | .told s => s

inductive BackendFault where
  | targetUrl (text : String) (fault : Url.Fault)
  | proxyUrl (text : String) (fault : Url.Fault)
  /-- a header, or the cookies together, that HTTP does not allow -/
  | illegalHeader
  /-- a URL that HTTP does not reach -/
  | unreachable (url : String)
  | noAnswer (url : String)
  | brokenBody
  | told (text : String)
  deriving DecidableEq

def BackendFault.message : BackendFault → String
  | .targetUrl t f => s!"Invalid target url '{t}': {f.message}"
  | .proxyUrl t f => s!"Invalid proxy url '{t}': {f.message}"
  | .illegalHeader => "builder error"
  | .unreachable u => s!"builder error for url ({u})"
  | .noAnswer u => s!"error sending request for url ({u})"
  | .brokenBody => "error decoding response body"
  | .told s => s

/-- What can go wrong with mappings, requests, backends and files. -/
inductive Error where
  | mapping (fault : MappingFault)
  | pattern (matcher pattern : String) (fault : PatternFault)
  | request (fault : RequestFault)
  | notFound (guid : Guid)
  | backend (fault : BackendFault)
  | timeout (milliseconds : Nat)
  | file
  | json (fault : DecodeFault)
  | configuration
  /-- what is wrong with the mappings in a file -/
  | inFile (path : String) (error : Error)
  deriving DecidableEq

namespace Error

inductive Kind where
  | malformedMapping
  | invalidPattern
  | invalidRequest
  | mappingNotFound
  | backend
  | backendTimeout
  | io
  | json
  | config
  deriving DecidableEq

def Kind.name : Kind → String
  | .malformedMapping => "MalformedMapping"
  | .invalidPattern => "InvalidPattern"
  | .invalidRequest => "InvalidRequest"
  | .mappingNotFound => "MappingNotFound"
  | .backend => "Upstream"
  | .backendTimeout => "UpstreamTimeout"
  | .io => "Io"
  | .json => "Json"
  | .config => "Config"

def kind : Error → Kind
  | .mapping _ => .malformedMapping
  | .pattern .. => .invalidPattern
  | .request _ => .invalidRequest
  | .notFound _ => .mappingNotFound
  | .backend _ => .backend
  | .timeout _ => .backendTimeout
  | .file => .io
  | .json _ => .json
  | .configuration => .config
  | .inFile .. => .malformedMapping

def message : Error → String
  | .mapping f => s!"Malformed mapping: {f.message}"
  | .pattern m p f => s!"Invalid pattern '{p}' for {m}: {f.message}"
  | .request f => s!"Invalid request: {f.message}"
  | .notFound g => s!"Mapping {g} not found"
  | .backend f => s!"Upstream request failed: {f.message}"
  | .timeout ms => s!"Upstream did not respond within {ms} ms"
  | .file => s!"I/O error: {reason}"
  | .json f => s!"JSON error: {f.message}"
  | .configuration => s!"Invalid configuration: {reason}"
  | .inFile path e => s!"Malformed mapping: {path}: {e.message}"

end Error

end Understudy
