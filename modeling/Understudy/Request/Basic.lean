import Understudy.Request.MultiMap
import Understudy.Url.Parser
import Understudy.Json.Written
import Understudy.Text.Ascending
import Understudy.Matcher.Input
import Understudy.Time.Instant
import Understudy.Error

/-!
# Requests

A `Request` is one request as it came in, with the parts that matchers look at: the decoded path and its segments,
headers, cookies and query by name, and the body in the one representation that fits it.
-/

namespace Understudy

inductive Content where
  | text (s : String)
  | json (v : Json)
  /-- no UTF-8 -/
  | bytes
  deriving Inhabited

def Content.kind : Content → String
  | .text _ => "String"
  | .json _ => "Json"
  | .bytes => "Bytes"

def namesJson (contentType : String) : Bool := Text.contains "json" (Text.lower contentType)

/--
The representation of a body: JSON when the content type says so, or when there is no content type and the text starts
like an object or an array, and when it then reads as JSON; otherwise text or bytes. An empty body has none.
-/
def Content.detect (contentType : Option String) (body : Bytes) : Option Content :=
  if body.isEmpty then none
  else match Bytes.text? body with
    | none => some .bytes
    | some s =>
      let looksLikeJson : Bool := match Text.trimLeft s.toList with
        | c :: _ => c == '\x7b' || c == '['
        | [] => false
      let tryJson := match contentType with
        | some t => namesJson t
        | none => looksLikeJson
      match if tryJson then Json.parse? s else none with
      | some v => some (.json v)
      | none => some (.text s)

structure Request where
  /-- in capitals -/
  method : String
  url : Url
  /-- the path, percent-decoded -/
  path : String
  segments : List String
  headers : MultiMap
  /-- the headers as they came -/
  rawHeaders : List (String × Bytes)
  /-- in ascending order of the names, each name once -/
  cookies : List (String × String)
  query : MultiMap
  body : Bytes
  content : Option Content
  clientIp : Option Address
  at_ : Instant
  deriving Inhabited

namespace Request

def cookieOf? (part : String) : Option (String × String) :=
  match Text.splitOnce "=" part with
  | some (name, value) =>
    let name := Text.trim name
    if name.isEmpty then none else some (name, Text.trim value)
  | none => none

/-- The cookies of cookie headers; of two with one name the later counts. -/
def cookiesOf (values : List String) : List (String × String) :=
  Ascending.sort ((values.flatMap (Text.split ';')).filterMap cookieOf?)

/-- The request with the given parts, once its URL has been read. -/
def ofUrl (method : String) (url : Url) (rawHeaders : List (String × Bytes)) (body : Bytes)
    (clientIp : Option Address) (at_ : Instant) : Request :=
  let headers := MultiMap.ofPairs true (rawHeaders.map fun (n, v) => (n, Bytes.latinText v))
  { method := Text.upper method
    url
    path := Percent.decodeText url.path
    segments := ((url.segments?.getD []).filter (!·.isEmpty)).map Percent.decodeText
    headers
    rawHeaders
    cookies := cookiesOf ((headers.getAll? "cookie").getD [])
    query := MultiMap.ofPairs false url.queryPairs
    body
    content := Content.detect (headers.get? "content-type") body
    clientIp
    at_ }

def assemble (method url : String) (rawHeaders : List (String × Bytes)) (body : Bytes)
    (clientIp : Option Address) (at_ : Instant) : Except Error Request :=
  match Url.parse url with
  | .ok u => pure (ofUrl method u rawHeaders body clientIp at_)
  | .error f => throw (.request (.url url f))

/-- The body as text, when there is one and it is UTF-8. -/
def bodyText? (r : Request) : Option String := if r.body.isEmpty then none else Bytes.text? r.body

def bodyJson? (r : Request) : Option Json :=
  match r.content with
  | some (.json v) => some v
  | _ => none

def origin (r : Request) : String := r.url.originText

def pathAndQuery (r : Request) : String := r.url.pathAndQuery

def bodyAttribute (r : Request) : Attribute :=
  match r.content with
  | none => .missing
  | some (.json v) => .json v
  | some (.text s) => .text s
  | some .bytes => .bytes r.body

end Request

end Understudy
