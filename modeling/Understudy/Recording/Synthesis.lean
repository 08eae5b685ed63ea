import Understudy.Forward.Headers
import Understudy.Mapping.Basic

/-!
# Mappings from exchanges

`Mapping.ofExchange` makes a mapping that answers a request as it was answered once. Its dimensions are those of the
request, except for the names that the settings exclude; its response has the status, headers and body of the answer.
-/

namespace Understudy

namespace Recording

def asksFor (s : ProxySettings) (name : String) : Bool :=
  !Forward.isTransport name && !Text.sameName name "cookie" && !s.excludesHeader name

def headerDimensions (s : ProxySettings) (r : Request) : List Dimension :=
  (r.headers.entries.filter fun e => asksFor s e.1).map fun (n, vs) =>
    .header (.of n [.exactAny vs] true)

def cookieDimensions (s : ProxySettings) (r : Request) : List Dimension :=
  (r.cookies.filter fun c => !s.excludesCookie c.1).map fun (n, v) =>
    .cookie (.of n [.exact v] false)

def paramDimensions (s : ProxySettings) (r : Request) : List Dimension :=
  (r.query.entries.filter fun e => !s.excludesParam e.1).map fun (n, vs) =>
    .param (.of n [.exactAny vs] false)

def bodyMatcher (body : Bytes) : Content → Matcher
  | .json v => .json v
  | .text s => .exact s
  | .bytes => .exactBytes body

def bodyDimensions (r : Request) : List Dimension :=
  match r.content with
  | some c => [.body (.single (bodyMatcher r.body c))]
  | none => []

/-- The dimensions that a request matches perfectly. -/
def dimensions (s : ProxySettings) (r : Request) : List Dimension :=
  [.ofMethods [r.method], .path (.single (.exact r.path))]
    ++ headerDimensions s r ++ cookieDimensions s r ++ paramDimensions s r ++ bodyDimensions r

/-- The body of a response: a text, or bytes where it is none. -/
def bodyOf (body : Bytes) : Response.Body :=
  if body.isEmpty then .empty
  else match Bytes.text? body with
    | some s => .text s
    | none => .bytes body

/-- A definition that gives the response again, without values that are no UTF-8. -/
def definition (m : Response.Message) : Response.Definition :=
  { (Response.Definition.ofStatus m.status).withHeaders m.headers with body := bodyOf m.body }

end Recording

def Mapping.ofExchange (s : ProxySettings) (proxy : Mapping) (r : Request) (m : Response.Message)
    (fresh : Guid) (now : Instant) : Except Error Mapping :=
  let draft : Draft :=
    { Draft.blank with
      title := some s!"Proxy Mapping for {r.method} {r.path}"
      description := some s!"Recorded from {s.url}"
      priority := recordedPriority
      dimensions :=
        if s.useDefinedRequestMatchers then proxy.dimensions else Recording.dimensions s r
      provider := some (.fixed (Recording.definition m))
      origin := .recorded }
  draft.build fresh now

end Understudy
