import Understudy.Bytes.Base64
import Understudy.Forward.Client
import Understudy.Forward.Headers
import Understudy.Forward.Target
import Understudy.Response.Wire

/-!
# Requests to a backend

An `Outbound` request is what goes out for a request that came in: the same method and body, the headers and cookies
that may go on, and the URL of the target. `Outbound.ofRequest` makes it or says why nothing can be sent.
-/

namespace Understudy

structure Outbound where
  method : String
  url : Url
  headers : List (String × Bytes)
  body : Bytes
  /-- the web proxy that it goes through -/
  via : Option WebProxySettings

namespace Outbound

def passes (s : ProxySettings) (name : String) : Bool :=
  !Forward.isTransport name && !Text.sameName name "cookie" && !s.excludesHeader name

/-- The headers that go on as they came; one with an illegal value is left out. -/
def passing (s : ProxySettings) (r : Request) : List (String × Bytes) :=
  r.rawHeaders.filter fun (n, v) => passes s n && Response.isLegalValue v

def cookieHeader (s : ProxySettings) (r : Request) : List (String × Bytes) :=
  let pairs := (r.cookies.filter fun c => !s.excludesCookie c.1).map fun (n, v) => n ++ "=" ++ v
  if pairs.isEmpty then [] else [("cookie", Bytes.ofText (Text.join "; " pairs))]

def credentials? (u : Url) : Option (String × String) :=
  if u.host.isNone then none
  else (Bytes.text? (Percent.decode u.user)).bind fun user =>
    let password := u.password.bind fun p => Bytes.text? (Percent.decode p)
    if user.isEmpty && password.isNone then none else some (user, password.getD "")

def credentialHeader (u : Url) : List (String × Bytes) :=
  match credentials? u with
  | some (user, password) =>
    let code := Base64.encode (Bytes.ofText (user ++ ":" ++ password))
    [("authorization", Bytes.ofText ("Basic " ++ code))]
  | none => []

/-- The URL without the credentials that go into a header. -/
def withoutCredentials (u : Url) : Url :=
  if (credentials? u).isSome then { u with user := "", password := none } else u

def isReachable (u : Url) : Bool :=
  (u.scheme == "http" || u.scheme == "https")
    && u.text.length < 65535
    && (match u.host with
      | some h => !h.text.toList.any fun c => "\"\x60\x7b\x7d".toList.contains c
      | none => false)

def checkMethod (method : String) : Except Error Unit :=
  if Response.isToken method then pure () else throw (.request (.method method))

def ofRequest (s : ProxySettings) (client : Client) (r : Request) : Except Error Outbound := do
  let target ← s.target r.url
  checkMethod r.method
  if target.host.isNone then throw (.backend (.unreachable target.text))
  let headers := passing s r ++ cookieHeader s r
  if !headers.all fun (n, v) => Response.isToken n && Response.isLegalValue v then
    throw (.backend .illegalHeader)
  let url := withoutCredentials target
  if !isReachable url then throw (.backend (.unreachable url.text))
  pure
    { method := r.method
      url
      headers := credentialHeader target ++ headers
      body := r.body
      via := client.via }

end Outbound

end Understudy
