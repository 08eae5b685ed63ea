import Understudy.Forward.Outbound
import Understudy.Request.MultiMap

/-!
# Relaying replies

A `Reply` is what comes back for an outbound request. `Reply.relay` makes the response of it: status, body and headers
as they are, without the headers of the connection, and with locations on the backend turned into own ones.
-/

namespace Understudy

inductive Reply where
  | full (status : Nat) (headers : List (String × Bytes)) (body : Bytes)
  /-- the body breaks off -/
  | cut (status : Nat) (headers : List (String × Bytes))
  | none
  /-- nothing comes back in time -/
  | late

namespace Reply

def group (name : String) (value : Bytes) : List (String × List Bytes) → List (String × List Bytes)
  | [] => [(name, [value])]
  | (n, vs) :: rest => if n == name then (n, vs ++ [value]) :: rest else (n, vs) :: group name value rest

/-- The headers by name in small letters, in the order in which the names came first. -/
def arrange (headers : List (String × Bytes)) : List (String × Bytes) :=
  let groups := headers.foldl (fun gs (n, v) => group (Text.lower n) v gs) []
  groups.flatMap fun (n, vs) => vs.map (n, ·)

def addHeader (backend : Url) (own : String) (m : Response.Message) (name : String) (value : Bytes) :
    Response.Message :=
  if Forward.isHopByHop name || Text.sameName name "content-length" then m
  else match if Text.sameName name "location" then Bytes.plainText? value else Option.none with
    | some location => m.withHeader name (backend.relocated own location)
    | Option.none => m.pushBytes name value

def isBodiless (status : Nat) : Bool := status == 204 || status == 304

def head (backend : Url) (own : String) (status : Nat) (headers : List (String × Bytes)) :
    Response.Message :=
  (arrange headers).foldl (fun m (n, v) => addHeader backend own m n v) (.ofStatus status)

def relay (s : ProxySettings) (r : Request) (out : Outbound) (reply : Reply) :
    Except Error Response.Message :=
  let answered (status : Nat) (headers : List (String × Bytes)) (body : Option Bytes) :
      Except Error Response.Message := do
    let backend ← (Url.parse s.url).mapError fun f => .backend (.proxyUrl s.url f)
    let m := head backend r.origin status headers
    if out.method == "HEAD" || isBodiless status then pure m
    else match body with
      | some body => pure { m with body }
      | Option.none => throw (.backend .brokenBody)
  match reply with
  | .full status headers body => answered status headers (some body)
  | .cut status headers => answered status headers Option.none
  | .none => throw (.backend (.noAnswer out.url.text))
  | .late => throw (.timeout s.timeoutMs)

end Reply

def ProxySettings.forward (s : ProxySettings) (client : Client) (backend : Outbound → Reply)
    (r : Request) : Except Error Response.Message := do
  let out ← Outbound.ofRequest s client r
  (backend out).relay s r out

/-- The response that stands for one that a backend did not give. -/
def Error.response (e : Error) : Response.Message :=
  (Response.Message.ofJson 500 (.object [("error", .string e.message)])).withHeader
    Forward.failureHeader "true"

/-- Forwards a request through the client that a pool has for it; the pool is the one after the call. -/
def ClientPool.forward (pool : ClientPool) (s : ProxySettings) (backend : Outbound → Reply)
    (r : Request) : Except Response.Message Response.Message × ClientPool :=
  match pool.take s.webProxy with
  | .error e => (throw e.response, pool)
  | .ok (client, pool) => ((s.forward client backend r).mapError Error.response, pool)

end Understudy
