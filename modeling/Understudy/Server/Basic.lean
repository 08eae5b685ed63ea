import Understudy.Engine.Handle
import Understudy.Request.Target
import Understudy.Settings.Source

/-!
# A server

`Server.start` sets a server up; `Server.answer` takes what came in on a connection and gives what goes out. A request
that cannot be read, or that names no URL, is answered with 400.
-/

namespace Understudy

/-- What comes in on a connection, once its first line and headers are read. -/
structure Incoming where
  method : String
  target : Target
  /-- names in small letters -/
  headers : List (String × Bytes)
  /-- none when the body breaks off -/
  body : Option Bytes
  client : Option Address
  at_ : Instant

structure Server where
  address : Address
  port : Nat
  engine : Engine
  world : World

namespace Server

/-- The address of a host: an address itself, or the usual name of this machine. -/
def addressOf? (host : String) : Option Address :=
  if host == "localhost" then Address.parse? "127.0.0.1" else Address.parse? host

/-- Sets up a server on a port of its own choice when the settings leave it open. -/
def start (settings : ServerSettings) (freePort : Nat) (w : World) : Except SettingsError Server := do
  let settings ← settings.checked
  let (engine, world) ← (Engine.start settings w).mapError .engine
  match addressOf? settings.host with
  | some address =>
    pure { address, port := if settings.port = 0 then freePort else settings.port, engine, world }
  | none => throw (.address settings.host settings.port)

def isUnspecified (address : Address) : Bool := address.text == "0.0.0.0" || address.text == "::"

def url (s : Server) : String :=
  let host :=
    if isUnspecified s.address then "127.0.0.1"
    else match s.address with
      | .v4 _ => s.address.text
      | .v6 _ => "[" ++ s.address.text ++ "]"
  s!"http://{host}:{s.port}"

def requestOf (i : Incoming) : Except Response.Message Request :=
  match i.body with
  | none => throw (.ofText 400 "Failed to read request body")
  | some body =>
    (Request.ofTarget i.method i.target i.headers body i.client i.at_).mapError fun e =>
      .ofText 400 e.message

def answer (s : Server) (backend : Outbound → Reply) (i : Incoming) : Response.Wire × Server :=
  match requestOf i with
  | .error m => (m.wire, s)
  | .ok r =>
    let h := s.engine.handle s.world backend r
    (h.response.wire, { s with engine := h.engine, world := h.world })

end Server

end Understudy
