import Understudy.Error
import Understudy.Settings.Proxy

/-!
# Clients

A `Client` sends requests, directly or through a web proxy. A `ClientPool` keeps one for each address of a web proxy and
name of its user.
-/

namespace Understudy

structure Client where
  /-- the web proxy, with its credentials, that all requests go through -/
  via : Option WebProxySettings
  deriving DecidableEq

namespace Client

def hasHost (text : String) : Bool :=
  match Url.parse text with
  | .ok u => u.host.isSome
  | .error _ => false

/-- The address names a host, with a scheme or without one. -/
def isAddress (address : String) : Bool :=
  match Url.parse address with
  | .ok u => u.host.isSome || hasHost ("http://" ++ address)
  | .error .relative => hasHost ("http://" ++ address)
  | .error _ => false

def build (via : Option WebProxySettings) : Except Error Client :=
  if via.all fun w => isAddress w.address then pure ⟨via⟩ else throw .configuration

end Client

/-- What tells the clients of a pool apart: nothing for the direct one. -/
abbrev ClientPool.Key := Option (String × Option String)

structure ClientPool where
  clients : List (ClientPool.Key × Client)

namespace ClientPool

def empty : ClientPool := ⟨[]⟩

def keyOf (via : Option WebProxySettings) : Key := via.map fun w => (w.address, w.userName)

def get? (pool : ClientPool) (key : Key) : Option Client :=
  (pool.clients.find? (·.1 == key)).map Prod.snd

/-- The client of the pool for a web proxy; a new one is kept. -/
def take (pool : ClientPool) (via : Option WebProxySettings) : Except Error (Client × ClientPool) :=
  match pool.get? (keyOf via) with
  | some c => pure (c, pool)
  | none => (Client.build via).map fun c => (c, ⟨pool.clients ++ [(keyOf via, c)]⟩)

end ClientPool

end Understudy
