import Understudy.Request.Basic
import Understudy.Settings.Proxy

/-!
# Where a request is forwarded to

`ProxySettings.target` puts the path and query of a request behind the URL of the settings. `Url.relocated` turns a
location on the backend into one on this server, so that a client which follows it comes back here.
-/

namespace Understudy

def ProxySettings.pathOf (s : ProxySettings) (url : Url) : String :=
  match s.replace with
  | some r => r.apply url.path
  | none => url.path

def ProxySettings.targetText (s : ProxySettings) (url : Url) : String :=
  Text.trimEnd '/' s.url ++ s.pathOf url ++
    match url.query with
    | some q => "?" ++ q
    | none => ""

def ProxySettings.target (s : ProxySettings) (url : Url) : Except Error Url :=
  let text := s.targetText url
  (Url.parse text).mapError fun f => .backend (.targetUrl text f)

def Url.behind (u : Url) (origin : String) : String :=
  Text.trimEnd '/' origin ++ u.pathAndQuery ++
    match u.fragment with
    | some f => "#" ++ f
    | none => ""

/-- The URL has the origin of another; a URL without an origin shares it with none. -/
def Url.sameOrigin (u v : Url) : Bool := u.origin?.isSome && u.origin? == v.origin?

/-- An absolute location on the backend as one behind the own origin; any other location as it is. -/
def Url.relocated (backend : Url) (own location : String) : String :=
  match Url.parse location with
  | .ok u => if u.sameOrigin backend then u.behind own else location
  | .error _ => location

end Understudy
