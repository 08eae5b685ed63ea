import Understudy.Request.Basic

/-!
# Request targets

The first line of a request names its target: a path with a query, an absolute URL, or an authority. The URL of the
request takes the host from the `Host` header where there is one that is plain ASCII.
-/

namespace Understudy

structure Target where
  scheme : Option String
  authority : Option String
  pathAndQuery : Option String
  deriving DecidableEq, Inhabited

namespace Target

/-- A scheme's name: the two usual ones in any case, others as they are. -/
def schemeName (s : String) : String :=
  if Text.sameName s "http" then "http" else if Text.sameName s "https" then "https" else s

/-- The target of a text, which is taken to be well formed. -/
def ofText (s : String) : Target :=
  let s := ((Text.splitOnce "#" s).map Prod.fst).getD s
  if s.startsWith "/" || s == "*" then
    { scheme := none, authority := none, pathAndQuery := some s }
  else match Text.splitOnce "://" s with
    | some (scheme, rest) =>
      let authority := rest.toList.takeWhile fun c => c != '/' && c != '?'
      let path := String.ofList (rest.toList.drop authority.length)
      { scheme := some (schemeName scheme)
        authority := some (String.ofList authority)
        pathAndQuery := some (if path.isEmpty then "/" else path) }
    | none => { scheme := none, authority := some s, pathAndQuery := none }

/-- The text of the host: that of the `Host` header, else the authority of the target. -/
def hostText (target : Target) (headers : List (String × Bytes)) : String :=
  let named := (headers.find? fun h => Text.sameName h.1 "host").bind fun h => Bytes.plainText? h.2
  (named.or target.authority).getD "localhost"

def urlAt (target : Target) (host : String) : String :=
  target.scheme.getD "http" ++ "://" ++ host ++ target.pathAndQuery.getD "/"

def urlText (target : Target) (headers : List (String × Bytes)) : String :=
  target.urlAt (target.hostText headers)

end Target

def Request.ofTarget (method : String) (target : Target) (headers : List (String × Bytes))
    (body : Bytes) (clientIp : Option Address) (at_ : Instant) : Except Error Request :=
  Request.assemble method (target.urlText headers) headers body clientIp at_

end Understudy
