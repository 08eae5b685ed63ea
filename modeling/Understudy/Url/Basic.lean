import Understudy.Url.Host
import Understudy.Text.Cut

/-!
# URLs

A `Url` holds the parts of an absolute URL in the form in which they are written: percent-encoded, the scheme and
domain in small letters, the port left out where the scheme implies it. `Url.text` puts the parts together.
-/

namespace Understudy

structure Url where
  scheme : String
  user : String
  password : Option String
  /-- no host: the scheme is followed by the path at once -/
  host : Option Url.Host
  port : Option Nat
  /-- starts with a slash, or is empty, when there is a hierarchy of names -/
  path : String
  query : Option String
  fragment : Option String
  deriving DecidableEq, Inhabited

namespace Url

def defaultPort? (scheme : String) : Option Nat :=
  match scheme with
  | "http" | "ws" => some 80
  | "https" | "wss" => some 443
  | "ftp" => some 21
  | _ => none

/-- The schemes that every reader knows. -/
def isSpecial (scheme : String) : Bool := scheme == "file" || (defaultPort? scheme).isSome

def userInfo (u : Url) : String :=
  match u.password with
  | some p => u.user ++ ":" ++ p ++ "@"
  | none => if u.user.isEmpty then "" else u.user ++ "@"

def portText (port : Option Nat) : String :=
  match port with
  | some p => s!":{p}"
  | none => ""

/-- The user, host and port; a path that starts like them is kept apart by a dot. -/
def authority (u : Url) : String :=
  match u.host with
  | some h => "//" ++ u.userInfo ++ h.text ++ portText u.port
  | none => if u.path.startsWith "//" then "/." else ""

def pathAndQuery (u : Url) : String :=
  match u.query with
  | some q => u.path ++ "?" ++ q
  | none => u.path

def text (u : Url) : String :=
  u.scheme ++ ":" ++ u.authority ++ u.pathAndQuery ++
    match u.fragment with
    | some f => "#" ++ f
    | none => ""

instance : ToString Url := ⟨text⟩

/-- The names along the path, when it is a hierarchy of names. -/
def segments? (u : Url) : Option (List String) :=
  (Text.dropFront? ['/'] u.path.toList).map fun rest =>
    (Text.cutAtChar '/' rest).map String.ofList

/-- A name or a value of a query: a plus sign is a blank. -/
def decodeQueryPart (cs : List Char) : String :=
  let blanks := cs.map fun c => if c = '+' then ' ' else c
  Bytes.lossyText (Percent.decode (String.ofList blanks))

def queryPairs (u : Url) : List (String × String) :=
  let parts := (Text.cutAtChar '&' (u.query.getD "").toList).filter (!·.isEmpty)
  parts.map fun part =>
    match Text.cutOnce ['='] part with
    | some (n, v) => (decodeQueryPart n, decodeQueryPart v)
    | none => (decodeQueryPart part, "")

/-- Scheme, host and port: what two pages share when they may see each other. -/
structure Origin where
  scheme : String
  host : Host
  port : Nat
  deriving DecidableEq

def Origin.text (o : Origin) : String :=
  let port := if defaultPort? o.scheme = some o.port then none else some o.port
  o.scheme ++ "://" ++ o.host.text ++ portText port

/-- The origin of a URL of a scheme with ports; any other URL shares its origin with none. -/
def ownOrigin? (u : Url) : Option Origin :=
  match defaultPort? u.scheme, u.host with
  | some p, some host => some { scheme := u.scheme, host, port := u.port.getD p }
  | _, _ => none

end Url

end Understudy
