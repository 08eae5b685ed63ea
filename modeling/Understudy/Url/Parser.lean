import Understudy.Url.Basic
import Understudy.Number.Numeral

/-!
# Reading URLs

`Url.parse` reads an absolute URL as browsers do: blanks around it and line breaks in it go, backslashes count as
slashes in schemes that every reader knows, dots in the path are resolved, and characters that may not stand in a part
are percent-encoded.
-/

namespace Understudy

namespace Url

def keepsFragment (c : Char) : Bool :=
  0x20 < c.toNat && c.toNat < 0x7F && !(['"', '<', '>', '\x60'].contains c)

def keepsPath (c : Char) : Bool :=
  keepsFragment c && !(['#', '?', '^', '\x7b', '\x7d'].contains c)

def keepsUser (c : Char) : Bool :=
  keepsPath c && !(['/', ':', ';', '=', '@', '[', '\\', ']', '^', '|'].contains c)

/-- Characters that are kept in queries; a scheme that every reader knows also encodes the apostrophe. -/
def keepsQuery (special : Bool) (c : Char) : Bool :=
  0x20 < c.toNat && c.toNat < 0x7F && !(['"', '#', '<', '>'].contains c)
    && !(special && c == '\x27')

def keepsOpaque (c : Char) : Bool := 0x20 ≤ c.toNat && c.toNat < 0x7F

/-- The characters that matter: no blanks or control characters at the ends, and no line breaks and tabs. -/
def relevant (s : String) : List Char :=
  let isEdge (c : Char) : Bool := c.toNat ≤ 0x20
  let cs := s.toList.dropWhile isEdge
  let cs := (cs.reverse.dropWhile isEdge).reverse
  cs.filter fun c => !(['\t', '\n', '\r'].contains c)

def schemeOf? (cs : List Char) : Option (String × List Char) :=
  match cs with
  | [] => none
  | c :: _ =>
    if c.isAlpha then
      let name := cs.takeWhile fun c => c.isAlphanum || c == '+' || c == '-' || c == '.'
      match cs.drop name.length with
      | ':' :: rest => some (Text.lower (String.ofList name), rest)
      | _ => none
    else none

def endsAuthority (special : Bool) (c : Char) : Bool :=
  c == '/' || c == '?' || c == '#' || (special && c == '\\')

def cutUser? (authority : List Char) : Option (List Char × List Char) :=
  if authority.contains '@' then
    let back := (authority.reverse.takeWhile (· != '@')).reverse
    some (authority.take (authority.length - back.length - 1), back)
  else none

/-- The user name and the password; an empty password is none. -/
def readUser (info : List Char) : String × Option String :=
  let encode (cs : List Char) : String := String.ofList (Percent.encode keepsUser cs)
  match Text.cutOnce [':'] info with
  | some (user, password) =>
    (encode user, if password.isEmpty then none else some (encode password))
  | none => (encode info, none)

/-- The host's text, up to a colon outside brackets, and what follows it. -/
def cutHost (inside : Bool) : List Char → List Char × List Char
  | [] => ([], [])
  | c :: cs =>
    if c = ':' ∧ !inside then ([], c :: cs)
    else
      let inside := if c = '[' then true else if c = ']' then false else inside
      let (host, rest) := cutHost inside cs
      (c :: host, rest)

/-- The port behind a colon; none when it is left out or implied by the scheme. -/
def readPort (scheme : String) (cs : List Char) : Except Fault (Option Nat) :=
  match cs with
  | ':' :: ds =>
    if ds.isEmpty then pure none
    else match Numeral.nat? ds with
      | some n =>
        if 65536 ≤ n then throw .port
        else pure (if defaultPort? scheme = some n then none else some n)
      | none => throw .port
  | _ => pure none

def isDot (segment : List Char) : Bool :=
  Text.lower (String.ofList segment) == "." || Text.lower (String.ofList segment) == "%2e"

def isDoubleDot (segment : List Char) : Bool :=
  ["..", ".%2e", "%2e.", "%2e%2e"].contains (Text.lower (String.ofList segment))

/-- The segments with dots resolved; `done` holds those before, the last of them first. -/
def resolveDots (done : List (List Char)) : List (List Char) → List (List Char)
  | [] => done.reverse
  | [last] =>
    if isDoubleDot last then ([] :: done.tail).reverse
    else if isDot last then ([] :: done).reverse
    else (last :: done).reverse
  | s :: ss =>
    if isDoubleDot s then resolveDots done.tail ss
    else if isDot s then resolveDots done ss
    else resolveDots (s :: done) ss

def pathOfSegments (special : Bool) (cs : List Char) : String :=
  let cs := if special then cs.map fun c => if c = '\\' then '/' else c else cs
  let segments := (Text.cutAtChar '/' cs).map (Percent.encode keepsPath)
  "/" ++ String.ofList (['/'].intercalate (resolveDots [] segments))

def readPath (special : Bool) (cs : List Char) : String :=
  match cs with
  | [] => if special then "/" else ""
  | c :: rest =>
    if c = '/' ∨ (special ∧ c = '\\') then pathOfSegments special rest
    else pathOfSegments special cs

def cutPath (cs : List Char) : List Char × List Char :=
  let path := cs.takeWhile fun c => c != '?' && c != '#'
  (path, cs.drop path.length)

def readRest (special : Bool) (cs : List Char) : Option String × Option String :=
  let fragment (cs : List Char) : Option String := match cs with
    | '#' :: f => some (String.ofList (Percent.encode keepsFragment f))
    | _ => none
  match cs with
  | '?' :: more =>
    let query := more.takeWhile (· != '#')
    (some (String.ofList (Percent.encode (keepsQuery special) query)),
      fragment (more.drop query.length))
  | cs => (none, fragment cs)

def readAuthority (scheme : String) (cs : List Char) : Except Fault Url := do
  let special := isSpecial scheme
  let authority := cs.takeWhile fun c => !endsAuthority special c
  let rest := cs.drop authority.length
  let (info, hostAndPort) := (cutUser? authority).getD ([], authority)
  if authority.contains '@' && hostAndPort.isEmpty && (!rest.isEmpty || !info.isEmpty) then
    throw .emptyHost
  let (user, password) := readUser info
  let (hostText, portPart) := cutHost false hostAndPort
  if hostText.isEmpty && (special || !portPart.isEmpty) then throw .emptyHost
  let host ← if special then Host.parse hostText else Host.parseOpaque hostText
  let port ← readPort scheme portPart
  let (path, more) := cutPath rest
  let (query, fragment) := readRest special more
  pure { scheme, user, password, host := some host, port, path := readPath special path, query, fragment }

def readFile (cs : List Char) : Except Fault Url := do
  let isSlash (c : Char) : Bool := c == '/' || c == '\\'
  let isDrive (cs : List Char) : Bool := match cs with
    | [c, d] => c.isAlpha && (d == ':' || d == '|')
    | _ => false
  let (before, more) := cutPath cs
  let (query, fragment) := readRest true more
  let slashes := (before.take 2).all isSlash && 2 ≤ before.length
  let after := before.drop 2
  let hostText := after.takeWhile fun c => !isSlash c
  let (host, path) ← if slashes && !isDrive hostText then do
      let path := after.drop hostText.length
      if hostText.isEmpty then pure (Host.domain "", path)
      else do
        let host ← Host.parse hostText
        pure (if host = .domain "localhost" then Host.domain "" else host, path)
    else pure (Host.domain "", if slashes then after else before)
  pure
    { scheme := "file", user := "", password := none, host := some host, port := none
      path := readPath true ('/' :: path.dropWhile isSlash), query, fragment }

def parse (s : String) : Except Fault Url :=
  match schemeOf? (relevant s) with
  | none => throw .relative
  | some (scheme, rest) =>
    if scheme == "file" then readFile rest
    else if isSpecial scheme then
      readAuthority scheme (rest.dropWhile fun c => c == '/' || c == '\\')
    else
      match rest with
      | '/' :: '/' :: rest => readAuthority scheme rest
      | _ =>
        let (before, more) := cutPath rest
        let (query, fragment) := readRest false more
        let path := match before with
          | '/' :: segments => pathOfSegments false segments
          | path => String.ofList (Percent.encode keepsOpaque path)
        pure
          { scheme, user := "", password := none, host := none, port := none, path, query, fragment }

/-- The origin of a URL that has less than `depth` URLs inside; that of a `blob` is the origin of the URL inside. -/
def originWithin? : Nat → Url → Option Origin
  | 0, _ => none
  | depth + 1, u =>
    if u.scheme == "blob" then
      match parse u.path with
      | .ok inner => originWithin? depth inner
      | .error _ => none
    else u.ownOrigin?

/-- The origin of a URL. Each URL inside takes a colon of the path, so that they are not more than the colons. -/
def origin? (u : Url) : Option Origin := originWithin? (u.path.toList.count ':' + 1) u

def originText (u : Url) : String :=
  match u.origin? with
  | some o => o.text
  | none => "null"

end Url

end Understudy
