import Understudy.Xml.Basic
import Understudy.Number.Numeral

/-!
# Reading XML

`Xml.parse?` reads a document, or nothing when the text is not well formed. The five entities that need no
declaration are known and no others. Each run of characters, each section of raw characters and each
reference becomes a text node of its own.
-/

namespace Understudy

namespace Xml

abbrev Read (α : Type) := List Char → Option (α × List Char)

def isSpace (c : Char) : Bool := c == ' ' || c == '\t' || c == '\n' || c == '\r'

def skipSpace (cs : List Char) : List Char := cs.dropWhile isSpace

def sign (expected : String) (cs : List Char) : Option (List Char) :=
  Text.dropFront? expected.toList cs

def startsName (c : Char) : Bool :=
  let n := c.toNat
  c.isAlpha || c == '_' || (0xC0 ≤ n && n ≤ 0xD6) || (0xD8 ≤ n && n ≤ 0xF6)
    || (0xF8 ≤ n && n ≤ 0x2FF) || (0x370 ≤ n && n ≤ 0x37D) || (0x37F ≤ n && n ≤ 0x1FFF)
    || (0x200C ≤ n && n ≤ 0x200D) || (0x2070 ≤ n && n ≤ 0x218F) || (0x2C00 ≤ n && n ≤ 0x2FEF)
    || (0x3001 ≤ n && n ≤ 0xD7FF) || (0xF900 ≤ n && n ≤ 0xFDCF) || (0xFDF0 ≤ n && n ≤ 0xFFFD)
    || (0x10000 ≤ n && n ≤ 0xEFFFF)

def inName (c : Char) : Bool :=
  let n := c.toNat
  startsName c || c == '-' || c == '.' || c.isDigit || n == 0xB7
    || (0x300 ≤ n && n ≤ 0x36F) || (0x203F ≤ n && n ≤ 0x2040)

def plainName : Read String
  | c :: cs =>
    if startsName c then
      let more := cs.takeWhile inName
      some (String.ofList (c :: more), cs.drop more.length)
    else none
  | [] => none

/-- A name that may have one colon: the part before it and the part after it. -/
def splitName : Read (Option String × String) := fun cs => do
  let (a, rest) ← plainName cs
  match rest with
  | ':' :: more =>
    match plainName more with
    | some (b, rest) => some ((some a, b), rest)
    | none => none
  | _ => some ((none, a), rest)

def upTo (stop : String) (cs : List Char) : Option (String × List Char) :=
  (Text.cutOnce stop.toList cs).map fun (a, b) => (String.ofList a, b)

def codePoint? (n : Nat) : Option Char :=
  if n < 0x110000 ∧ ¬ (0xD800 ≤ n ∧ n < 0xE000) then some (Char.ofNat n) else none

/-- What follows the sign of a reference, up to the semicolon. -/
def reference : Read Char := fun cs => do
  match cs with
  | '#' :: 'x' :: more =>
    let ds := more.takeWhile fun c => (Text.hexDigit? c).isSome
    let rest ← sign ";" (more.drop ds.length)
    if ds.isEmpty then none
    else
      let c ← codePoint? (ds.foldl (fun n c => 16 * n + (Text.hexDigit? c).getD 0) 0)
      some (c, rest)
  | '#' :: more =>
    let ds := more.takeWhile Char.isDigit
    let rest ← sign ";" (more.drop ds.length)
    let n ← Numeral.nat? ds
    let c ← codePoint? n
    some (c, rest)
  | _ =>
    let (name, rest) ← plainName cs
    let rest ← sign ";" rest
    match name with
    | "lt" => some ('<', rest)
    | "gt" => some ('>', rest)
    | "amp" => some ('&', rest)
    | "apos" => some ('\x27', rest)
    | "quot" => some ('"', rest)
    | _ => none

def attributeValue (quote : Char) : Nat → List Char → Option (List Char × List Char)
  | 0, _ => none
  | fuel + 1, cs =>
    match cs with
    | [] => none
    | '&' :: rest => do
      let (c, rest) ← reference rest
      let (more, rest) ← attributeValue quote fuel rest
      some (c :: more, rest)
    | c :: rest =>
      if c = quote then some ([], rest)
      else if c = '<' then none
      else (attributeValue quote fuel rest).map fun (more, rest) => (c :: more, rest)

def quotedText : Read String
  | c :: cs => if c = '"' ∨ c = '\x27' then upTo c.toString cs else none
  | [] => none

/-- An attribute as written: both parts of its name, and its value. -/
def attributeOf : Read ((Option String × String) × String) := fun cs => do
  let (name, rest) ← splitName cs
  let rest ← sign "=" (skipSpace rest)
  match skipSpace rest with
  | c :: more =>
    if c = '"' ∨ c = '\x27' then
      let (value, rest) ← attributeValue c (more.length + 1) more
      some ((name, String.ofList value), rest)
    else none
  | [] => none

def attributeList : Nat → List Char → Option (List ((Option String × String) × String) × List Char)
  | 0, _ => none
  | fuel + 1, cs =>
    let rest := skipSpace cs
    match rest with
    | '>' :: _ | '/' :: _ => some ([], rest)
    | _ =>
      if rest.length = cs.length then none
      else do
        let (a, rest) ← attributeOf rest
        let (more, rest) ← attributeList fuel rest
        some (a :: more, rest)

def allDistinct : List ((Option String × String) × String) → Bool
  | [] => true
  | (n, _) :: more => more.all (fun (m, _) => m != n) && allDistinct more

def xmlSpace : String := "http://www.w3.org/XML/1998/namespace"

/-- The scope that the attributes of an element change; the empty prefix is the default namespace. -/
def rescope (scope : List (String × String)) (attrs : List ((Option String × String) × String)) :
    List (String × String) :=
  attrs.foldl (fun scope ((front, part), value) =>
    let bind (p : String) := (p, value) :: scope.filter (·.1 != p)
    match front, part with
    | some "xmlns", p => bind p
    | none, "xmlns" => if value.isEmpty then scope.filter (·.1 != "") else bind ""
    | _, _ => scope) scope

/-- A name in its namespace; names without a prefix are in the given default one. -/
def resolve (scope : List (String × String)) (default : Option String)
    (name : Option String × String) : Option Name :=
  match name.1 with
  | none => some ⟨default, none, name.2⟩
  | some p => (scope.find? (·.1 == p)).map fun (_, u) => ⟨some u, some p, name.2⟩

/-- The attributes that declare no namespace, with their names resolved. -/
def resolveAttributes (scope : List (String × String)) :
    List ((Option String × String) × String) → Option (List (Name × String))
  | [] => some []
  | ((front, part), value) :: more => do
    let rest ← resolveAttributes scope more
    if front == some "xmlns" || (front.isNone && part == "xmlns") then some rest
    else
      let n ← resolve scope none (front, part)
      some ((n, value) :: rest)

/-- A comment, past its opening sign; two dashes may stand only at its end. -/
def comment : Read Node := fun cs => do
  let (s, rest) ← upTo "--" cs
  let rest ← sign ">" rest
  some (.comment s, rest)

def instruction : Read Node := fun cs => do
  let (target, rest) ← plainName cs
  if Text.lower target == "xml" then none
  else
    match sign "?>" rest with
    | some rest => some (.instruction target "", rest)
    | none =>
      let body := skipSpace rest
      if body.length = rest.length then none
      else
        let (data, rest) ← upTo "?>" body
        some (.instruction target data, rest)

/-- A run of characters in content, which may not hold the end of a raw section. -/
def characters : List Char → List Char × List Char
  | ']' :: ']' :: '>' :: rest => ([], ']' :: ']' :: '>' :: rest)
  | c :: rest =>
    if c = '<' ∨ c = '&' then ([], c :: rest)
    else
      let (more, rest) := characters rest
      (c :: more, rest)
  | [] => ([], [])

mutual

def element : Nat → List (String × String) → List Char → Option (Node × List Char)
  | 0, _, _ => none
  | fuel + 1, scope, cs => do
    let (name, rest) ← splitName cs
    let (attrs, rest) ← attributeList (rest.length + 1) rest
    if !allDistinct attrs then none
    else
      let scope := rescope scope attrs
      let default := (scope.find? (·.1 == "")).map Prod.snd
      let n ← resolve scope default name
      let as ← resolveAttributes scope attrs
      match rest with
      | '/' :: '>' :: rest => some (.element n as scope [], rest)
      | '>' :: rest =>
        let (content, rest) ← elementContent fuel scope rest
        let (closing, rest) ← splitName rest
        let rest ← sign ">" (skipSpace rest)
        if closing = name then some (.element n as scope content, rest) else none
      | _ => none

def elementContent : Nat → List (String × String) → List Char → Option (List Node × List Char)
  | 0, _, _ => none
  | fuel + 1, scope, cs =>
    match cs with
    | [] => none
    | '<' :: '/' :: rest => some ([], rest)
    | '&' :: rest => do
      let (c, rest) ← reference rest
      let (more, rest) ← elementContent fuel scope rest
      some (.text c.toString :: more, rest)
    | '<' :: rest =>
      let found : Option (Node × List Char) :=
        match sign "!--" rest, sign "![CDATA[" rest, rest with
        | some body, _, _ => comment body
        | none, some body, _ => (upTo "]]>" body).map fun (s, rest) => (.text s, rest)
        | none, none, '?' :: body => instruction body
        | none, none, _ => element fuel scope rest
      do
        let (n, rest) ← found
        let (more, rest) ← elementContent fuel scope rest
        some (n :: more, rest)
    | _ =>
      let (run, rest) := characters cs
      if run.isEmpty then none
      else (elementContent fuel scope rest).map fun (more, rest) =>
        (.text (String.ofList run) :: more, rest)

end

/-- Comments, processing instructions and space outside the element. -/
def aside : Nat → List Char → Option (List Node × List Char)
  | 0, _ => none
  | fuel + 1, cs =>
    let rest := skipSpace cs
    match sign "<!--" rest, rest with
    | some body, _ => do
      let (n, rest) ← comment body
      let (more, rest) ← aside fuel rest
      some (n :: more, rest)
    | none, '<' :: '?' :: body => do
      let (n, rest) ← instruction body
      let (more, rest) ← aside fuel rest
      some (n :: more, rest)
    | none, _ => some ([], rest)

def declared (key : String) (cs : List Char) : Option (String × List Char) := do
  let body := skipSpace cs
  if body.length = cs.length then none
  else
    let rest ← sign key body
    let rest ← sign "=" (skipSpace rest)
    quotedText (skipSpace rest)

def declaration (cs : List Char) : Option (List Char) :=
  match sign "<?xml" cs with
  | none => some cs
  | some rest =>
    match rest with
    | c :: _ =>
      if !isSpace c then some cs
      else do
        let (version, rest) ← declared "version" rest
        let digits ← sign "1." version.toList
        if digits.isEmpty || !digits.all Char.isDigit then none
        else
          let rest := match declared "encoding" rest with
            | some (_, rest) => rest
            | none => rest
          let rest := match declared "standalone" rest with
            | some (s, after) => if s == "yes" || s == "no" then after else rest
            | none => rest
          sign "?>" (skipSpace rest)
    | [] => none

def internalSubset : Nat → List Char → Option (List Char)
  | 0, _ => none
  | fuel + 1, cs =>
    match cs with
    | [] => none
    | ']' :: rest => some rest
    | c :: rest =>
      if c = '"' ∨ c = '\x27' then do
        let (_, rest) ← upTo c.toString rest
        internalSubset fuel rest
      else internalSubset fuel rest

/-- The document type, when one is declared; what it declares is not read. -/
def documentType (cs : List Char) : Option (List Char) :=
  match sign "<!DOCTYPE" cs with
  | none => some cs
  | some rest => do
    let body := skipSpace rest
    if body.length = rest.length then none
    else
      let (_, rest) ← splitName body
      let rest := skipSpace rest
      let rest ← match sign "SYSTEM" rest, sign "PUBLIC" rest with
        | some rest, _ => (quotedText (skipSpace rest)).map Prod.snd
        | none, some rest => do
          let (_, rest) ← quotedText (skipSpace rest)
          (quotedText (skipSpace rest)).map Prod.snd
        | none, none => some rest
      let rest := skipSpace rest
      let rest ← match rest with
        | '[' :: inside => internalSubset (inside.length + 1) inside
        | _ => some rest
      sign ">" (skipSpace rest)

def parse? (text : String) : Option Numbered := do
  let cs := text.toList
  let fuel := cs.length + 2
  let rest ← declaration cs
  let (before, rest) ← aside fuel rest
  let rest ← documentType rest
  let (between, rest) ← aside fuel rest
  let rest ← sign "<" rest
  let (root, rest) ← element fuel [("xml", xmlSpace)] rest
  let (after, rest) ← aside fuel rest
  if rest.isEmpty then some (Numbered.ofContent (before ++ between ++ root :: after)) else none

end Xml

end Understudy
