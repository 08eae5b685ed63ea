import Understudy.Url.Fault
import Understudy.Url.Punycode
import Understudy.Net.Address
import Understudy.Text.LetterCase
import Understudy.Text.Property
import Understudy.Bytes.Percent

/-!
# Hosts

The host of a URL is a domain or an address. Domains of the schemes that every reader knows are brought into one ASCII
form, and those that end in a number have to be an address; other schemes keep their hosts as they are.
-/

namespace Understudy

namespace Url

inductive Host where
  | domain (name : String)
  | address4 (bits : BitVec 32)
  | address6 (bits : BitVec 128)
  deriving DecidableEq, Inhabited

namespace Host

-- the powers of the core library, whichever others are in sight
attribute [local instance (1100)] instPowNat

def text : Host → String
  | .domain d => d
  | .address4 b => Address.text4 b
  | .address6 b => "[" ++ Address.text6 b ++ "]"

def isForbidden (c : Char) : Bool :=
  c.toNat ≤ 0x20 || c.toNat == 0x7F || "%#/:<>?@[\\]^|".toList.contains c

def isForbiddenOpaque (c : Char) : Bool :=
  ['\x00', '\t', '\n', '\r', ' ', '#', '/', ':', '<', '>', '?', '@', '[', '\\', ']', '^', '|'].contains c

/-- The small form of a character in domains: wide forms become narrow and invisible ones go. -/
def domainChar (c : Char) : List Char :=
  let n := c.toNat
  if n < 128 then [c.toLower]
  else if n = 0x3002 ∨ n = 0xFF0E ∨ n = 0xFF61 then ['.']
  else if n = 0xAD ∨ n = 0x200B ∨ n = 0x2060 ∨ n = 0xFEFF ∨ (0xFE00 ≤ n ∧ n ≤ 0xFE0F) then []
  else if 0xFF01 ≤ n ∧ n ≤ 0xFF5E then [(Char.ofNat (n - 0xFEE0)).toLower]
  else Text.lowercaseChar c

/-- A label that is not ASCII has only characters that can be seen, and starts with no mark. -/
def isValidLabel (label : List Char) : Bool :=
  label.all (fun c => c.toNat != 0xFFFD && !Text.CodePoints.has Text.unprintable c.toNat) &&
    !label.head?.any fun c => Text.CodePoints.has Text.joiningMarks c.toNat

def asciiLabel? (label : List Char) : Option (List Char) :=
  if label.all (·.toNat < 128) then
    match Text.dropFront? "xn--".toList label with
    | none => some label
    | some code =>
      match Punycode.decode? code with
      | none => none
      | some decoded =>
        if decoded.any (128 ≤ ·.toNat) && decoded.flatMap domainChar == decoded
            && isValidLabel decoded then some label
        else none
  else if isValidLabel label then some ("xn--".toList ++ Punycode.encode label)
  else none

def asciiDomain? (name : List Char) : Option (List Char) := do
  let labels ← (Text.cutAtChar '.' (name.flatMap domainChar)).mapM asciiLabel?
  let ascii := ['.'].intercalate labels
  if ascii.any isForbidden then none else some ascii

/-- A number in base ten, eight or sixteen; one past 32 bits is a number without a value. -/
def number? (cs : List Char) : Option (Option Nat) :=
  let (base, ds) : Nat × List Char := match cs with
    | '0' :: 'x' :: rest => (16, rest)
    | '0' :: 'X' :: rest => (16, rest)
    | '0' :: d :: rest => (8, d :: rest)
    | cs => (10, cs)
  if cs.isEmpty then none
  else
    match ds.mapM fun c => (Text.hexDigit? c).filter (· < base) with
    | none => none
    | some values =>
      let n := values.foldl (fun n d => base * n + d) 0
      some (if n < 0x100000000 then some n else none)

def numberParts (cs : List Char) : List (List Char) :=
  let parts := Text.cutAtChar '.' cs
  if 1 < parts.length ∧ parts.getLast? = some [] then parts.dropLast else parts

/-- The last part is a number, so that the domain has to be an address. -/
def endsInNumber (cs : List Char) : Bool :=
  match (numberParts cs).getLast? with
  | some last => (!last.isEmpty && last.all Char.isDigit) || (number? last).isSome
  | none => false

/-- The address of up to four numbers, of which the last fills all bytes that are left. -/
def address4? (cs : List Char) : Option (BitVec 32) := do
  let numbers ← (numberParts cs).mapM fun p => (number? p).join
  let last ← numbers.getLast?
  let firsts := numbers.dropLast
  if 3 < firsts.length ∨ firsts.any (255 < ·) ∨ 256 ^ (4 - firsts.length) ≤ last then none
  else
    let high := firsts.foldl (fun n d => 256 * n + d) 0
    some (BitVec.ofNat 32 (high * 256 ^ (4 - firsts.length) + last))

def bracketed (cs : List Char) : Except Fault Host :=
  if cs.getLast? = some ']' then
    match Address.bits6? cs.tail.dropLast with
    | some b => pure (.address6 b)
    | none => throw .address6
  else throw .address6

def parse (cs : List Char) : Except Fault Host :=
  if cs.head? = some '[' then bracketed cs
  else
    match (Bytes.text? (Percent.decode (String.ofList cs))).bind (asciiDomain? ·.toList) with
    | none => throw .domain
    | some [] => throw .emptyHost
    | some ascii =>
      if endsInNumber ascii then
        match address4? ascii with
        | some b => pure (.address4 b)
        | none => throw .address4
      else pure (.domain (String.ofList ascii))

def parseOpaque (cs : List Char) : Except Fault Host :=
  if cs.head? = some '[' then bracketed cs
  else if cs.any isForbiddenOpaque then throw .domain
  else pure (.domain (String.ofList (Percent.encode (fun c => 0x20 ≤ c.toNat && c.toNat != 0x7F) cs)))

end Host

end Url

end Understudy
