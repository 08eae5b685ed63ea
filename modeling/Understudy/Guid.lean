import Understudy.Text.Ascii

/-!
# GUIDs

A `Guid` is a word of 128 bits. It is written as thirty-two small digits of base sixteen in groups of 8, 4, 4, 4
and 12, and read in that form, without the hyphens, in braces, or as a URN.
-/

namespace Understudy

structure Guid where
  bits : BitVec 128
  deriving DecidableEq, Inhabited

namespace Guid

def digitsOf : Nat → Nat → List Char
  | 0, _ => []
  | count + 1, n => digitsOf count (n / 16) ++ [Text.hexChar n]

def digits (g : Guid) : List Char := digitsOf 32 g.bits.toNat

/-- Digits cut into groups with hyphens between them. -/
def hyphenated (ds : List Char) : List Char :=
  ds.take 8 ++ '-' :: (ds.drop 8).take 4 ++ '-' :: (ds.drop 12).take 4 ++ '-' :: (ds.drop 16).take 4
    ++ '-' :: ds.drop 20

def text (g : Guid) : String := String.ofList (hyphenated g.digits)

instance : ToString Guid := ⟨text⟩

def ofDigits? (ds : List Char) : Option Guid :=
  if ds.length = 32 then
    (ds.mapM Text.hexDigit?).map fun vs => ⟨BitVec.ofNat 128 (vs.foldl (fun n d => 16 * n + d) 0)⟩
  else none

def ofHyphenated? (cs : List Char) : Option Guid :=
  let ds := cs.filter (· != '-')
  if hyphenated ds = cs then ofDigits? ds else none

def parse? (s : String) : Option Guid :=
  let cs := s.toList
  if cs.length = 32 then ofDigits? cs
  else if cs.length = 36 then ofHyphenated? cs
  else if cs.length = 38 then
    if cs.head? = some '\x7b' ∧ cs.getLast? = some '\x7d' then ofHyphenated? (cs.tail.dropLast)
    else none
  else if cs.length = 45 then
    if cs.take 9 = "urn:uuid:".toList then ofHyphenated? (cs.drop 9) else none
  else none

/-- The first half of GUIDs that are made up, with the marks of a random one. -/
def madeHigh : Nat := 0x6a09e667f3bc4908

def made (n : Nat) : Guid :=
  ⟨BitVec.ofNat 128 (madeHigh * 0x10000000000000000 + 0xb2fb366e00000000 + n % 0x100000000)⟩

end Guid

/-- A source of GUIDs: which they are, and how many have been drawn. -/
structure GuidSource where
  guid : Nat → Guid
  drawn : Nat

namespace GuidSource

def made : GuidSource := { guid := Guid.made, drawn := 0 }

instance : Inhabited GuidSource := ⟨made⟩

def next (s : GuidSource) : Guid × GuidSource := (s.guid s.drawn, { s with drawn := s.drawn + 1 })

end GuidSource

end Understudy
