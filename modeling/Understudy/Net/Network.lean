import Understudy.Net.Address
import Understudy.Text.Blank
import Understudy.Error

/-!
# Networks

A network is an address and the number of its leading bits that count. `Network.contains` compares these bits.
-/

namespace Understudy

structure Network where
  address : Address
  length : Nat
  deriving DecidableEq, Inhabited

namespace Network

def width : Address → Nat
  | .v4 _ => 32
  | .v6 _ => 128

/-- The places by which a word of ones is shifted to leave its first `length` bits set; no bits need no shift. -/
def maskShift? (width length : Nat) : Option Nat := if length = 0 then none else some (width - length)

def mask (width length : Nat) : BitVec width :=
  match maskShift? width length with
  | none => 0
  | some places => BitVec.allOnes width <<< places

/-- The address agrees with the network's in the bits that count; a mapped address counts as one of the older kind. -/
def contains (net : Network) (address : Address) : Bool :=
  match net.address, address.canonical with
  | .v4 a, .v4 b => a &&& mask 32 net.length == b &&& mask 32 net.length
  | .v6 a, .v6 b => a &&& mask 128 net.length == b &&& mask 128 net.length
  | _, _ => false

/-- An address with a slash and a length, or alone when all its bits count. -/
def parse (s : String) : Except PatternFault Network := do
  let trimmed := Text.trim s
  let (front, length) ← match Text.splitOnce "/" trimmed with
    | some (front, back) =>
      match Numeral.atMost? 255 back with
      | some n => pure (front, some n)
      | none => throw .lengthNoNumber
    | none => pure (trimmed, none)
  match Address.parse? front with
  | none => throw .noAddress
  | some address =>
    let length := length.getD (width address)
    if width address < length then throw .lengthTooGreat else pure { address, length }

def text (net : Network) : String := s!"{net.address}/{net.length}"

/-- An address in a text with blanks and brackets around it; a mapped one is of the older kind. -/
def addressIn? (s : String) : Option Address :=
  let inside := (Text.trim s).toList.dropWhile (· == '[')
  let inside := (inside.reverse.dropWhile (· == ']')).reverse
  (Address.parse? (String.ofList inside)).map Address.canonical

end Network

end Understudy
