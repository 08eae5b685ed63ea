import Understudy.Bytes.Basic

/-!
# Percent encoding

A byte is written as a percent sign and two digits of base sixteen. Decoding leaves a percent sign alone that
no two digits follow; encoding is by a set of the bytes to be written so.
-/

namespace Understudy

namespace Percent

def decodeBytes : List UInt8 → List UInt8
  | [] => []
  | [a] => [a]
  | [a, b] => [a, b]
  | a :: b :: c :: rest =>
    if a = 0x25 then
      match Text.hexDigit? (Char.ofNat b.toNat), Text.hexDigit? (Char.ofNat c.toNat) with
      | some x, some y => UInt8.ofNat (16 * x + y) :: decodeBytes rest
      | _, _ => a :: decodeBytes (b :: c :: rest)
    else a :: decodeBytes (b :: c :: rest)

def decode (s : String) : Bytes := Bytes.ofList (decodeBytes (Bytes.ofText s).toList)

/-- The decoded text, or the text as it is when its escapes are no UTF-8. -/
def decodeText (s : String) : String := (Bytes.text? (decode s)).getD s

def escape (b : UInt8) : List Char :=
  ['%', Text.hexCharUpper (b.toNat / 16), Text.hexCharUpper b.toNat]

/-- A character in UTF-8, with the bytes escaped that `keep` does not hold and all that are not ASCII. -/
def encodeChar (keep : Char → Bool) (c : Char) : List Char :=
  if c.toNat < 128 ∧ keep c then [c]
  else (Bytes.ofText c.toString).toList.flatMap escape

def encode (keep : Char → Bool) (cs : List Char) : List Char := cs.flatMap (encodeChar keep)

end Percent

end Understudy
