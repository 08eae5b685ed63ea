import Understudy.Bytes.Basic

/-!
# Base 64

`Base64.encode` writes three bytes as four letters of the standard alphabet, filling the last group up with
`=`. `Base64.decode?` reads exactly these texts: whole groups, fill only at the end, and no stray bits.
-/

namespace Understudy

namespace Base64

def alphabet : List Char :=
  "ABCDEFGHIJKLMNOPQRSTUVWXYZabcdefghijklmnopqrstuvwxyz0123456789+/".toList

def letter (n : Nat) : Char := alphabet.getD (n % 64) 'A'

def value? (c : Char) : Option Nat := alphabet.findIdx? (· == c)

def encodeBytes : List UInt8 → List Char
  | [] => []
  | [a] =>
    let n := a.toNat * 16
    [letter (n / 64), letter n, '=', '=']
  | [a, b] =>
    let n := (a.toNat * 256 + b.toNat) * 4
    [letter (n / 4096), letter (n / 64), letter n, '=']
  | a :: b :: c :: rest =>
    let n := (a.toNat * 256 + b.toNat) * 256 + c.toNat
    letter (n / 262144) :: letter (n / 4096) :: letter (n / 64) :: letter n :: encodeBytes rest

def encode (b : Bytes) : String := String.ofList (encodeBytes b.toList)

def decodeLetters : List Char → Option (List UInt8)
  | [] => some []
  | [a, b, '=', '='] =>
    match value? a, value? b with
    | some w, some x =>
      if x % 16 = 0 then some [UInt8.ofNat (w * 4 + x / 16)] else none
    | _, _ => none
  | [a, b, c, '='] =>
    match value? a, value? b, value? c with
    | some w, some x, some y =>
      if y % 4 = 0 then
        let n := (w * 64 + x) * 16 + y / 4
        some [UInt8.ofNat (n / 256), UInt8.ofNat n]
      else none
    | _, _, _ => none
  | a :: b :: c :: d :: rest =>
    match value? a, value? b, value? c, value? d, decodeLetters rest with
    | some w, some x, some y, some z, some bs =>
      let n := ((w * 64 + x) * 64 + y) * 64 + z
      some (UInt8.ofNat (n / 65536) :: UInt8.ofNat (n / 256) :: UInt8.ofNat n :: bs)
    | _, _, _, _, _ => none
  | _ => none

def decode? (s : String) : Option Bytes := (decodeLetters s.toList).map Bytes.ofList

end Base64

end Understudy
