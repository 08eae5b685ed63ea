import Understudy.Text.Ascii

/-!
# Bytes and their texts

Bodies and header values are byte arrays. `Bytes.text?` reads them as UTF-8 and `Bytes.latinText` reads
what is no UTF-8 byte by byte. `Bytes.lossyText` puts the replacement character where UTF-8 breaks off.
-/

namespace Understudy

abbrev Bytes := ByteArray

namespace Bytes

def empty : Bytes := ByteArray.empty

def ofList (bs : List UInt8) : Bytes := ⟨bs.toArray⟩

def toList (b : Bytes) : List UInt8 := b.data.toList

def ofText (s : String) : Bytes := s.toUTF8

/-- The text, when the bytes are valid UTF-8. -/
def text? (b : Bytes) : Option String := String.fromUTF8? b

/-- Each byte as the character with its number. -/
def byteText (b : Bytes) : String := String.ofList (b.toList.map fun x => Char.ofNat x.toNat)

/-- UTF-8 when the bytes are valid, and each byte as one character otherwise. -/
def latinText (b : Bytes) : String := (text? b).getD (byteText b)

/-- The text, when it has visible ASCII characters, blanks and tabs only. -/
def plainText? (b : Bytes) : Option String :=
  if b.toList.all fun x => x == 9 || (32 ≤ x && x < 127) then text? b else none

def hex (b : Bytes) : String :=
  String.ofList (b.toList.flatMap fun x => [Text.hexChar (x.toNat / 16), Text.hexChar x.toNat])

def ofHexDigits : List Char → Option (List UInt8)
  | [] => some []
  | a :: b :: rest =>
    match Text.hexDigit? a, Text.hexDigit? b, ofHexDigits rest with
    | some x, some y, some bs => some (UInt8.ofNat (16 * x + y) :: bs)
    | _, _, _ => none
  | [_] => none

def ofHex? (s : String) : Option Bytes := (ofHexDigits s.toList).map ofList

/-- What the first byte of a character allows: the bounds of the second byte and how many follow in all. -/
def lead? (b : UInt8) : Option (UInt8 × UInt8 × Nat) :=
  if 0xC2 ≤ b ∧ b ≤ 0xDF then some (0x80, 0xBF, 1)
  else if b = 0xE0 then some (0xA0, 0xBF, 2)
  else if b = 0xED then some (0x80, 0x9F, 2)
  else if 0xE1 ≤ b ∧ b ≤ 0xEF then some (0x80, 0xBF, 2)
  else if b = 0xF0 then some (0x90, 0xBF, 3)
  else if 0xF1 ≤ b ∧ b ≤ 0xF3 then some (0x80, 0xBF, 3)
  else if b = 0xF4 then some (0x80, 0x8F, 3)
  else none

/-- The bytes that belong to a character opened by a lead byte, as far as they go on. -/
def continuation (low high : UInt8) : Nat → List UInt8 → List UInt8
  | 0, _ => []
  | _, [] => []
  | n + 1, b :: bs =>
    if low ≤ b ∧ b ≤ high then b :: continuation 0x80 0xBF n bs else []

def assemble (first : UInt8) (tail : List UInt8) : Char :=
  let mask := match tail.length with
    | 1 => 0x1F
    | 2 => 0x0F
    | _ => 0x07
  Char.ofNat (tail.foldl (fun n b => n * 64 + (b.toNat % 64)) (Nat.land first.toNat mask))

/-- The characters, each longest broken start of a character being one replacement character. -/
def lossyChars : Nat → List UInt8 → List Char
  | 0, _ => []
  | _, [] => []
  | fuel + 1, b :: bs =>
    if b < 0x80 then Char.ofNat b.toNat :: lossyChars fuel bs
    else match lead? b with
      | none => Char.ofNat 0xFFFD :: lossyChars fuel bs
      | some (low, high, n) =>
        let tail := continuation low high n bs
        let c := if tail.length = n then assemble b tail else Char.ofNat 0xFFFD
        c :: lossyChars fuel (bs.drop tail.length)

def lossyText (b : Bytes) : String := String.ofList (lossyChars (b.toList.length + 1) b.toList)

end Bytes

end Understudy
