import Understudy.Text.Property

/-!
# Small letters

`lowercase` makes a text small by the rules of Unicode: each capital has its small letter, the dotted capital
I becomes two characters, and a capital sigma becomes the final sigma where a word ends. A table of
single steps is a list of runs: first and last code point, the distance between members, and the shift.
-/

namespace Understudy

namespace Text

structure CaseRun where
  first : Nat
  last : Nat
  /-- each code point, or every second one -/
  stride : Nat
  shift : Int

namespace CaseRun

def image? (run : CaseRun) (n : Nat) : Option Nat :=
  if run.first ≤ n ∧ n ≤ run.last ∧ (n - run.first) % run.stride = 0 then
    some ((n : Int) + run.shift).toNat
  else none

def members (run : CaseRun) : List Nat :=
  (List.range ((run.last - run.first) / run.stride + 1)).map fun i => run.first + i * run.stride

/-- One entry of a table: `C+D`, or `A.B.S+D` for a run from `A` to `B`. -/
def entry (cs : List Char) : CaseRun :=
  let span := cs.takeWhile fun c => c != '+' && c != '-'
  let rest := cs.drop span.length
  let size : Int := CodePoints.ofHex rest.tail
  let shift := if rest.head? == some '-' then -size else size
  let a := span.takeWhile (· != '.')
  match span.drop a.length with
  | [] => ⟨CodePoints.ofHex a, CodePoints.ofHex a, 1, shift⟩
  | _ :: more =>
    let b := more.takeWhile (· != '.')
    ⟨CodePoints.ofHex a, CodePoints.ofHex b, CodePoints.ofHex (more.drop (b.length + 1)), shift⟩

def ofText (table : String) : List CaseRun :=
  (CodePoints.words table.toList).map entry

end CaseRun

/-- The capitals with one small letter, and how far away it is. -/
def lowercaseTable : String :=
  "41.5A.1+20 C0.D6.1+20 D8.DE.1+20 100.12E.2+1 132.136.2+1 139.147.2+1 14A.176.2+1 178-79
   179.17D.2+1 181+D2 182.184.2+1 186+CE 187+1 189.18A.1+CD 18B+1 18E+4F 18F+CA 190+CB 191+1
   193+CD 194+CF 196+D3 197+D1 198+1 19C+D3 19D+D5 19F+D6 1A0.1A4.2+1 1A6+DA 1A7+1 1A9+DA 1AC+1
   1AE+DA 1AF+1 1B1.1B2.1+D9 1B3.1B5.2+1 1B7+DB 1B8+1 1BC+1 1C4+2 1C5+1 1C7+2 1C8+1 1CA+2
   1CB.1DB.2+1 1DE.1EE.2+1 1F1+2 1F2.1F4.2+1 1F6-61 1F7-38 1F8.21E.2+1 220-82 222.232.2+1
   23A+2A2B 23B+1 23D-A3 23E+2A28 241+1 243-C3 244+45 245+47 246.24E.2+1 370.372.2+1 376+1
   37F+74 386+26 388.38A.1+25 38C+40 38E.38F.1+3F 391.3A1.1+20 3A3.3AB.1+20 3CF+8 3D8.3EE.2+1
   3F4-3C 3F7+1 3F9-7 3FA+1 3FD.3FF.1-82 400.40F.1+50 410.42F.1+20 460.480.2+1 48A.4BE.2+1 4C0+F
   4C1.4CD.2+1 4D0.52E.2+1 531.556.1+30 10A0.10C5.1+1C60 10C7+1C60 10CD+1C60 13A0.13EF.1+97D0
   13F0.13F5.1+8 1C90.1CBA.1-BC0 1CBD.1CBF.1-BC0 1E00.1E94.2+1 1E9E-1DBF 1EA0.1EFE.2+1
   1F08.1F0F.1-8 1F18.1F1D.1-8 1F28.1F2F.1-8 1F38.1F3F.1-8 1F48.1F4D.1-8 1F59.1F5F.2-8
   1F68.1F6F.1-8 1F88.1F8F.1-8 1F98.1F9F.1-8 1FA8.1FAF.1-8 1FB8.1FB9.1-8 1FBA.1FBB.1-4A 1FBC-9
   1FC8.1FCB.1-56 1FCC-9 1FD8.1FD9.1-8 1FDA.1FDB.1-64 1FE8.1FE9.1-8 1FEA.1FEB.1-70 1FEC-7
   1FF8.1FF9.1-80 1FFA.1FFB.1-7E 1FFC-9 2126-1D5D 212A-20BF 212B-2046 2132+1C 2160.216F.1+10
   2183+1 24B6.24CF.1+1A 2C00.2C2F.1+30 2C60+1 2C62-29F7 2C63-EE6 2C64-29E7 2C67.2C6B.2+1
   2C6D-2A1C 2C6E-29FD 2C6F-2A1F 2C70-2A1E 2C72+1 2C75+1 2C7E.2C7F.1-2A3F 2C80.2CE2.2+1
   2CEB.2CED.2+1 2CF2+1 A640.A66C.2+1 A680.A69A.2+1 A722.A72E.2+1 A732.A76E.2+1 A779.A77B.2+1
   A77D-8A04 A77E.A786.2+1 A78B+1 A78D-A528 A790.A792.2+1 A796.A7A8.2+1 A7AA-A544 A7AB-A54F
   A7AC-A54B A7AD-A541 A7AE-A544 A7B0-A512 A7B1-A52A A7B2-A515 A7B3+3A0 A7B4.A7C2.2+1 A7C4-30
   A7C5-A543 A7C6-8A38 A7C7.A7C9.2+1 A7D0+1 A7D6.A7D8.2+1 A7F5+1 FF21.FF3A.1+20 10400.10427.1+28
   104B0.104D3.1+28 10570.1057A.1+27 1057C.1058A.1+27 1058C.10592.1+27 10594.10595.1+27
   10C80.10CB2.1+40 118A0.118BF.1+20 16E40.16E5F.1+20 1E900.1E921.1+22"

def lowercaseRuns : List CaseRun := CaseRun.ofText lowercaseTable

/-- Past the characters that case ignores, a letter with case comes next. -/
def nextIsCased (cs : List Char) : Bool :=
  match cs.dropWhile fun c => caseIgnorable.has c.toNat with
  | [] => false
  | c :: _ => cased.has c.toNat

def lowercaseChar (c : Char) : List Char :=
  if c.toNat < 128 then [c.toLower]
  else if c.toNat = 0x130 then ['i', Char.ofNat 0x307]
  else match lowercaseRuns.findSome? (·.image? c.toNat) with
    | some n => [Char.ofNat n]
    | none => [c]

/-- The small form of a text whose characters before it, last first, are `before`. -/
def lowercaseFrom (before : List Char) : List Char → List Char
  | [] => []
  | c :: cs =>
    let small :=
      if c.toNat = 0x3A3 then
        [Char.ofNat (if nextIsCased before && !nextIsCased cs then 0x3C2 else 0x3C3)]
      else lowercaseChar c
    small ++ lowercaseFrom (c :: before) cs

def lowercase (s : String) : String := String.ofList (lowercaseFrom [] s.toList)

end Text

end Understudy
