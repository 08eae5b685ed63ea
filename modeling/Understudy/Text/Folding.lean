import Understudy.Text.LetterCase

/-!
# Characters that are equal but for case

Simple case folding sends each character to one representative of its class; two characters are equal
but for case when they have the same one. `variants` lists a class.
-/

namespace Understudy

namespace Text

/-- The characters whose simple folding is another one, and how far away that is. -/
def foldTable : String :=
  "41.5A.1+20 B5+307 C0.D6.1+20 D8.DE.1+20 100.12E.2+1 132.136.2+1 139.147.2+1 14A.176.2+1
   178-79 179.17D.2+1 17F-10C 181+D2 182.184.2+1 186+CE 187+1 189.18A.1+CD 18B+1 18E+4F 18F+CA
   190+CB 191+1 193+CD 194+CF 196+D3 197+D1 198+1 19C+D3 19D+D5 19F+D6 1A0.1A4.2+1 1A6+DA 1A7+1
   1A9+DA 1AC+1 1AE+DA 1AF+1 1B1.1B2.1+D9 1B3.1B5.2+1 1B7+DB 1B8+1 1BC+1 1C4+2 1C5+1 1C7+2 1C8+1
   1CA+2 1CB.1DB.2+1 1DE.1EE.2+1 1F1+2 1F2.1F4.2+1 1F6-61 1F7-38 1F8.21E.2+1 220-82 222.232.2+1
   23A+2A2B 23B+1 23D-A3 23E+2A28 241+1 243-C3 244+45 245+47 246.24E.2+1 345+74 370.372.2+1
   376+1 37F+74 386+26 388.38A.1+25 38C+40 38E.38F.1+3F 391.3A1.1+20 3A3.3AB.1+20 3C2+1 3CF+8
   3D0-1E 3D1-19 3D5-F 3D6-16 3D8.3EE.2+1 3F0-36 3F1-30 3F4-3C 3F5-40 3F7+1 3F9-7 3FA+1
   3FD.3FF.1-82 400.40F.1+50 410.42F.1+20 460.480.2+1 48A.4BE.2+1 4C0+F 4C1.4CD.2+1 4D0.52E.2+1
   531.556.1+30 10A0.10C5.1+1C60 10C7+1C60 10CD+1C60 13F8.13FD.1-8 1C80-184E 1C81-184D 1C82-1844
   1C83.1C84.1-1842 1C85-1843 1C86-183C 1C87-1824 1C88+89C3 1C90.1CBA.1-BC0 1CBD.1CBF.1-BC0
   1E00.1E94.2+1 1E9B-3A 1E9E-1DBF 1EA0.1EFE.2+1 1F08.1F0F.1-8 1F18.1F1D.1-8 1F28.1F2F.1-8
   1F38.1F3F.1-8 1F48.1F4D.1-8 1F59.1F5F.2-8 1F68.1F6F.1-8 1F88.1F8F.1-8 1F98.1F9F.1-8
   1FA8.1FAF.1-8 1FB8.1FB9.1-8 1FBA.1FBB.1-4A 1FBC-9 1FBE-1C05 1FC8.1FCB.1-56 1FCC-9
   1FD8.1FD9.1-8 1FDA.1FDB.1-64 1FE8.1FE9.1-8 1FEA.1FEB.1-70 1FEC-7 1FF8.1FF9.1-80
   1FFA.1FFB.1-7E 1FFC-9 2126-1D5D 212A-20BF 212B-2046 2132+1C 2160.216F.1+10 2183+1
   24B6.24CF.1+1A 2C00.2C2F.1+30 2C60+1 2C62-29F7 2C63-EE6 2C64-29E7 2C67.2C6B.2+1 2C6D-2A1C
   2C6E-29FD 2C6F-2A1F 2C70-2A1E 2C72+1 2C75+1 2C7E.2C7F.1-2A3F 2C80.2CE2.2+1 2CEB.2CED.2+1
   2CF2+1 A640.A66C.2+1 A680.A69A.2+1 A722.A72E.2+1 A732.A76E.2+1 A779.A77B.2+1 A77D-8A04
   A77E.A786.2+1 A78B+1 A78D-A528 A790.A792.2+1 A796.A7A8.2+1 A7AA-A544 A7AB-A54F A7AC-A54B
   A7AD-A541 A7AE-A544 A7B0-A512 A7B1-A52A A7B2-A515 A7B3+3A0 A7B4.A7C2.2+1 A7C4-30 A7C5-A543
   A7C6-8A38 A7C7.A7C9.2+1 A7D0+1 A7D6.A7D8.2+1 A7F5+1 AB70.ABBF.1-97D0 FF21.FF3A.1+20
   10400.10427.1+28 104B0.104D3.1+28 10570.1057A.1+27 1057C.1058A.1+27 1058C.10592.1+27
   10594.10595.1+27 10C80.10CB2.1+40 118A0.118BF.1+20 16E40.16E5F.1+20 1E900.1E921.1+22"

def foldRuns : List CaseRun := CaseRun.ofText foldTable

def foldPoint (n : Nat) : Nat := (foldRuns.findSome? (·.image? n)).getD n

/-- Each code point that is not its own representative, with its representative. -/
def foldPairs : List (Nat × Nat) :=
  foldRuns.flatMap fun run => run.members.filterMap fun n => (run.image? n).map (n, ·)

/-- The code points that are equal to `n` but for case, itself among them. -/
def variants (n : Nat) : List Nat :=
  let rep := foldPoint n
  rep :: (foldPairs.filterMap fun (m, r) => if r == rep then some m else none)

end Text

end Understudy
