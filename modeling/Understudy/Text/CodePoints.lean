import Understudy.Text.Ascii

/-!
# Sets of code points

Properties of characters are sets of code points, kept as ranges in ascending order. The tables of this
folder are texts such as `41-5A 61`, which `CodePoints.ofText` reads.
-/

namespace Understudy

namespace Text

abbrev CodePoints := List (Nat × Nat)

namespace CodePoints

def has (ranges : CodePoints) (n : Nat) : Bool := ranges.any fun (a, b) => a ≤ n && n ≤ b

def last : Nat := 0x10FFFF

def ofHex (cs : List Char) : Nat := cs.foldl (fun n c => 16 * n + (hexDigit? c).getD 0) 0

/-- One entry of a table: a code point, or two with a dash between them. -/
def entry (cs : List Char) : Nat × Nat :=
  let a := cs.takeWhile (· != '-')
  match cs.drop a.length with
  | _ :: b => (ofHex a, ofHex b)
  | [] => (ofHex a, ofHex a)

/-- The stretches of a text between blanks and ends of lines, which may be empty. -/
def pieces : List Char → List (List Char)
  | [] => []
  | c :: cs =>
    if c = ' ' ∨ c = '\n' then [] :: pieces cs
    else match pieces cs with
      | [] => [[c]]
      | w :: ws => (c :: w) :: ws

def words (cs : List Char) : List (List Char) := (pieces cs).filter (!·.isEmpty)

def ofText (table : String) : CodePoints :=
  (words table.toList).map entry

end CodePoints

end Text

end Understudy
