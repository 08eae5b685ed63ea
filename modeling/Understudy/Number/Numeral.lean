import Understudy.Number.Decimal
import Understudy.Text.Ascii

/-!
# Numerals

Reading whole numbers and doubles from text. Every character of the text has to belong to the numeral:
blanks are not skipped.
-/

namespace Understudy

namespace Numeral

def digit? (c : Char) : Option Nat := if c.isDigit then some (c.toNat - '0'.toNat) else none

/-- The number a run of ASCII digits stands for, `start` being the value of the digits before it. -/
def ofDigits (start : Nat) (cs : List Char) : Nat :=
  cs.foldl (fun n c => 10 * n + (c.toNat - '0'.toNat)) start

def nat? (cs : List Char) : Option Nat :=
  if !cs.isEmpty && cs.all Char.isDigit then some (ofDigits 0 cs) else none

/-- A numeral of ASCII digits, a plus sign allowed in front, with a value of at most `max`. -/
def atMost? (max : Nat) (s : String) : Option Nat :=
  let digits := match s.toList with
    | '+' :: cs => cs
    | cs => cs
  (nat? digits).filter (· ≤ max)

def sign : List Char → Bool × List Char
  | '-' :: cs => (true, cs)
  | '+' :: cs => (false, cs)
  | cs => (false, cs)

def exponent? (cs : List Char) : Option Int :=
  let (negative, digits) := sign cs
  (nat? digits).map fun n => if negative then -(n : Int) else n

/--
An unsigned decimal numeral: digits with at most one point among or beside them, at least one digit, and
then an exponent, if there is one.
-/
def decimal? (cs : List Char) : Option Binary64.Decimal :=
  let whole := cs.takeWhile Char.isDigit
  let rest := cs.dropWhile Char.isDigit
  let (fraction, rest) := match rest with
    | '.' :: more => (more.takeWhile Char.isDigit, more.dropWhile Char.isDigit)
    | _ => ([], rest)
  if whole.isEmpty && fraction.isEmpty then none
  else
    let digits := ofDigits 0 (whole ++ fraction)
    match rest with
    | [] => some ⟨digits, -(fraction.length : Int)⟩
    | c :: more =>
      if c = 'e' ∨ c = 'E' then
        (exponent? more).map fun e => ⟨digits, e - fraction.length⟩
      else none

def double? (s : String) : Option Binary64 :=
  let (negative, body) := sign s.toList
  match Text.lower (String.ofList body) with
  | "inf" | "infinity" => some (.infinite negative)
  | "nan" => some .nan
  | _ => (decimal? body).map fun d => .ofDecimal negative d.digits d.exponent

end Numeral

end Understudy
