import Understudy.Number.Binary64

/-!
# Decimal texts of doubles

`shortest` finds the fewest decimal digits that read back as a given double, and of those the ones
nearest to it. `Layout` says how digits and a power of ten are written, and `Layout.write` writes them.
`ofDecimal` reads digits and a power of ten back, correctly rounded.
-/

namespace Understudy

namespace Binary64

-- the powers of the core library, whichever others are in sight
attribute [local instance (1100)] instPowNat

/-- A decimal significand with a power of ten: `digits * 10 ^ exponent`. -/
structure Decimal where
  digits : Nat
  exponent : Int
  deriving DecidableEq, Repr

namespace Decimal

def value (d : Decimal) : Rat :=
  if d.exponent < 0 then mkRat d.digits (10 ^ d.exponent.natAbs)
  else (d.digits * 10 ^ d.exponent.toNat : Nat)

end Decimal

/-- The reals that round to one positive double: the two ends, and whether the ends belong to it. -/
structure Reach where
  low : Rat
  high : Rat
  closed : Bool

def Reach.holds (r : Reach) (x : Rat) : Bool :=
  if r.closed then r.low ≤ x && x ≤ r.high else r.low < x && x < r.high

/-- The reals that round to the positive double `x`; below a power of two the places are half as wide. -/
def reach (x : Rat) : Reach :=
  let num := x.num.toNat
  let q := lastPlace num x.den
  let m := units num x.den q
  let half := twoPow (q - 1)
  let below := if m = 0x10000000000000 ∧ -1074 < q then half / 2 else half
  { low := x - below, high := x + half, closed := m % 2 = 0 }

def digitCount (n : Nat) : Nat := (Nat.toDigits 10 n).length

/-- The power of ten of the first digit of a positive magnitude: `10 ^ e ≤ x < 10 ^ (e + 1)`. -/
def leadingPlace (x : Rat) : Int :=
  let num := x.num.toNat
  if x.den ≤ num then (digitCount (num / x.den) : Int) - 1
  else
    -- below one: the reciprocal's place, one less unless `x` is a power of ten
    let k := digitCount (x.den / num) - 1
    if num * 10 ^ k = x.den then -(k : Int) else -(k : Int) - 1

/-- The decimal with `count` digits that is next to `x` in its reach, when there is one. -/
def nearestWith (x : Rat) (r : Reach) (count : Nat) : Option Decimal :=
  let e := leadingPlace x - (count : Int) + 1
  let scaled : Rat := if e < 0 then x * (10 ^ e.natAbs : Nat) else x / (10 ^ e.toNat : Nat)
  let down := scaled.floor.toNat
  let lower : Decimal := ⟨down, e⟩
  let upper : Decimal := ⟨down + 1, e⟩
  match r.holds lower.value && down != 0, r.holds upper.value with
  | false, false => none
  | true, false => some lower
  | false, true => some upper
  | true, true =>
    let a := x - lower.value
    let b := upper.value - x
    if a < b || (a == b && down % 2 == 0) then some lower else some upper

def dropZeros : Nat → Decimal → Decimal
  | 0, d => d
  | fuel + 1, d =>
    if d.digits ≠ 0 ∧ d.digits % 10 = 0 then dropZeros fuel ⟨d.digits / 10, d.exponent + 1⟩ else d

/-- The shortest decimal that reads back as the positive double `x`, the nearest of those. -/
def shortest (x : Rat) : Decimal :=
  let r := reach x
  let found := (List.range 17).findSome? fun i => nearestWith x r (i + 1)
  dropZeros 20 (found.getD ⟨0, 0⟩)

structure Layout where
  /-- from this power of ten of the first digit on, values are written with an exponent -/
  exponentFrom : Option Int
  /-- below this power of ten of the first digit, values are written with an exponent -/
  exponentBelow : Option Int
  /-- whether a whole number is given `.0` -/
  pointZero : Bool
  /-- whether an exponent above zero is given a plus sign -/
  plusSign : Bool

def zeros (n : Nat) : String := String.ofList (List.replicate n '0')

def Layout.writeDigits (layout : Layout) (d : Decimal) : String :=
  let ds := Nat.toDigits 10 d.digits
  let place := d.exponent + (ds.length : Int) - 1
  let withExponent := (layout.exponentFrom.any (· ≤ place)) || (layout.exponentBelow.any (place < ·))
  if withExponent then
    let front := match ds with
      | [] => ""
      | [c] => c.toString
      | c :: rest => c.toString ++ "." ++ String.ofList rest
    let sign := if place < 0 then "-" else if layout.plusSign then "+" else ""
    front ++ "e" ++ sign ++ toString place.natAbs
  else if 0 ≤ d.exponent then
    String.ofList ds ++ zeros d.exponent.toNat ++ (if layout.pointZero then ".0" else "")
  else if 0 ≤ place then
    let whole := (place + 1).toNat
    String.ofList (ds.take whole) ++ "." ++ String.ofList (ds.drop whole)
  else "0." ++ zeros (place.natAbs - 1) ++ String.ofList ds

/-- The text of a double: the empty text for not-a-number, and no sign on it. -/
def Layout.write (layout : Layout) : Binary64 → String
  | .nan => "NaN"
  | .infinite s => if s then "-inf" else "inf"
  | .finite s m =>
    let text :=
      if m ≤ 0 then (if layout.pointZero then "0.0" else "0") else layout.writeDigits (shortest m)
    if s then "-" ++ text else text

/-- `digits * 10 ^ exponent` with a sign, rounded once. -/
def ofDecimal (negative : Bool) (digits : Nat) (exponent : Int) : Binary64 :=
  if digits = 0 then .finite negative 0
  else
    -- beyond these places the value is past the largest or below half the smallest double
    let place := exponent + (digitCount digits : Int)
    if 400 < place then .infinite negative
    else if place < -400 then .finite negative 0
    else ofMagnitude negative (Decimal.value ⟨digits, exponent⟩)

end Binary64

end Understudy
