/-!
# Doubles

`Binary64` holds the values of the 64-bit binary floating-point format: not-a-number, two infinities and
the finite values, each kept as an exact magnitude with a sign, so that zero has two signs. Arithmetic
is done on exact rationals and then rounded: `nearest` takes a magnitude to the closest one of the
format, ties to the even significand, and `ofRat` gives infinity past the largest finite value.
-/

namespace Understudy

inductive Binary64 where
  /-- not a number -/
  | nan
  /-- plus or minus infinity -/
  | infinite (negative : Bool)
  /-- a finite value: its sign and its magnitude, which is not below zero -/
  | finite (negative : Bool) (magnitude : Rat)
  deriving DecidableEq, Inhabited

namespace Binary64

-- the powers of the core library, whichever others are in sight
attribute [local instance (1100)] instPowNat

def twoPow (e : Int) : Rat := if e < 0 then mkRat 1 (2 ^ e.natAbs) else (2 ^ e.toNat : Nat)

/-- The integer nearest to `num / den`, a half going to the even neighbour. -/
def roundHalfEven (num den : Nat) : Nat :=
  let q := num / den
  let r := num % den
  if 2 * r < den then q
  else if den < 2 * r then q + 1
  else if q % 2 = 0 then q else q + 1

/-- The greatest `e` with `2 ^ e ≤ num / den`, for positive arguments. -/
def floorLog2 (num den : Nat) : Int :=
  let guess : Int := (num.log2 : Int) - (den.log2 : Int)
  let fits : Bool :=
    if guess < 0 then den ≤ num * 2 ^ guess.natAbs else den * 2 ^ guess.toNat ≤ num
  if fits then guess else guess - 1

/-- The exponent of the last place of the doubles next to a positive `num / den`. -/
def lastPlace (num den : Nat) : Int := max (floorLog2 num den - 52) (-1074)

def units (num den : Nat) (q : Int) : Nat :=
  if q < 0 then roundHalfEven (num * 2 ^ q.natAbs) den else roundHalfEven num (den * 2 ^ q.toNat)

/-- The magnitude with a 53-bit significand nearest to `x`, for `x` not below zero, exponents unbounded above. -/
def nearest (x : Rat) : Rat :=
  if x ≤ 0 then 0
  else
    let num := x.num.toNat
    let q := lastPlace num x.den
    (units num x.den q : Nat) * twoPow q

def limit : Rat := (2 ^ (1024 : Nat) : Nat)

def ofMagnitude (negative : Bool) (x : Rat) : Binary64 :=
  let r := nearest x
  if r < limit then .finite negative r else .infinite negative

def ofRat (x : Rat) : Binary64 := ofMagnitude (x < 0) (if x < 0 then -x else x)

def ofInt (n : Int) : Binary64 := ofRat n

def ofNat (n : Nat) : Binary64 := ofRat (n : Int)

def zero : Binary64 := .finite false 0

def one : Binary64 := .finite false 1

def toRat? : Binary64 → Option Rat
  | .finite negative m => some (if negative then -m else m)
  | _ => none

def isNaN : Binary64 → Bool
  | .nan => true
  | _ => false

def isFinite : Binary64 → Bool
  | .finite .. => true
  | _ => false

def isZero : Binary64 → Bool
  | .finite _ m => m == 0
  | _ => false

/-- `a < b`: false whenever not-a-number takes part, and both zeros are equal. -/
def lt : Binary64 → Binary64 → Bool
  | .nan, _ => false
  | _, .nan => false
  | .infinite true, .infinite b => !b
  | .infinite true, .finite .. => true
  | .infinite false, _ => false
  | .finite .., .infinite b => !b
  | .finite s m, .finite t n => (if s then -m else m) < (if t then -n else n)

/-- Equality of values: false whenever not-a-number takes part, and both zeros are equal. -/
def eq : Binary64 → Binary64 → Bool
  | .infinite s, .infinite t => s == t
  | .finite s m, .finite t n => (if s then -m else m) == (if t then -n else n)
  | _, _ => false

def le (a b : Binary64) : Bool := lt a b || eq a b

def neg : Binary64 → Binary64
  | .nan => .nan
  | .infinite s => .infinite !s
  | .finite s m => .finite (!s) m

/-- The rounded sum; an exact zero is positive unless both terms are negative zeros. -/
def add : Binary64 → Binary64 → Binary64
  | .nan, _ => .nan
  | _, .nan => .nan
  | .infinite s, .infinite t => if s == t then .infinite s else .nan
  | .infinite s, .finite .. => .infinite s
  | .finite .., .infinite t => .infinite t
  | .finite s m, .finite t n =>
    let total := (if s then -m else m) + (if t then -n else n)
    if total == 0 then .finite (s && t) 0 else ofRat total

def sub (a b : Binary64) : Binary64 := add a (neg b)

def mul : Binary64 → Binary64 → Binary64
  | .nan, _ => .nan
  | _, .nan => .nan
  | .infinite s, .infinite t => .infinite (s != t)
  | .infinite s, .finite t n => if n == 0 then .nan else .infinite (s != t)
  | .finite s m, .infinite t => if m == 0 then .nan else .infinite (s != t)
  | .finite s m, .finite t n => ofMagnitude (s != t) (m * n)

def div : Binary64 → Binary64 → Binary64
  | .nan, _ => .nan
  | _, .nan => .nan
  | .infinite _, .infinite _ => .nan
  | .infinite s, .finite t _ => .infinite (s != t)
  | .finite s _, .infinite t => .finite (s != t) 0
  | .finite s m, .finite t n =>
    if n == 0 then (if m == 0 then .nan else .infinite (s != t))
    else ofMagnitude (s != t) (m / n)

/-- The remainder of the division whose quotient is cut toward zero, with the sign of the first. -/
def rem : Binary64 → Binary64 → Binary64
  | .finite s m, .finite _ n =>
    if n == 0 then .nan else .finite s (m - n * (m / n).floor)
  | .finite s m, .infinite _ => .finite s m
  | _, _ => .nan

def floor : Binary64 → Binary64
  | .finite s m =>
    if s then
      let up := m.ceil
      .finite true up
    else .finite false m.floor
  | x => x

def ceil (x : Binary64) : Binary64 := neg (floor (neg x))

end Binary64

end Understudy
