/-!
# Punycode

A label with characters outside ASCII is written with its ASCII characters first and, behind a hyphen, the other ones
with their places as numbers of base thirty-six with digits of varying weight.
-/

namespace Understudy

namespace Punycode

def digit (n : Nat) : Char := "abcdefghijklmnopqrstuvwxyz0123456789".toList.getD n 'a'

def value? (c : Char) : Option Nat :=
  "abcdefghijklmnopqrstuvwxyz0123456789".toList.findIdx? (· == c.toLower)

/-- Divides by 35 until the value is small; how often, times 36, and what is left. -/
def settle : Nat → Nat → Nat → Nat × Nat
  | 0, k, delta => (k, delta)
  | fuel + 1, k, delta => if 455 < delta then settle fuel (k + 36) (delta / 35) else (k, delta)

def adapt (delta count : Nat) (first : Bool) : Nat :=
  let delta := if first then delta / 700 else delta / 2
  let (k, delta) := settle 40 0 (delta + delta / count)
  k + 36 * delta / (delta + 38)

/-- The weight at which a digit ends the number. -/
def threshold (k bias : Nat) : Nat := if k ≤ bias then 1 else if bias + 26 ≤ k then 26 else k - bias

def number : Nat → Nat → Nat → Nat → List Char
  | 0, _, _, _ => []
  | fuel + 1, bias, k, q =>
    let t := threshold k bias
    if q < t then [digit q]
    else digit (t + (q - t) % (36 - t)) :: number fuel bias (k + 36) ((q - t) / (36 - t))

structure State where
  n : Nat
  delta : Nat
  bias : Nat
  /-- how many characters are written -/
  done : Nat
  out : List Char

/-- Passes the characters of a label once, writing the places of the code point `m`. -/
def pass (basic m : Nat) (s : State) : List Char → State
  | [] => s
  | c :: cs =>
    if c.toNat < m then pass basic m { s with delta := s.delta + 1 } cs
    else if c.toNat = m then
      pass basic m
        { s with
          out := s.out ++ number 64 s.bias 36 s.delta
          bias := adapt s.delta (s.done + 1) (s.done == basic)
          delta := 0
          done := s.done + 1 } cs
    else pass basic m s cs

def passes (basic : Nat) (label : List Char) : Nat → State → State
  | 0, s => s
  | fuel + 1, s =>
    let left := (label.filter fun c => s.n ≤ c.toNat).map Char.toNat
    match left.min? with
    | none => s
    | some m =>
      let s := { s with delta := s.delta + (m - s.n) * (s.done + 1) }
      let s := pass basic m s label
      passes basic label fuel { s with delta := s.delta + 1, n := m + 1 }

/-- A label in ASCII, without the mark in front. -/
def encode (label : List Char) : List Char :=
  let basic := label.filter (·.toNat < 128)
  let start : State :=
    { n := 128, delta := 0, bias := 72, done := basic.length
      out := if basic.isEmpty then [] else basic ++ ['-'] }
  (passes basic.length label (label.length + 1) start).out

/-- A number read from its digits, with its value added to `i`. -/
def readNumber (bias : Nat) : Nat → Nat → Nat → List Char → Option (Nat × List Char)
  | _, _, _, [] => none
  | k, w, i, c :: cs =>
    match value? c with
    | none => none
    | some d =>
      let i := i + d * w
      let t := threshold k bias
      if 0x100000000 ≤ i then none
      else if d < t then some (i, cs)
      else readNumber bias (k + 36) (w * (36 - t)) i cs

def insertAll : Nat → Nat → Nat → Nat → List Char → List Char → Option (List Char)
  | 0, _, _, _, _, _ => none
  | _ + 1, _, _, _, label, [] => some label
  | fuel + 1, n, i, bias, label, code =>
    match readNumber bias 36 1 i code with
    | none => none
    | some (j, rest) =>
      let count := label.length + 1
      let n := n + j / count
      let place := j % count
      if h : n.isValidChar then
        let label := label.take place ++ Char.ofNatAux n h :: label.drop place
        insertAll fuel n (place + 1) (adapt (j - i) count (i == 0)) label rest
      else none

def decode? (code : List Char) : Option (List Char) :=
  let tail := (code.reverse.takeWhile (· != '-')).reverse
  let basic := (code.take (code.length - tail.length)).dropLast
  if basic.any (128 ≤ ·.toNat) then none
  else insertAll (code.length + 1) 128 0 72 basic tail

end Punycode

end Understudy
