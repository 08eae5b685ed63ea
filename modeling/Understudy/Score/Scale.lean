import Understudy.Number.Binary64

/-!
# Scales

Scores are numbers on a `Scale`. Doubles are the scale that a server computes with; the rationals are a scale
without rounding, on which the laws of scores are exact.
-/

namespace Understudy

class Scale (α : Type) where
  /-- the score of a mismatch -/
  zero : α
  /-- the score of a perfect match -/
  one : α
  add : α → α → α
  sub : α → α → α
  /-- a total over a count of its terms -/
  share : α → Nat → α
  lt : α → α → Bool
  eq : α → α → Bool

instance : Scale Rat where
  zero := 0
  one := 1
  add := (· + ·)
  sub := (· - ·)
  share x n := x / n
  lt a b := a < b
  eq a b := a == b

instance : Scale Binary64 where
  zero := .zero
  one := .one
  add := .add
  sub := .sub
  share x n := x.div (.ofNat n)
  lt := Binary64.lt
  eq := Binary64.eq

/-- The scores of a running server. -/
abbrev Score := Binary64

namespace Scale

variable {α : Type} [Scale α]

def ofBool (b : Bool) : α := if b then one else zero

def max (a b : α) : α := if lt a b then b else a

def min (a b : α) : α := if lt b a then b else a

def sum (scores : List α) : α := scores.foldl add zero

@[simp] theorem ofBool_true : (ofBool true : α) = one := rfl

@[simp] theorem ofBool_false : (ofBool false : α) = zero := rfl

end Scale

end Understudy
