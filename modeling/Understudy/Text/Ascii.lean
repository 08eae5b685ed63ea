/-!
# Letter case in ASCII

Header names, operator names and status classes compare without regard to the case of the twenty-six
ASCII letters, and of no other letter. `Text.lower` and `Text.upper` change that case, and
`Text.sameName` is equality up to it.
-/

namespace Understudy

namespace Text

def lower (s : String) : String := String.ofList (s.toList.map Char.toLower)

def upper (s : String) : String := String.ofList (s.toList.map Char.toUpper)

/-- Two names are the same when they differ at most in the case of ASCII letters. -/
def sameName (a b : String) : Bool := lower a == lower b

theorem sameName_iff {a b : String} : sameName a b = true ↔ lower a = lower b := by
  simp [sameName]

@[simp] theorem sameName_refl (a : String) : sameName a a = true := by
  simp [sameName]

theorem sameName_symm (a b : String) : sameName a b = sameName b a := by
  simp only [sameName, Bool.beq_comm]

theorem sameName_trans {a b c : String} (hab : sameName a b = true) (hbc : sameName b c = true) :
    sameName a c = true := by
  rw [sameName_iff] at *
  exact hab.trans hbc

def listsName (names : List String) (name : String) : Bool := names.any (sameName · name)

/-- `i` when the character is the digit `i` of base sixteen, in either case. -/
def hexDigit? (c : Char) : Option Nat :=
  if '0' ≤ c ∧ c ≤ '9' then some (c.toNat - '0'.toNat)
  else if 'a' ≤ c ∧ c ≤ 'f' then some (c.toNat - 'a'.toNat + 10)
  else if 'A' ≤ c ∧ c ≤ 'F' then some (c.toNat - 'A'.toNat + 10)
  else none

def hexChar (n : Nat) : Char := "0123456789abcdef".toList.getD (n % 16) '0'

def hexCharUpper (n : Nat) : Char := "0123456789ABCDEF".toList.getD (n % 16) '0'

/-- The digits of `n` in base sixteen, small letters, no leading zero; `0` for zero. -/
def hexDigits (n : Nat) : List Char := Nat.toDigits 16 n

end Text

end Understudy
