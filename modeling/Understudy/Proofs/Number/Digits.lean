import Mathlib.Data.Nat.Basic
import Understudy.Number.Numeral

/-!
# Digits are read back

The decimal digits of a number are digits, start with a zero for zero only, and are read as this number, zeros put in
front of them or not. A run of digits ends where something else begins.
-/

namespace Understudy

namespace Numeral

theorem ofDigits_append (start : ℕ) (a b : List Char) :
    ofDigits start (a ++ b) = ofDigits (ofDigits start a) b := List.foldl_append

theorem digitChar_toNat {d : ℕ} (h : d < 10) : d.digitChar.toNat - '0'.toNat = d := by
  have hsmall : ∀ d : Fin 10, (Nat.digitChar d).toNat - '0'.toNat = d.val := by decide
  exact hsmall ⟨d, h⟩

theorem toDigits_eq (n : ℕ) :
    Nat.toDigits 10 n =
      if n < 10 then [n.digitChar] else Nat.toDigits 10 (n / 10) ++ [(n % 10).digitChar] :=
  Nat.toDigits_eq_if (by decide)

theorem ofDigits_toDigits (n : ℕ) : ofDigits 0 (Nat.toDigits 10 n) = n := by
  induction n using Nat.strongRecOn with
  | _ n ih =>
      rw [toDigits_eq]
      split
      · rename_i h
        simpa [ofDigits] using digitChar_toNat h
      · rw [ofDigits_append, ih (n / 10) (by omega)]
        simp only [ofDigits, List.foldl_cons, List.foldl_nil,
          digitChar_toNat (Nat.mod_lt n (by decide : 0 < 10))]
        omega

theorem isDigit_of_mem_toDigits {n : ℕ} {c : Char} (h : c ∈ Nat.toDigits 10 n) :
    c.isDigit = true := Nat.isDigit_of_mem_toDigits (by decide) (by decide) h

theorem head?_toDigits (n : ℕ) : (Nat.toDigits 10 n).head? = some '0' → n = 0 := by
  induction n using Nat.strongRecOn with
  | _ n ih =>
      intro h
      rw [toDigits_eq] at h
      split at h
      · rename_i hlt
        have hsmall : ∀ d : Fin 10, Nat.digitChar d = '0' → d.val = 0 := by decide
        exact hsmall ⟨n, hlt⟩ (Option.some.inj h)
      · rename_i hge
        rw [List.head?_append, Option.or_of_isSome (List.isSome_head?.2 Nat.toDigits_ne_nil)] at h
        have hzero := ih (n / 10) (by omega) h
        omega

theorem ofDigits_replicate (k : ℕ) : ofDigits 0 (List.replicate k '0') = 0 := by
  induction k with
  | zero => rfl
  | succ k ih =>
      rw [List.replicate_succ', ofDigits_append, ih]
      rfl

def EndsDigits (rest : List Char) : Prop := ∀ c ∈ rest.head?, c.isDigit = false

theorem takeWhile_isDigit {rest : List Char} (hrest : EndsDigits rest) (cs : List Char) :
    (cs ++ rest).takeWhile Char.isDigit = cs.takeWhile Char.isDigit := by
  induction cs with
  | nil =>
      cases rest with
      | nil => rfl
      | cons c rest => simp [hrest c rfl]
  | cons c cs ih => cases hc : c.isDigit <;> simp [hc, ih]

theorem dropWhile_isDigit {rest : List Char} (hrest : EndsDigits rest) (cs : List Char) :
    (cs ++ rest).dropWhile Char.isDigit = cs.dropWhile Char.isDigit ++ rest := by
  induction cs with
  | nil =>
      cases rest with
      | nil => rfl
      | cons c rest => simp [hrest c rfl]
  | cons c cs ih => cases hc : c.isDigit <;> simp [hc, ih]

end Numeral

end Understudy
