import Understudy.Bytes.Base64

/-!
# Base 64 is read back

Every letter of the alphabet has its value and none of them is the fill, so each group of letters is read as the
bytes that it was written for.
-/

namespace Understudy

namespace Base64

theorem value?_letter (n : Nat) : value? (letter n) = some (n % 64) := by
  have hsmall : ∀ m : Fin 64, value? (alphabet.getD m 'A') = some m.val := by decide +kernel
  exact hsmall ⟨n % 64, Nat.mod_lt _ (by decide)⟩

theorem letter_ne_fill (n : Nat) : letter n ≠ '=' := by
  have hsmall : ∀ m : Fin 64, alphabet.getD m 'A' ≠ '=' := by decide +kernel
  exact hsmall ⟨n % 64, Nat.mod_lt _ (by decide)⟩

theorem decodeLetters_letters (i j k l : Nat) (rest : List Char) :
    decodeLetters (letter i :: letter j :: letter k :: letter l :: rest) =
      (decodeLetters rest).map fun bs =>
        let n := ((i % 64 * 64 + j % 64) * 64 + k % 64) * 64 + l % 64
        UInt8.ofNat (n / 65536) :: UInt8.ofNat (n / 256) :: UInt8.ofNat n :: bs := by
  rw [decodeLetters]
  · rw [value?_letter, value?_letter, value?_letter, value?_letter]
    cases decodeLetters rest with
    | none => rfl
    | some bs => rfl
  · intro _ h _
    exact letter_ne_fill l h
  · intro h _
    exact letter_ne_fill l h

theorem ofNat_eq {n : Nat} {b : UInt8} (h : n % 256 = b.toNat) : UInt8.ofNat n = b := by
  apply UInt8.toNat_inj.1
  rw [UInt8.toNat_ofNat']
  exact h

theorem decodeLetters_encodeBytes (bs : List UInt8) : decodeLetters (encodeBytes bs) = some bs := by
  fun_induction encodeBytes bs with
  | case1 => rfl
  | case2 a n =>
      have ha := a.toNat_lt
      rw [decodeLetters, value?_letter, value?_letter]
      simp only
      rw [if_pos (by omega), ofNat_eq (b := a) (by omega)]
  | case3 a b n =>
      have ha := a.toNat_lt
      have hb := b.toNat_lt
      rw [decodeLetters, value?_letter, value?_letter, value?_letter]
      · simp only
        rw [if_pos (by omega), ofNat_eq (b := a) (by omega), ofNat_eq (b := b) (by omega)]
      · intro h
        exact letter_ne_fill _ h
  | case4 a b c rest n ih =>
      have ha := a.toNat_lt
      have hb := b.toNat_lt
      have hc := c.toNat_lt
      rw [decodeLetters_letters, ih]
      simp only [Option.map_some]
      rw [ofNat_eq (b := a) (by omega), ofNat_eq (b := b) (by omega), ofNat_eq (b := c) (by omega)]

/-- What was written is read back. -/
theorem decode?_encode (b : Bytes) : decode? (encode b) = some b := by
  rw [decode?, encode, String.toList_ofList, decodeLetters_encodeBytes]
  rfl

end Base64

end Understudy
