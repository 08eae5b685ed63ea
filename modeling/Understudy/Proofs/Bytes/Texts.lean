import Understudy.Bytes.Basic

/-!
# The bytes of texts

The bytes of a text are those of its characters, one after another. An ASCII character is one byte with its number, and
all bytes of any other character are above those, so that an ASCII byte tells its character.
-/

namespace Understudy

namespace Bytes

theorem toList_ofText (s : String) : (ofText s).toList = s.toList.flatMap String.utf8EncodeChar := by
  have hdata : (ofText s).data = (s.toList.flatMap String.utf8EncodeChar).toByteArray.data := by
    rw [ofText, String.toUTF8, ← String.utf8Encode_toList]
    rfl
  rw [toList, hdata, List.data_toByteArray]

theorem toList_ofText_append (a b : String) :
    (ofText (a ++ b)).toList = (ofText a).toList ++ (ofText b).toList := by
  simp only [toList_ofText, String.toList_append, List.flatMap_append]

theorem toList_inj {a b : Bytes} : a.toList = b.toList ↔ a = b := by
  refine ⟨fun h => ByteArray.ext (Array.toList_inj.1 h), fun h => by rw [h]⟩

@[simp] theorem toList_ofList (bs : List UInt8) : (ofList bs).toList = bs := rfl

theorem ofText_inj {a b : String} : ofText a = ofText b ↔ a = b := String.toByteArray_inj

theorem toNat_charOfNat {n : Nat} (h : n.isValidChar) : (Char.ofNat n).toNat = n := by
  rw [Char.ofNat, dif_pos h]
  rfl

theorem toNat_charOfByte (b : UInt8) : (Char.ofNat b.toNat).toNat = b.toNat := by
  have hlt := b.toNat_lt
  exact toNat_charOfNat (Or.inl (by omega))

theorem utf8EncodeChar_of_lt {c : Char} (h : c.toNat < 128) :
    String.utf8EncodeChar c = [UInt8.ofNat c.toNat] := by
  unfold String.utf8EncodeChar
  exact if_pos (Nat.le_of_lt_succ h)

theorem le_of_mem_utf8EncodeChar {c : Char} (h : 128 ≤ c.toNat) {b : UInt8}
    (hb : b ∈ String.utf8EncodeChar c) : 128 ≤ b.toNat := by
  have hne : ¬ c.val.toNat ≤ 127 := Nat.not_le.2 h
  unfold String.utf8EncodeChar at hb
  simp only [if_neg hne] at hb
  -- the marks of lead bytes and of the bytes behind them are above ASCII
  split at hb
  · simp only [List.mem_cons, List.not_mem_nil, or_false] at hb
    rcases hb with rfl | rfl <;> simp only [UInt8.toNat_ofNat'] <;> omega
  · split at hb
    · simp only [List.mem_cons, List.not_mem_nil, or_false] at hb
      rcases hb with rfl | rfl | rfl <;> simp only [UInt8.toNat_ofNat'] <;> omega
    · simp only [List.mem_cons, List.not_mem_nil, or_false] at hb
      rcases hb with rfl | rfl | rfl | rfl <;> simp only [UInt8.toNat_ofNat'] <;> omega

/-- A byte of a text is above ASCII, or one of its characters. -/
theorem exists_of_mem_ofText {s : String} {b : UInt8} (h : b ∈ (ofText s).toList) :
    128 ≤ b.toNat ∨ ∃ c ∈ s.toList, c.toNat = b.toNat := by
  rw [toList_ofText, List.mem_flatMap] at h
  obtain ⟨c, hc, hb⟩ := h
  by_cases hascii : c.toNat < 128
  · rw [utf8EncodeChar_of_lt hascii, List.mem_singleton] at hb
    refine Or.inr ⟨c, hc, ?_⟩
    rw [hb, UInt8.toNat_ofNat', Nat.mod_eq_of_lt (by omega)]
  · exact Or.inl (le_of_mem_utf8EncodeChar (Nat.not_lt.1 hascii) hb)

theorem notMem_ofText {s : String} {c : Char} (hc : c.toNat < 128) (h : c ∉ s.toList) :
    UInt8.ofNat c.toNat ∉ (ofText s).toList := by
  have hbyte : (UInt8.ofNat c.toNat).toNat = c.toNat := by
    rw [UInt8.toNat_ofNat', Nat.mod_eq_of_lt (by omega)]
  intro hmem
  rcases exists_of_mem_ofText hmem with hle | ⟨d, hd, heq⟩
  · omega
  · rw [hbyte] at heq
    exact h (Char.toNat_inj.1 heq ▸ hd)

end Bytes

end Understudy
