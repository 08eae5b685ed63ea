import Understudy.Proofs.Bytes.Texts
import Understudy.Proofs.Text.Ascii
import Understudy.Response.Wire

/-!
# Messages that go out as they are

A message goes out whole when its status and all its headers are legal. Small letters keep a name legal, and a text
without control characters is a legal value.
-/

namespace Understudy

namespace Response

theorem isTokenChar_toLower {c : Char} (h : isTokenChar c = true) :
    isTokenChar c.toLower = true := by
  by_cases hcapital : 65 ≤ c.toNat ∧ c.toNat ≤ 90
  · have hsmall : c.toLower.isLower = true := by
      have hnat : c.toLower.toNat = c.toNat + 32 := by rw [Text.toNat_toLower, if_pos hcapital]
      have hrange : 97 ≤ c.toLower.toNat ∧ c.toLower.toNat ≤ 122 := by omega
      exact Bool.and_eq_true_iff.2 ⟨decide_eq_true (UInt32.le_iff_toNat_le.2 hrange.1),
        decide_eq_true (UInt32.le_iff_toNat_le.2 hrange.2)⟩
    have halpha : c.toLower.isAlpha = true := Bool.or_eq_true_iff.2 (Or.inr hsmall)
    simp [isTokenChar, Char.isAlphanum, halpha]
  · have hsame : c.toLower = c := by
      rw [← Char.toNat_inj, Text.toNat_toLower, if_neg hcapital]
    rwa [hsame]

theorem isToken_lower {s : String} (h : isToken s = true) : isToken (Text.lower s) = true := by
  rw [isToken, Bool.and_eq_true, Bool.not_eq_true', List.all_eq_true] at h ⊢
  constructor
  · simpa [Text.lower, String.isEmpty_iff] using h.1
  · intro c hc
    rw [Text.lower, String.toList_ofList] at hc
    obtain ⟨d, hd, rfl⟩ := List.mem_map.1 hc
    exact isTokenChar_toLower (h.2 d hd)

def IsLegalChar (c : Char) : Prop := c.toNat = 9 ∨ 0x20 ≤ c.toNat ∧ c.toNat ≠ 0x7F

theorem isLegalValue_iff {value : Bytes} :
    isLegalValue value = true ↔
      ∀ b ∈ value.toList, b.toNat = 9 ∨ 0x20 ≤ b.toNat ∧ b.toNat ≠ 0x7F := by
  have hnine (b : UInt8) : b = 9 ↔ b.toNat = 9 := UInt8.toNat_inj.symm
  have hdelete (b : UInt8) : b = 127 ↔ b.toNat = 0x7F := UInt8.toNat_inj.symm
  simp only [isLegalValue, List.all_eq_true, Bool.or_eq_true, Bool.and_eq_true, beq_iff_eq,
    bne_iff_ne, decide_eq_true_eq, hnine, ne_eq, hdelete, UInt8.le_iff_toNat_le]
  rfl

/-- A text is a legal value exactly when its characters are. -/
theorem isLegalValue_ofText_iff {s : String} :
    isLegalValue (Bytes.ofText s) = true ↔ ∀ c ∈ s.toList, IsLegalChar c := by
  rw [isLegalValue_iff]
  constructor
  · intro h c hc
    by_cases hascii : c.toNat < 128
    · have hbyte : UInt8.ofNat c.toNat ∈ (Bytes.ofText s).toList := by
        rw [Bytes.toList_ofText]
        refine List.mem_flatMap.2 ⟨c, hc, ?_⟩
        rw [Bytes.utf8EncodeChar_of_lt hascii]
        exact List.mem_singleton_self _
      have hlegal := h _ hbyte
      rwa [UInt8.toNat_ofNat', Nat.mod_eq_of_lt (by omega)] at hlegal
    · exact Or.inr ⟨by omega, by omega⟩
  · intro h b hb
    rcases Bytes.exists_of_mem_ofText hb with hle | ⟨c, hc, heq⟩
    · exact Or.inr ⟨by omega, by omega⟩
    · exact heq ▸ h c hc

theorem isLegalValue_ofText {s : String} (h : ∀ c ∈ s.toList, 0x20 ≤ c.toNat ∧ c.toNat ≠ 0x7F) :
    isLegalValue (Bytes.ofText s) = true :=
  isLegalValue_ofText_iff.2 fun c hc => Or.inr (h c hc)

/-- The headers are legal, and so the message goes out with all of them. -/
theorem Message.wire_of_legal {m : Message} (hstatus : isLegalStatus m.status = true)
    (hheaders : ∀ h ∈ m.allHeaders, isToken h.1 = true ∧ isLegalValue h.2 = true) :
    m.wire =
      { status := m.status
        headers := m.allHeaders.map fun h => (Text.lower h.1, h.2)
        body := m.body } := by
  have hall : (m.allHeaders.all fun h => isToken h.1 && isLegalValue h.2) = true := by
    simpa only [List.all_eq_true, Bool.and_eq_true] using hheaders
  unfold wire
  simp only [hall, if_true, hstatus]

end Response

end Understudy
