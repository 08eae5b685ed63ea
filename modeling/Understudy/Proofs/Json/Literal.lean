import Mathlib.Tactic.SplitIfs
import Understudy.Json.Printer
import Understudy.Json.Written

/-!
# String literals are read back

Every character is read back from what it is written as inside a literal: itself, an escape of two characters, or an
escape of six for the control characters that have no letter. A literal is therefore read as its string, whatever
follows the closing quote.
-/

namespace Understudy

namespace Json

namespace Written

theorem unicodeEscape?_control {c : Char} (h : c.toNat < 32) (rest : List Char) :
    unicodeEscape? ('0' :: '0' :: Text.hexChar (c.toNat / 16) :: Text.hexChar c.toNat :: rest) =
      some (c, rest) := by
  have hdigits : ∀ n : Fin 32,
      Text.hexDigit? (Text.hexChar (n.val / 16)) = some (n.val / 16) ∧
        Text.hexDigit? (Text.hexChar n.val) = some (n.val % 16) := by decide
  obtain ⟨hhigh, hlow⟩ := hdigits ⟨c.toNat, h⟩
  have hzero : Text.hexDigit? '0' = some 0 := by decide
  have hvalue : ((0 * 16 + 0) * 16 + c.toNat / 16) * 16 + c.toNat % 16 = c.toNat := by omega
  unfold unicodeEscape? codeUnit?
  simp only [hzero, hhigh, hlow, hvalue]
  rw [if_neg (by omega), if_neg (by omega), Char.ofNat_toNat]

theorem stringBody_unicode {fuel : Nat} {done more rest : List Char} {c : Char}
    (h : unicodeEscape? more = some (c, rest)) :
    stringBody (fuel + 1) done ('\\' :: 'u' :: more) = stringBody fuel (c :: done) rest := by
  rw [stringBody, h]

theorem stringBody_plain {c : Char} (hquote : c ≠ '"') (hslash : c ≠ '\\') (hcontrol : 32 ≤ c.toNat)
    (fuel : Nat) (done rest : List Char) :
    stringBody (fuel + 1) done (c :: rest) = stringBody fuel (c :: done) rest := by
  rw [stringBody.eq_def]
  simp only
  split
  · rename_i h
    exact absurd h (by simp)
  · rename_i h
    exact absurd (List.cons.inj h).1 hquote
  · rename_i h
    exact absurd (List.cons.inj h).1 hslash
  · rename_i h
    obtain ⟨rfl, rfl⟩ := List.cons.inj h
    exact if_neg (not_or.2 ⟨hslash, by omega⟩)

theorem stringBody_escapeChar (fuel : Nat) (done : List Char) (c : Char) (rest : List Char) :
    stringBody (fuel + 1) done (escapeChar c ++ rest) = stringBody fuel (c :: done) rest := by
  unfold escapeChar
  split_ifs with hquote hslash hline hreturn htab hback hfeed hcontrol
  · subst hquote
    rfl
  · subst hslash
    rfl
  · subst hline
    rfl
  · subst hreturn
    rfl
  · subst htab
    rfl
  · obtain rfl : c = Char.ofNat 8 := by rw [← hback, Char.ofNat_toNat]
    rfl
  · obtain rfl : c = Char.ofNat 12 := by rw [← hfeed, Char.ofNat_toNat]
    rfl
  · exact stringBody_unicode (unicodeEscape?_control hcontrol rest)
  · exact stringBody_plain hquote hslash (by omega) fuel done rest

theorem length_escapeChar_pos (c : Char) : 0 < (escapeChar c).length := by
  unfold escapeChar
  split_ifs <;> simp

/-- One step for each character and one for the closing quote. -/
theorem stringBody_literal {fuel : Nat} {cs : List Char} (h : cs.length < fuel)
    (done rest : List Char) :
    stringBody fuel done (cs.flatMap escapeChar ++ '"' :: rest) =
      some (cs.reverse ++ done, rest) := by
  induction cs generalizing fuel done with
  | nil =>
      obtain ⟨fuel, rfl⟩ := Nat.exists_eq_add_of_lt h
      rfl
  | cons c cs ih =>
      obtain ⟨fuel, rfl⟩ := Nat.exists_eq_add_of_lt h
      rw [List.flatMap_cons, List.append_assoc, stringBody_escapeChar, ih (by simp; omega)]
      simp

/-- A literal is read as its string, once the opening quote has been read. -/
theorem string?_literal (s : String) (rest : List Char) :
    string? (s.toList.flatMap escapeChar ++ '"' :: rest) = some (s, rest) := by
  have hlength : ∀ cs : List Char, cs.length ≤ (cs.flatMap escapeChar).length := by
    intro cs
    induction cs with
    | nil => simp
    | cons c cs ih =>
        have hpos := length_escapeChar_pos c
        rw [List.flatMap_cons, List.length_append, List.length_cons]
        omega
  have hfuel : s.toList.length < (s.toList.flatMap escapeChar ++ '"' :: rest).length + 1 := by
    have hle := hlength s.toList
    rw [List.length_append]
    omega
  rw [string?, stringBody_literal hfuel]
  simp

end Written

theorem toList_literal (s : String) :
    (literal s).toList = '"' :: (s.toList.flatMap escapeChar ++ ['"']) := by
  simp [literal]

end Json

end Understudy
