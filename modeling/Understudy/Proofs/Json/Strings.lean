import Understudy.Json.Written
import Understudy.Text.LetterCase

/-!
# A string and the text that stands for it

The JSON text of a string is longer than the string: it has two quotes more, and no escape is shorter than what it
stands for. That holds for small letters too, although a dotted capital I becomes two characters, because it is never
written with fewer. So no string is the same as its own JSON text, with or without regard to case.
-/

namespace Understudy

namespace Text

def smallWidth (c : Char) : Nat := if c.toNat = 0x130 then 2 else 1

def smallLength : List Char → Nat
  | [] => 0
  | c :: cs => smallWidth c + smallLength cs

@[simp] theorem smallLength_nil : smallLength [] = 0 := rfl

@[simp] theorem smallLength_cons (c : Char) (cs : List Char) :
    smallLength (c :: cs) = smallWidth c + smallLength cs := rfl

theorem smallLength_append (a b : List Char) :
    smallLength (a ++ b) = smallLength a + smallLength b := by
  induction a with
  | nil => rw [List.nil_append, smallLength_nil, Nat.zero_add]
  | cons c a ih => rw [List.cons_append, smallLength_cons, ih, smallLength_cons, Nat.add_assoc]

theorem smallLength_reverse (cs : List Char) : smallLength cs.reverse = smallLength cs := by
  induction cs with
  | nil => rfl
  | cons c cs ih =>
      rw [List.reverse_cons, smallLength_append, ih, smallLength_cons, smallLength_nil,
        smallLength_cons, Nat.add_zero, Nat.add_comm]

theorem one_le_smallWidth (c : Char) : 1 ≤ smallWidth c := by
  unfold smallWidth
  split <;> omega

theorem smallWidth_le_two (c : Char) : smallWidth c ≤ 2 := by
  unfold smallWidth
  split <;> omega

theorem length_lowercaseChar (c : Char) : (lowercaseChar c).length = smallWidth c := by
  unfold lowercaseChar smallWidth
  split
  · rw [if_neg (by omega)]
    rfl
  · split
    · rfl
    · split <;> rfl

theorem length_lowercaseFrom (before cs : List Char) :
    (lowercaseFrom before cs).length = smallLength cs := by
  induction cs generalizing before with
  | nil => rfl
  | cons c cs ih =>
      rw [lowercaseFrom, smallLength_cons]
      simp only [List.length_append, ih]
      split
      · rename_i hsigma
        have hwidth : smallWidth c = 1 := by
          rw [smallWidth, if_neg (by omega)]
        rw [hwidth]
        rfl
      · rw [length_lowercaseChar]

theorem length_lowercase (s : String) : (lowercase s).toList.length = smallLength s.toList := by
  rw [lowercase, String.toList_ofList, length_lowercaseFrom]

end Text

namespace Json

open Text

namespace Written

theorem smallLength_skip (cs : List Char) : smallLength (skip cs) ≤ smallLength cs := by
  induction cs with
  | nil => exact Nat.le_refl _
  | cons c cs ih =>
      rw [skip, List.dropWhile_cons]
      split
      · rw [smallLength_cons]
        exact Nat.le_trans ih (Nat.le_add_left _ _)
      · exact Nat.le_refl _

theorem smallLength_codeUnit? {cs rest : List Char} {n : Nat} (h : codeUnit? cs = some (n, rest)) :
    smallLength rest + 4 ≤ smallLength cs := by
  unfold codeUnit? at h
  split at h
  · rename_i a b c d more
    split at h
    · obtain ⟨-, rfl⟩ := Prod.mk.inj (Option.some.inj h)
      have ha := one_le_smallWidth a
      have hb := one_le_smallWidth b
      have hc := one_le_smallWidth c
      have hd := one_le_smallWidth d
      simp only [smallLength_cons]
      omega
    · exact absurd h (by simp)
  · exact absurd h (by simp)

theorem smallLength_unicodeEscape? {cs rest : List Char} {c : Char}
    (h : unicodeEscape? cs = some (c, rest)) : smallLength rest + 4 ≤ smallLength cs := by
  unfold unicodeEscape? at h
  split at h
  · exact absurd h (by simp)
  · rename_i n more hunit
    have hfirst := smallLength_codeUnit? hunit
    split at h
    · exact absurd h (by simp)
    · split at h
      · split at h
        · rename_i tail
          split at h
          · exact absurd h (by simp)
          · rename_i low last hlow
            have hsecond := smallLength_codeUnit? hlow
            split at h
            · obtain ⟨-, rfl⟩ := Prod.mk.inj (Option.some.inj h)
              simp only [smallLength_cons] at hfirst
              omega
            · exact absurd h (by simp)
        · exact absurd h (by simp)
      · obtain ⟨-, rfl⟩ := Prod.mk.inj (Option.some.inj h)
        exact hfirst

/-- An escape is not shorter than the character that it stands for. -/
theorem le_smallLength_escape {n : Nat} {c e : Char} {done more : List Char}
    (h : n ≤ smallLength (c :: done) + smallLength more) :
    n ≤ smallLength done + smallLength ('\\' :: e :: more) := by
  have hc := smallWidth_le_two c
  have hslash := one_le_smallWidth '\\'
  have he := one_le_smallWidth e
  simp only [smallLength_cons] at *
  omega

theorem smallLength_stringBody {fuel : Nat} {done cs out rest : List Char}
    (h : stringBody fuel done cs = some (out, rest)) :
    smallLength out + smallLength rest + 1 ≤ smallLength done + smallLength cs := by
  fun_induction stringBody fuel done cs with
  | case1 | case2 | case13 | case14 | case15 => exact absurd h (by simp)
  | case3 fuel done more =>
      obtain ⟨rfl, rfl⟩ := Prod.mk.inj (Option.some.inj h)
      have hquote := one_le_smallWidth '"'
      simp only [smallLength_cons]
      omega
  | case4 fuel done more ih | case5 fuel done more ih | case6 fuel done more ih
  | case7 fuel done more ih | case8 fuel done more ih | case9 fuel done more ih
  | case10 fuel done more ih | case11 fuel done more ih => exact le_smallLength_escape (ih h)
  | case12 fuel done more c tail hescape ih =>
      have hmore := smallLength_unicodeEscape? hescape
      have hle : smallLength out + smallLength rest + 1 ≤
          smallLength done + smallLength ('\\' :: 'u' :: tail) := le_smallLength_escape (ih h)
      simp only [smallLength_cons] at hle ⊢
      omega
  | case16 fuel done c more hquote hslash hplain ih =>
      have hmore := ih h
      simp only [smallLength_cons] at *
      omega

theorem smallLength_string? {cs rest : List Char} {t : String} (h : string? cs = some (t, rest)) :
    smallLength t.toList + smallLength rest + 1 ≤ smallLength cs := by
  unfold string? at h
  obtain ⟨⟨out, more⟩, hbody, heq⟩ := Option.map_eq_some_iff.1 h
  obtain ⟨rfl, rfl⟩ := Prod.mk.inj heq
  have hle := smallLength_stringBody hbody
  rw [smallLength_nil] at hle
  rw [String.toList_ofList, smallLength_reverse]
  omega

theorem word_ne_string {expected : String} {v : Written} {cs rest : List Char} {t : String}
    (hv : v ≠ .string t) : word expected v cs ≠ (.string t, rest) := by
  unfold word
  simp only
  split
  · exact fun h => hv (Prod.mk.inj h).1
  · simp

theorem smallLength_value {fuel : Nat} {cs rest : List Char} {t : String}
    (h : value fuel cs = (.string t, rest)) : smallLength t.toList < smallLength cs := by
  cases fuel with
  | zero => exact absurd h (by simp [value])
  | succ fuel =>
      rw [value] at h
      split at h
      · exact absurd h (by simp)
      · split at h <;> exact absurd h (by simp)
      · split at h <;> exact absurd h (by simp)
      · rename_i more hmore
        split at h
        · rename_i s tail hstring
          obtain ⟨hs, rfl⟩ := Prod.mk.inj h
          obtain rfl := Written.string.inj hs
          have hlength := smallLength_string? hstring
          have hskip := smallLength_skip cs
          rw [hmore, smallLength_cons] at hskip
          omega
        · exact absurd h (by simp)
      · exact absurd h (word_ne_string (by simp))
      · exact absurd h (word_ne_string (by simp))
      · exact absurd h (word_ne_string (by simp))
      · split at h <;> exact absurd h (by simp)

theorem eq_string_of_toJson? {depth : Nat} {v : Written} {t : String}
    (h : v.toJson? depth = some (.string t)) : v = .string t := by
  cases v with
  | string s => simpa [toJson?] using h
  | null => simp [toJson?] at h
  | bool b => simp [toJson?] at h
  | number n => simp [toJson?] at h
  | array vs => cases depth <;> simp [toJson?] at h
  | object ms => cases depth <;> simp [toJson?, Json.ofMembers] at h
  | fault => simp [toJson?] at h

end Written

/-- A text that reads as a string is longer than this string, and so are their small forms. -/
theorem lowercase_ne_of_parse? {s t : String} (h : parse? s = some (.string t)) :
    Text.lowercase t ≠ Text.lowercase s := by
  have hlt : smallLength t.toList < smallLength s.toList := by
    unfold parse? at h
    simp only at h
    split at h
    · have hvalue : (Written.value (s.toList.length + 1) s.toList).1 = .string t :=
        Written.eq_string_of_toJson? h
      exact Written.smallLength_value (Prod.ext hvalue rfl)
    · exact absurd h (by simp)
  intro heq
  have hlength := congrArg (fun s : String => s.toList.length) heq
  simp only [length_lowercase] at hlength
  omega

end Json

end Understudy
