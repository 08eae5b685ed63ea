import Understudy.Number.Numeral
import Understudy.Proofs.Text.Ascii

/-!
# What a numeral is written for

`Numeral.Writes` tells the numerals of a number, with zeros in front or without, and a plus sign or none. Reading a
numeral up to a bound finds its number (`atMost?_eq_some`), and changing the letters of a text to small ones does not
matter for it.
-/

namespace Understudy

namespace Numeral

/-- The text is written for a number: ASCII digits, with a plus sign in front or without. -/
def Writes (s : String) (n : Nat) : Prop :=
  ∃ digits, (s.toList = digits ∨ s.toList = '+' :: digits) ∧
    digits ≠ [] ∧ (∀ c ∈ digits, c.isDigit = true) ∧ ofDigits 0 digits = n

variable {s : String} {n : Nat}

theorem nat?_eq_some {cs : List Char} :
    nat? cs = some n ↔ cs ≠ [] ∧ (∀ c ∈ cs, c.isDigit = true) ∧ ofDigits 0 cs = n := by
  simp [nat?, and_assoc]

/-- Reading a numeral up to a bound finds the number that it is written for. -/
theorem atMost?_eq_some {max : Nat} : atMost? max s = some n ↔ Writes s n ∧ n ≤ max := by
  have hplus : ('+' : Char).isDigit = false := rfl
  unfold atMost? Writes
  rw [Option.filter_eq_some_iff, decide_eq_true_iff]
  refine and_congr_left fun _ => ?_
  split
  · rename_i digits hs
    rw [nat?_eq_some, hs]
    constructor
    · exact fun h => ⟨digits, Or.inr rfl, h⟩
    · rintro ⟨_, rfl | hdigits, hne, hall, hvalue⟩
      · exact absurd (hall '+' List.mem_cons_self) (by simp [hplus])
      · obtain rfl := (List.cons.inj hdigits).2
        exact ⟨hne, hall, hvalue⟩
  · rename_i hs
    rw [nat?_eq_some]
    constructor
    · exact fun h => ⟨s.toList, Or.inl rfl, h⟩
    · rintro ⟨digits, rfl | hdigits, h⟩
      · exact h
      · exact absurd hdigits (hs digits)

/-- Numerals between two bounds, of which the reader allows the upper one. -/
theorem filter_atMost?_eq_some {max low high : Nat} (h : high ≤ max) :
    (atMost? max s).filter (fun n => low ≤ n && n ≤ high) = some n ↔
      Writes s n ∧ low ≤ n ∧ n ≤ high := by
  rw [Option.filter_eq_some_iff, atMost?_eq_some, Bool.and_eq_true, decide_eq_true_iff,
    decide_eq_true_iff]
  exact ⟨fun hn => ⟨hn.1.1, hn.2⟩, fun hn => ⟨⟨hn.1, Nat.le_trans hn.2.2 h⟩, hn.2⟩⟩

theorem Writes.mem_cases (h : Writes s n) {c : Char} (hc : c ∈ s.toList) :
    c.isDigit = true ∨ c = '+' := by
  obtain ⟨digits, hs | hs, -, hall, -⟩ := h
  · exact Or.inl (hall c (hs ▸ hc))
  · rw [hs] at hc
    exact (List.mem_cons.1 hc).symm.imp_left (hall c)

theorem writes_lower : Writes (Text.lower s) n ↔ Writes s n := by
  have hsame {cs digits : List Char} (hdigits : ∀ c ∈ digits, c.isDigit = true) :
      cs.map Char.toLower = digits ↔ cs = digits := by
    have hself {c : Char} (hc : c.isDigit = true) : c.toLower = c := by
      rw [Text.isDigit_iff] at hc
      exact Text.toLower_eq_self.2 (by omega)
    constructor
    · rintro rfl
      refine (List.map_congr_left fun c hc => ?_).trans (List.map_id cs) |>.symm
      have hdigit := hdigits _ (List.mem_map_of_mem hc)
      rw [Text.isDigit_toLower] at hdigit
      exact hself hdigit
    · rintro rfl
      exact (List.map_congr_left fun c hc => hself (hdigits c hc)).trans (List.map_id cs)
  have hsign {cs digits : List Char} (hdigits : ∀ c ∈ digits, c.isDigit = true) :
      cs.map Char.toLower = '+' :: digits ↔ cs = '+' :: digits := by
    cases cs with
    | nil => simp
    | cons c cs => rw [List.map_cons, List.cons.injEq, List.cons.injEq, hsame hdigits,
        Text.toLower_eq_iff (by decide)]
  unfold Writes
  rw [Text.lower, String.toList_ofList]
  refine exists_congr fun digits => ?_
  constructor
  · rintro ⟨hs, hne, hall, hvalue⟩
    rw [hsame hall, hsign hall] at hs
    exact ⟨hs, hne, hall, hvalue⟩
  · rintro ⟨hs, hne, hall, hvalue⟩
    rw [← hsame hall, ← hsign hall] at hs
    exact ⟨hs, hne, hall, hvalue⟩

end Numeral

end Understudy
