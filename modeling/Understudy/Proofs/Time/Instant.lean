import Mathlib.Data.List.TakeWhile
import Mathlib.Data.Nat.Digits.Defs
import Understudy.Proofs.Number.Digits
import Understudy.Proofs.Time.Calendar
import Understudy.Time.Instant

/-!
# Instants are read back

The text of an instant of a clock is read as this instant: each number is read from the digits that it is padded to, and
a leap second from the sixtieth second.
-/

namespace Understudy

namespace Instant

open Numeral

/-- The instant is one that a clock can show: a leap second lies at the end of a minute. -/
structure IsClock (t : Instant) : Prop where
  year : hasYear (Date.ofDays (t.seconds / 86400)).year = true
  nanoseconds : t.nanoseconds < 1000000000 ∨ t.nanoseconds < 2000000000 ∧ t.seconds % 60 = 59

theorem skip_of_isDigit {c : Char} (h : c.isDigit = true) (cs : List Char) :
    skip (c :: cs) = c :: cs := by
  have hblank : Text.isBlank c = false := by
    have hrange : 48 ≤ c.toNat ∧ c.toNat ≤ 57 := by
      simpa [Char.isDigit, UInt32.le_iff_toNat_le] using h
    simp only [Text.isBlank, Bool.or_eq_false_iff, Bool.and_eq_false_iff, decide_eq_false_iff_not,
      beq_eq_false_iff_ne]
    omega
  simp [skip, Text.trimLeft, hblank]

/-- A number is read from a run of digits that is as long as it may be, or that something else ends. -/
theorem number_eq {width : ℕ} {ds rest : List Char} (hne : ds ≠ [])
    (hds : ∀ d ∈ ds, d.isDigit = true) (hwidth : ds.length ≤ width)
    (hend : ds.length = width ∨ EndsDigits rest) :
    number width (ds ++ rest) = some (ofDigits 0 ds, rest) := by
  have hskip : skip (ds ++ rest) = ds ++ rest := by
    obtain ⟨d, ds, rfl⟩ := List.exists_cons_of_ne_nil hne
    exact skip_of_isDigit (hds d List.mem_cons_self) (ds ++ rest)
  have htake : ((ds ++ rest).take width).takeWhile Char.isDigit = ds := by
    rw [List.take_append, List.take_of_length_le hwidth, List.takeWhile_append_of_pos hds]
    rcases hend with hfull | hend
    · simp [hfull]
    · cases rest with
      | nil => simp
      | cons c rest =>
          cases width - ds.length with
          | zero => simp
          | succ k => simp [hend c rfl]
  unfold number
  simp only [hskip, htake]
  rw [if_neg (by simpa using hne)]
  simp

structure Digits (n : ℕ) (ds : List Char) : Prop where
  ne_nil : ds ≠ []
  isDigit : ∀ d ∈ ds, d.isDigit = true
  value : ofDigits 0 ds = n

theorem digits_padded (width n : ℕ) : Digits n (padded width n).toList where
  ne_nil := by
    rw [padded, String.toList_ofList]
    exact List.append_ne_nil_of_right_ne_nil _ Nat.toDigits_ne_nil
  isDigit := by
    intro d hd
    rw [padded, String.toList_ofList] at hd
    rcases List.mem_append.1 hd with hd | hd
    · rw [List.eq_of_mem_replicate hd]
      decide
    · exact isDigit_of_mem_toDigits hd
  value := by
    rw [padded, String.toList_ofList, ofDigits_append, ofDigits_replicate, ofDigits_toDigits]

theorem length_padded {width n : ℕ} (hwidth : 0 < width) (h : n < 10 ^ width) :
    (padded width n).toList.length = width := by
  have hlength : (Nat.toDigits 10 n).length ≤ width := Nat.toDigits_length 10 n width hwidth h
  rw [padded, String.toList_ofList, List.length_append, List.length_replicate]
  omega

theorem number_padded {width n : ℕ} (hwidth : 0 < width) (h : n < 10 ^ width) (rest : List Char) :
    number width ((padded width n).toList ++ rest) = some (n, rest) := by
  have hdigits := digits_padded width n
  have hlength := length_padded hwidth h
  rw [number_eq hdigits.ne_nil hdigits.isDigit hlength.le (Or.inl hlength), hdigits.value]

theorem endsDigits_cons {c : Char} (h : c.isDigit = false) (rest : List Char) :
    EndsDigits (c :: rest) := by
  intro d hd
  obtain rfl := Option.some.inj hd
  exact h

theorem number_signed (n : ℕ) (rest : List Char) :
    number ((padded 4 n).toList ++ '-' :: rest).length ((padded 4 n).toList ++ '-' :: rest) =
      some (n, '-' :: rest) := by
  have hdigits := digits_padded 4 n
  have hle : (padded 4 n).toList.length ≤ ((padded 4 n).toList ++ '-' :: rest).length := by
    rw [List.length_append]
    omega
  rw [number_eq hdigits.ne_nil hdigits.isDigit hle (Or.inr (endsDigits_cons (by decide) rest)),
    hdigits.value]

theorem head?_padded (width n : ℕ) (rest : List Char) :
    ((padded width n).toList ++ rest).head?.any Char.isDigit = true := by
  have hdigits := digits_padded width n
  obtain ⟨d, ds, hds⟩ := List.exists_cons_of_ne_nil hdigits.ne_nil
  rw [hds]
  exact hdigits.isDigit d (by rw [hds]; exact List.mem_cons_self)

theorem year_yearText (y : ℤ) (rest : List Char) :
    year ((yearText y).toList ++ '-' :: rest) = some (y, '-' :: rest) := by
  unfold yearText
  split
  · -- four digits have no sign, and no more than four are read
    rename_i hshort
    have hdigits := digits_padded 4 y.toNat
    obtain ⟨d, ds, hds⟩ := List.exists_cons_of_ne_nil hdigits.ne_nil
    have hd : d.isDigit = true := hdigits.isDigit d (by rw [hds]; exact List.mem_cons_self)
    have hread : number 4 ((padded 4 y.toNat).toList ++ '-' :: rest) =
        some (y.toNat, '-' :: rest) := number_padded (by decide) (by omega) _
    rw [hds, List.cons_append] at hread ⊢
    rw [year, skip_of_isDigit hd]
    split
    · rename_i heq
      rw [(List.cons.inj heq).1] at hd
      exact absurd hd (by decide)
    · rename_i heq
      rw [(List.cons.inj heq).1] at hd
      exact absurd hd (by decide)
    · rw [hread, Option.map_some]
      simp [hshort.1]
  · -- behind a sign all digits are read
    have hskip (c : Char) (hc : Text.isBlank c = false) (cs : List Char) :
        skip (c :: cs) = c :: cs := by simp [skip, Text.trimLeft, hc]
    by_cases hneg : y < 0
    · have hvalue : -(y.natAbs : ℤ) = y := by omega
      rw [if_pos hneg, String.toList_append, List.append_assoc]
      change year ('-' :: ((padded 4 y.natAbs).toList ++ '-' :: rest)) = _
      rw [year, hskip '-' (by decide)]
      simp only [head?_padded, number_signed, if_true, Option.map_some, hvalue]
    · have hvalue : (y.natAbs : ℤ) = y := by omega
      rw [if_neg hneg, String.toList_append, List.append_assoc]
      change year ('+' :: ((padded 4 y.natAbs).toList ++ '-' :: rest)) = _
      rw [year, hskip '+' (by decide)]
      simp only [head?_padded, number_signed, if_true, Option.map_some, hvalue]

theorem fractionPart_digits {ds : List Char} {n : ℕ} (h : Digits n ds) (hlength : ds.length ≤ 9)
    {rest : List Char} (hrest : EndsDigits rest) :
    fractionPart ('.' :: (ds ++ rest)) = some (n * 10 ^ (9 - ds.length), rest) := by
  have htake : (ds ++ rest).takeWhile Char.isDigit = ds := by
    rw [takeWhile_isDigit hrest]
    exact List.takeWhile_eq_self_iff.2 h.isDigit
  unfold fractionPart
  simp only [htake]
  rw [if_neg (by simpa using h.ne_nil), List.take_of_length_le hlength, h.value]
  simp

theorem fractionPart_fraction {n : ℕ} (h : n < 1000000000) {rest : List Char}
    (hrest : EndsDigits rest) (hpoint : rest.head? ≠ some '.') :
    fractionPart ((fraction n).toList ++ rest) = some (n, rest) := by
  have hpadded {width k : ℕ} (hwidth : 0 < width) (hle : width ≤ 9) (hk : k < 10 ^ width) :
      fractionPart (("." ++ padded width k).toList ++ rest) = some (k * 10 ^ (9 - width), rest) := by
    have hlength := length_padded hwidth hk
    rw [String.toList_append, List.append_assoc]
    change fractionPart ('.' :: ((padded width k).toList ++ rest)) = _
    rw [fractionPart_digits (digits_padded width k) (by omega) hrest, hlength]
  unfold fraction
  split_ifs with hzero hthousands hunits
  · subst hzero
    unfold fractionPart
    split
    · rename_i more heq
      have hrest : rest = '.' :: more := heq
      exact absurd (by rw [hrest]; rfl) hpoint
    · rfl
  · rw [hpadded (by decide) (by decide) (by omega)]
    congr 2
    omega
  · rw [hpadded (by decide) (by decide) (by omega)]
    congr 2
    omega
  · rw [hpadded (by decide) (by decide) (by omega)]
    congr 2
    omega

theorem toList_text (t : Instant) :
    t.text.toList =
      (yearText (Date.ofDays (t.seconds / 86400)).year).toList ++ '-' ::
        ((padded 2 (Date.ofDays (t.seconds / 86400)).month).toList ++ '-' ::
          ((padded 2 (Date.ofDays (t.seconds / 86400)).day).toList ++ 'T' ::
            ((padded 2 ((t.seconds % 86400).toNat / 3600)).toList ++ ':' ::
              ((padded 2 ((t.seconds % 86400).toNat / 60 % 60)).toList ++ ':' ::
                ((padded 2 ((t.seconds % 86400).toNat % 60 + t.nanoseconds / 1000000000)).toList ++
                  ((fraction (t.nanoseconds % 1000000000)).toList ++ ['Z'])))))) := by
  simp [text, toString]

theorem sign_cons {c : Char} (h : Text.isBlank c = false) (rest : List Char) :
    sign c (c :: rest) = some rest := by
  simp [sign, skip, Text.trimLeft, h]

theorem eq_of_parts {a b : Instant} (hseconds : a.seconds = b.seconds)
    (hnanoseconds : a.nanoseconds = b.nanoseconds) : a = b := by
  cases a
  cases b
  simp_all

/-- The text of an instant of a clock is read as this instant. -/
theorem parse?_text {t : Instant} (h : t.IsClock) : parse? t.text = some t := by
  have hdays := Date.toDays_ofDays (t.seconds / 86400)
  have hvalid := Date.isValid_ofDays (t.seconds / 86400)
  have hyear := h.year
  have hdate : (Date.ofDays (t.seconds / 86400)).month < 10 ^ 2 ∧
      (Date.ofDays (t.seconds / 86400)).day < 10 ^ 2 := Date.two_digits hvalid
  have hnano := h.nanoseconds
  have hhour : (t.seconds % 86400).toNat / 3600 < 24 := by omega
  have hminute : (t.seconds % 86400).toNat / 60 % 60 < 60 := by omega
  have hsecond : (t.seconds % 86400).toNat % 60 + t.nanoseconds / 1000000000 < 61 := by omega
  have hstep {α β : Type} {x : Option α} {a : α} {f : α → Option β} {b : β} (hx : x = some a)
      (hf : f a = some b) : x.bind f = some b := by rw [hx, Option.bind_some, hf]
  unfold parse?
  rw [toList_text]
  generalize Date.ofDays (t.seconds / 86400) = date at *
  -- the parts in the order in which they are written
  refine hstep (year_yearText _ _) ?_
  refine hstep (sign_cons (by decide) _) ?_
  refine hstep (number_padded (by decide) hdate.1 _) ?_
  refine hstep (sign_cons (by decide) _) ?_
  refine hstep (number_padded (by decide) hdate.2 _) ?_
  dsimp only
  rw [if_pos (Or.inl rfl)]
  refine hstep rfl ?_
  refine hstep (number_padded (by decide) (hhour.trans (by decide)) _) ?_
  refine hstep (sign_cons (by decide) _) ?_
  refine hstep (number_padded (by decide) (hminute.trans (by decide)) _) ?_
  refine hstep (sign_cons (by decide) _) ?_
  refine hstep (number_padded (by decide) (hsecond.trans (by decide)) _) ?_
  refine hstep (fractionPart_fraction (by omega) (endsDigits_cons (by decide) []) (by decide)) ?_
  have hoffset : offset (skip ['Z']) = some (0, []) := by decide
  refine hstep hoffset ?_
  dsimp only
  rw [if_neg]
  · refine congrArg some (eq_of_parts ?_ ?_)
    · simp only [hdays]
      split <;> omega
    · simp only
      split <;> omega
  · simp [skip, Text.trimLeft, hvalid, hyear]
    omega

end Instant

end Understudy
