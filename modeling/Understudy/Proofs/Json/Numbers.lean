import Mathlib.Data.List.TakeWhile
import Understudy.Proofs.Json.Free
import Understudy.Proofs.Number.Digits

/-!
# Numbers are read back

A number is read from the front of a text in the same way whatever follows it, as long as that cannot belong to the
number. Whole numbers are read back from their digits. A double need not be: its text is turned into a double with
roundings on the way.
-/

namespace Understudy

namespace Json

namespace Written

open Numeral

def EndsNumber (rest : List Char) : Prop :=
  ∀ c ∈ rest.head?, c.isDigit = false ∧ c ≠ '.' ∧ c ≠ 'e' ∧ c ≠ 'E'

theorem EndsNumber.endsDigits {rest : List Char} (h : EndsNumber rest) : EndsDigits rest :=
  fun c hc => (h c hc).1

def fraction? : List Char → Option (List Char × List Char)
  | '.' :: more =>
    let fraction := more.takeWhile Char.isDigit
    if fraction.isEmpty then none else some (fraction, more.dropWhile Char.isDigit)
  | rest => some ([], rest)

def exponent? : List Char → Option (Option Int × List Char)
  | c :: more =>
    if c = 'e' ∨ c = 'E' then
      let (below, digits) := Numeral.sign more
      let ds := digits.takeWhile Char.isDigit
      if ds.isEmpty then none
      else
        let e : Int := Numeral.ofDigits 0 ds
        some (some (if below then -e else e), digits.dropWhile Char.isDigit)
    else some (none, c :: more)
  | [] => some (none, [])

def magnitude? (negative : Bool) (cs : List Char) : Option (Option Number × List Char) :=
  let whole := cs.takeWhile Char.isDigit
  if whole.isEmpty || (whole.length != 1 && whole.head? == some '0') then none
  else
    (fraction? (cs.dropWhile Char.isDigit)).bind fun (fraction, rest) =>
      (exponent? rest).map fun (e, rest) => (numberOf negative whole fraction e, rest)

def minus : List Char → Bool × List Char
  | '-' :: rest => (true, rest)
  | cs => (false, cs)

theorem fraction?_of_ne {rest : List Char} (h : rest.head? ≠ some '.') :
    fraction? rest = some ([], rest) := by
  unfold fraction?
  split
  · exact absurd rfl h
  · rfl

theorem minus_of_ne {cs : List Char} (h : cs.head? ≠ some '-') : minus cs = (false, cs) := by
  unfold minus
  split
  · exact absurd rfl h
  · rfl

theorem number?_eq (cs : List Char) : number? cs = magnitude? (minus cs).1 (minus cs).2 := by
  unfold number?
  split
  rename_i negative cs' hsign
  have hminus : minus cs = (negative, cs') := by
    split at hsign
    · exact hsign
    · rename_i hother
      rw [minus_of_ne, hsign]
      intro hhead
      obtain ⟨rest, hrest⟩ := List.head?_eq_some_iff.1 hhead
      exact hother rest hrest
  rw [hminus]
  unfold magnitude?
  simp only
  split
  · rfl
  · split
    · rename_i hnone
      have hfraction : fraction? (cs'.dropWhile Char.isDigit) = none := by
        split at hnone
        · rename_i hpoint
          rw [hpoint]
          exact hnone
        · exact absurd hnone (by simp)
      rw [hfraction]
      rfl
    · rename_i fraction rest hsome
      have hfraction : fraction? (cs'.dropWhile Char.isDigit) = some (fraction, rest) := by
        split at hsome
        · rename_i hpoint
          rw [hpoint]
          exact hsome
        · rename_i hother
          rw [fraction?_of_ne, hsome]
          intro hhead
          obtain ⟨more, hmore⟩ := List.head?_eq_some_iff.1 hhead
          exact hother more hmore
      rw [hfraction, Option.bind_some]
      cases rest with
      | nil => rfl
      | cons c more =>
          rw [exponent?]
          by_cases hmark : c = 'e' ∨ c = 'E'
          · simp only [if_pos hmark]
            split <;> rfl
          · simp only [if_neg hmark]
            rfl

theorem fraction?_append {cs fraction more rest : List Char} (hrest : EndsNumber rest)
    (h : fraction? cs = some (fraction, more)) :
    fraction? (cs ++ rest) = some (fraction, more ++ rest) := by
  by_cases hpoint : cs.head? = some '.'
  · obtain ⟨tail, rfl⟩ := List.head?_eq_some_iff.1 hpoint
    rw [fraction?] at h
    rw [List.cons_append, fraction?]
    rw [takeWhile_isDigit hrest.endsDigits, dropWhile_isDigit hrest.endsDigits]
    split at h
    · exact absurd h (by simp)
    · rename_i hne
      rw [if_neg hne]
      obtain ⟨rfl, rfl⟩ := Prod.mk.inj (Option.some.inj h)
      rfl
  · rw [fraction?_of_ne hpoint] at h
    obtain ⟨rfl, rfl⟩ := Prod.mk.inj (Option.some.inj h)
    refine fraction?_of_ne fun hhead => ?_
    cases cs with
    | nil => exact (hrest '.' hhead).2.1 rfl
    | cons c cs => exact hpoint hhead

theorem sign_append {cs : List Char} (h : cs ≠ []) (rest : List Char) :
    sign (cs ++ rest) = ((sign cs).1, (sign cs).2 ++ rest) := by
  obtain ⟨c, cs, rfl⟩ := List.exists_cons_of_ne_nil h
  rw [List.cons_append]
  unfold sign
  split
  · rename_i heq
    obtain ⟨rfl, rfl⟩ := List.cons.inj heq
    rfl
  · rename_i heq
    obtain ⟨rfl, rfl⟩ := List.cons.inj heq
    rfl
  · rename_i hminus hplus
    split
    · rename_i heq
      obtain ⟨rfl, rfl⟩ := List.cons.inj heq
      exact absurd rfl (hminus (_ ++ rest))
    · rename_i heq
      obtain ⟨rfl, rfl⟩ := List.cons.inj heq
      exact absurd rfl (hplus (_ ++ rest))
    · rfl

theorem exponent?_append {cs more rest : List Char} {e : Option Int} (hrest : EndsNumber rest)
    (h : exponent? cs = some (e, more)) : exponent? (cs ++ rest) = some (e, more ++ rest) := by
  cases cs with
  | nil =>
      obtain ⟨rfl, rfl⟩ := Prod.mk.inj (Option.some.inj h)
      cases rest with
      | nil => rfl
      | cons c rest =>
          obtain ⟨-, -, hsmall, hcapital⟩ := hrest c rfl
          rw [List.nil_append, exponent?, if_neg (not_or.2 ⟨hsmall, hcapital⟩)]
  | cons c cs =>
      rw [exponent?] at h
      rw [List.cons_append, exponent?]
      split at h
      · rename_i hmark
        rw [if_pos hmark]
        have hne : cs ≠ [] := by
          rintro rfl
          exact absurd h (by simp [sign])
        simp only at h ⊢
        rw [sign_append hne, takeWhile_isDigit hrest.endsDigits, dropWhile_isDigit hrest.endsDigits]
        split at h
        · exact absurd h (by simp)
        · rename_i hdigits
          rw [if_neg hdigits]
          obtain ⟨rfl, rfl⟩ := Prod.mk.inj (Option.some.inj h)
          rfl
      · rename_i hmark
        rw [if_neg hmark]
        obtain ⟨rfl, rfl⟩ := Prod.mk.inj (Option.some.inj h)
        rfl

theorem magnitude?_append {negative : Bool} {cs more rest : List Char} {n : Option Number}
    (hrest : EndsNumber rest) (h : magnitude? negative cs = some (n, more)) :
    magnitude? negative (cs ++ rest) = some (n, more ++ rest) := by
  unfold magnitude? at h ⊢
  simp only at h ⊢
  rw [takeWhile_isDigit hrest.endsDigits, dropWhile_isDigit hrest.endsDigits]
  split at h
  · exact absurd h (by simp)
  · rename_i hwhole
    rw [if_neg hwhole]
    obtain ⟨⟨fraction, tail⟩, hfraction, h⟩ := Option.bind_eq_some_iff.1 h
    obtain ⟨⟨e, last⟩, he, h⟩ := Option.map_eq_some_iff.1 h
    obtain ⟨rfl, rfl⟩ := Prod.mk.inj h
    rw [fraction?_append hrest hfraction, Option.bind_some, exponent?_append hrest he]
    rfl

/-- A number is read in the same way whatever follows it. -/
theorem number?_append {cs more rest : List Char} {n : Option Number} (hrest : EndsNumber rest)
    (h : number? cs = some (n, more)) : number? (cs ++ rest) = some (n, more ++ rest) := by
  rw [number?_eq] at h ⊢
  cases cs with
  | nil => exact absurd h (by simp [minus, magnitude?])
  | cons c cs =>
      by_cases hc : c = '-'
      · subst hc
        exact magnitude?_append hrest h
      · have hne : ∀ cs : List Char, (c :: cs).head? ≠ some '-' := by simpa using hc
        rw [minus_of_ne (hne _)] at h
        rw [List.cons_append, minus_of_ne (hne _)]
        exact magnitude?_append hrest h

theorem exists_cons_of_number? {cs more : List Char} {n : Option Number}
    (h : number? cs = some (n, more)) : ∃ c tail, cs = c :: tail ∧ (c = '-' ∨ c.isDigit = true) := by
  rw [number?_eq] at h
  cases cs with
  | nil => exact absurd h (by simp [minus, magnitude?])
  | cons c tail =>
      refine ⟨c, tail, rfl, or_iff_not_imp_left.2 fun hc => ?_⟩
      have hne : (c :: tail).head? ≠ some '-' := by simpa using hc
      rw [minus_of_ne hne] at h
      cases hdigit : c.isDigit with
      | false => exact absurd h (by simp [magnitude?, hdigit])
      | true => rfl

/-- The digits of a number are read to the end. -/
theorem magnitude?_toDigits (negative : Bool) (k : Nat) :
    magnitude? negative (Nat.toDigits 10 k) =
      some (numberOf negative (Nat.toDigits 10 k) [] none, []) := by
  have hall : ∀ c ∈ Nat.toDigits 10 k, c.isDigit = true := fun c hc => isDigit_of_mem_toDigits hc
  have htake : (Nat.toDigits 10 k).takeWhile Char.isDigit = Nat.toDigits 10 k :=
    List.takeWhile_eq_self_iff.2 hall
  have hdrop : (Nat.toDigits 10 k).dropWhile Char.isDigit = [] :=
    List.dropWhile_eq_nil_iff.2 hall
  have hwhole : ((Nat.toDigits 10 k).isEmpty ||
      ((Nat.toDigits 10 k).length != 1 && (Nat.toDigits 10 k).head? == some '0')) = false := by
    rw [Bool.or_eq_false_iff, Bool.and_eq_false_iff]
    refine ⟨by simp, ?_⟩
    by_cases hzero : k = 0
    · subst hzero
      exact Or.inl (by decide)
    · exact Or.inr (by simpa using fun h => hzero (head?_toDigits k h))
  unfold magnitude?
  simp only [htake, hdrop, hwhole]
  rfl

/-- A whole number of 64 bits is read back from its digits. -/
theorem number?_whole {n : Int} (h : Number.InRange (.whole n)) :
    number? (Number.whole n).text.toList = some (some (.whole n), []) := by
  obtain ⟨hlow, hhigh⟩ := h
  cases n with
  | ofNat k =>
      have htext : (Number.whole (.ofNat k)).text.toList = Nat.toDigits 10 k := String.toList_ofList
      have hhead : (Nat.toDigits 10 k).head? ≠ some '-' := by
        intro hminus
        exact absurd (isDigit_of_mem_toDigits (List.mem_of_mem_head? hminus)) (by decide)
      have hlt : k < 0x10000000000000000 := by
        rw [Int.ofNat_eq_natCast] at hhigh
        omega
      rw [htext, number?_eq, minus_of_ne hhead, magnitude?_toDigits, numberOf, ofDigits_toDigits]
      simp [hlt]
  | negSucc k =>
      have htext : (Number.whole (.negSucc k)).text.toList = '-' :: Nat.toDigits 10 (k + 1) := by
        rw [Number.text]
        simp [toString, Int.repr, Nat.repr]
      have hle : k + 1 ≤ 0x8000000000000000 := by omega
      rw [htext, number?_eq, minus, magnitude?_toDigits, numberOf, ofDigits_toDigits]
      simp [hle, Int.negSucc_eq]

end Written

end Json

end Understudy
