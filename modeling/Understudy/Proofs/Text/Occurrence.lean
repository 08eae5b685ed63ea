import Mathlib.Data.Finset.Insert
import Understudy.Text.Cut

/-!
# The places at which a text is replaced

Of the places at which something stands, `IsLeftmost` tells those that are picked from the left: no two of them overlap,
and one that is not picked overlaps an earlier one that is. There is one such choice (`exists_isLeftmost`,
`IsLeftmost.eq`). `replaceWhere` goes through a text once and keeps nothing but the number of characters that the last
place still covers; what it writes is the text with the new one put at these places (`replaceWhere_eq_putAt`).
-/

namespace Understudy

namespace Text

/-! ### Places picked from the left -/

/-- The place is inside of a stretch of the given length that starts at one of the places. -/
def Covered (places : Finset Nat) (length i : Nat) : Prop :=
  ∃ p ∈ places, p ≤ i ∧ i < p + length

instance (places : Finset Nat) (length i : Nat) : Decidable (Covered places length i) :=
  inferInstanceAs (Decidable (∃ p ∈ places, p ≤ i ∧ i < p + length))

/-- The choice from the left among the places at which something of the given length stands. -/
structure IsLeftmost (occurs : Nat → Prop) (length : Nat) (places : Finset Nat) : Prop where
  stands : ∀ p ∈ places, occurs p
  apart : ∀ p ∈ places, ∀ q ∈ places, p < q → p + length ≤ q
  covered : ∀ q, occurs q → Covered places length q

variable {occurs : Nat → Prop} {length : Nat} {places places' : Finset Nat}

/-- A place of one choice is a place of the other when all before it are. -/
theorem IsLeftmost.mem_of_mem (h : IsLeftmost occurs length places)
    (h' : IsLeftmost occurs length places') {p : Nat} (hp : p ∈ places)
    (hbefore : ∀ q < p, q ∈ places' → q ∈ places) : p ∈ places' := by
  obtain ⟨q, hq, hle, hlt⟩ := h'.covered p (h.stands p hp)
  rcases hle.eq_or_lt with rfl | hqp
  · exact hq
  · have := h.apart q (hbefore q hqp hq) p hp hqp
    omega

theorem IsLeftmost.eq (h : IsLeftmost occurs length places) (h' : IsLeftmost occurs length places') :
    places = places' := by
  ext p
  induction p using Nat.strong_induction_on with
  | _ p ih =>
      exact ⟨fun hp => h.mem_of_mem h' hp fun q hq => (ih q hq).2,
        fun hp => h'.mem_of_mem h hp fun q hq => (ih q hq).1⟩

/-- A place that no earlier one covers is picked. -/
theorem IsLeftmost.insert {n : Nat} (hlength : 0 < length)
    (h : IsLeftmost (fun q => q < n ∧ occurs q) length places) (hn : occurs n)
    (hfree : ¬ Covered places length n) :
    IsLeftmost (fun q => q < n + 1 ∧ occurs q) length (insert n places) where
  stands p hp := by
    rcases Finset.mem_insert.1 hp with rfl | hp
    · exact ⟨p.lt_succ_self, hn⟩
    · exact (h.stands p hp).imp_left Nat.lt_succ_of_lt
  apart p hp q hq hpq := by
    rcases Finset.mem_insert.1 hp with rfl | hold
    · rcases Finset.mem_insert.1 hq with rfl | hlater
      · exact absurd hpq (lt_irrefl _)
      · have := (h.stands q hlater).1
        omega
    · rcases Finset.mem_insert.1 hq with rfl | hlater
      · by_contra hlt
        exact hfree ⟨p, hold, hpq.le, Nat.lt_of_not_le hlt⟩
      · exact h.apart p hold q hlater hpq
  covered q hq := by
    rcases (Nat.lt_succ_iff.1 hq.1).eq_or_lt with rfl | hlt
    · exact ⟨q, Finset.mem_insert_self q places, le_rfl, Nat.lt_add_of_pos_right hlength⟩
    · obtain ⟨p, hp, hpq⟩ := h.covered q ⟨hlt, hq.2⟩
      exact ⟨p, Finset.mem_insert_of_mem hp, hpq⟩

/-- Where nothing stands, or what stands is covered, no place is picked. -/
theorem IsLeftmost.keep {n : Nat} (h : IsLeftmost (fun q => q < n ∧ occurs q) length places)
    (hn : occurs n → Covered places length n) :
    IsLeftmost (fun q => q < n + 1 ∧ occurs q) length places where
  stands p hp := (h.stands p hp).imp_left Nat.lt_succ_of_lt
  apart := h.apart
  covered q hq := by
    rcases (Nat.lt_succ_iff.1 hq.1).eq_or_lt with rfl | hlt
    · exact hn hq.2
    · exact h.covered q ⟨hlt, hq.2⟩

theorem exists_isLeftmost_lt (hlength : 0 < length) (occurs : Nat → Prop) (n : Nat) :
    ∃ places, IsLeftmost (fun q => q < n ∧ occurs q) length places := by
  induction n with
  | zero => exact ⟨∅, by simp, by simp, fun q hq => absurd hq.1 q.not_lt_zero⟩
  | succ n ih =>
      obtain ⟨places, h⟩ := ih
      by_cases hn : occurs n → Covered places length n
      · exact ⟨places, h.keep hn⟩
      · obtain ⟨hoccurs, hfree⟩ := Classical.not_imp.1 hn
        exact ⟨insert n places, h.insert hlength hoccurs hfree⟩

theorem exists_isLeftmost {n : Nat} (hlength : 0 < length) (hbound : ∀ q, occurs q → q < n) :
    ∃ places, IsLeftmost occurs length places := by
  obtain ⟨places, h⟩ := exists_isLeftmost_lt hlength occurs n
  exact ⟨places, fun p hp => (h.stands p hp).2, h.apart, fun q hq => h.covered q ⟨hbound q hq, hq⟩⟩

/-! ### What is written -/

variable {length? : List Char → Option Nat} {old new cs text : List Char}

/-- What stands for one character of the text when `new` is put at the places. -/
def put (places : Finset Nat) (length : Nat) (new : List Char) (entry : Char × Nat) : List Char :=
  if entry.2 ∈ places then new else if Covered places length entry.2 then [] else [entry.1]

/-- The text with `new` at each of the places instead of as many characters as `length` says. -/
def putAt (places : Finset Nat) (length : Nat) (new text : List Char) : List Char :=
  text.zipIdx.flatMap (put places length new)

/-- In front of a place, with so many characters behind it that belong to an earlier one. -/
structure Passed (places : Finset Nat) (length skip i : Nat) : Prop where
  before : ∀ p ∈ places, p < i → p + length ≤ i + skip
  inside : ∀ j, i ≤ j → j < i + skip → j ∉ places ∧ Covered places length j

theorem Passed.skip {skip i : Nat} (h : Passed places length (skip + 1) i) :
    Passed places length skip (i + 1) where
  before p hp hlt := by
    rcases (Nat.lt_succ_iff.1 hlt).eq_or_lt with rfl | hlt
    · exact absurd hp (h.inside p le_rfl (by omega)).1
    · have := h.before p hp hlt
      omega
  inside j hle hlt := h.inside j (by omega) (by omega)

theorem Passed.place {i : Nat} (h : Passed places length 0 i) (hplaces : IsLeftmost occurs length places)
    (hlength : 0 < length) (hi : i ∈ places) : Passed places length (length - 1) (i + 1) where
  before p hp hlt := by
    rcases (Nat.lt_succ_iff.1 hlt).eq_or_lt with rfl | hlt
    · omega
    · have := h.before p hp hlt
      omega
  inside j hle hlt := by
    refine ⟨fun hj => ?_, i, hi, by omega, by omega⟩
    have := hplaces.apart i hi j hj (by omega)
    omega

theorem Passed.next {i : Nat} (h : Passed places length 0 i) (hi : i ∉ places) :
    Passed places length 0 (i + 1) where
  before p hp hlt := by
    rcases (Nat.lt_succ_iff.1 hlt).eq_or_lt with rfl | hlt
    · exact absurd hp hi
    · have := h.before p hp hlt
      omega
  inside j hle hlt := by omega

/-- With nothing left of an earlier place, something stands here exactly when the place is picked. -/
theorem Passed.mem_iff {i : Nat} (h : Passed places length 0 i) (hplaces : IsLeftmost occurs length places) :
    i ∈ places ↔ occurs i := by
  refine ⟨hplaces.stands i, fun hi => ?_⟩
  obtain ⟨p, hp, hle, hlt⟩ := hplaces.covered i hi
  rcases hle.eq_or_lt with rfl | hpi
  · exact hp
  · have := h.before p hp hpi
    omega

theorem Passed.not_covered {i : Nat} (h : Passed places length 0 i) (hi : i ∉ places) :
    ¬ Covered places length i := by
  rintro ⟨p, hp, hle, hlt⟩
  rcases hle.eq_or_lt with rfl | hpi
  · exact hi hp
  · have := h.before p hp hpi
    omega

/-- The rest of a text, read from a place on. -/
theorem replaceWhere_of_passed (hlength : 0 < length) (hplaces : IsLeftmost occurs length places)
    (hstands : ∀ i < text.length, ∀ n, length? (text.drop i) = some n ↔ occurs i ∧ n = length)
    {skip i : Nat} (hcs : text.drop i = cs) (h : Passed places length skip i) :
    replaceWhere length? new skip cs = (cs.zipIdx i).flatMap (put places length new) := by
  -- the number of characters to skip is what `Passed` says of the places, and it is kept by every step
  induction cs generalizing skip i with
  | nil => cases skip <;> rfl
  | cons c cs ih =>
      have hnext : text.drop (i + 1) = cs := by
        rw [← List.drop_drop, hcs]
        rfl
      rw [List.zipIdx_cons, List.flatMap_cons]
      cases skip with
      | succ skip =>
          obtain ⟨hnot, hcovered⟩ := h.inside i le_rfl (by omega)
          rw [replaceWhere, ih hnext h.skip, put, if_neg hnot, if_pos hcovered, List.nil_append]
      | zero =>
          have hi : i < text.length := by
            by_contra hle
            rw [List.drop_eq_nil_of_le (Nat.le_of_not_lt hle)] at hcs
            exact nomatch hcs
          have hlengths := hstands i hi
          rw [hcs, ← h.mem_iff hplaces] at hlengths
          rw [replaceWhere]
          by_cases hpicked : i ∈ places
          · rw [(hlengths length).2 ⟨hpicked, rfl⟩, put, if_pos hpicked]
            exact congrArg (new ++ ·) (ih hnext (h.place hplaces hlength hpicked))
          · have hnone : length? (c :: cs) = none :=
              Option.eq_none_iff_forall_ne_some.2 fun n hn => hpicked ((hlengths n).1 hn).1
            rw [hnone, put, if_neg hpicked, if_neg (h.not_covered hpicked)]
            exact congrArg (c :: ·) (ih hnext (h.next hpicked))

/-- The new text is put at the places that are picked from the left. -/
theorem replaceWhere_eq_putAt (hlength : 0 < length) (hplaces : IsLeftmost occurs length places)
    (hstands : ∀ i < text.length, ∀ n, length? (text.drop i) = some n ↔ occurs i ∧ n = length) :
    replaceWhere length? new 0 text = putAt places length new text := by
  refine replaceWhere_of_passed hlength hplaces hstands rfl
    ⟨fun p _ hlt => absurd hlt p.not_lt_zero, fun j _ hlt => ?_⟩
  omega

theorem replaceEach_eq_putAt (hold : old ≠ [])
    (hplaces : IsLeftmost (fun i => old <+: text.drop i) old.length places) :
    replaceEach old new text = putAt places old.length new text := by
  refine replaceWhere_eq_putAt (List.length_pos_of_ne_nil hold) hplaces fun i _ n => ?_
  simp only [Option.map_eq_some_iff, dropFront?_eq_some, exists_and_right]
  exact and_congr (exists_congr fun rest => eq_comm) eq_comm

theorem lt_length_of_prefix (hold : old ≠ []) {i : Nat} (h : old <+: text.drop i) :
    i < text.length := by
  by_contra hle
  rw [List.drop_eq_nil_of_le (Nat.le_of_not_lt hle), List.prefix_nil] at h
  exact hold h

end Text

end Understudy
